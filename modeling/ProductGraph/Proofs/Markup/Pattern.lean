import ProductGraph.Markup.Sanitize

namespace ProductGraph
namespace Markup

/-!
# Patterns at the front of a text

What counts as active is said by patterns: one character of a sort, any number of characters of a sort, or that no
character of a sort comes next.  Whether a text begins with what a pattern describes does not ask in which way it does.

A pattern that goes on beyond a place has some of its parts left there.  What stands behind this place matters only to
these parts.
-/

/-- A part of a pattern. -/
inductive Part where
  | one (sort : Char → Bool)
  | many (sort : Char → Bool)
  | notNext (sort : Char → Bool)

/-- A text begins with what parts describe. -/
inductive Fits : List Part → List Char → Prop
  | done {cs : List Char} : Fits [] cs
  | one {sort : Char → Bool} {parts : List Part} {c : Char} {rest : List Char} (is : sort c = true)
      (behind : Fits parts rest) : Fits (.one sort :: parts) (c :: rest)
  | enough {sort : Char → Bool} {parts : List Part} {cs : List Char} (behind : Fits parts cs) :
      Fits (.many sort :: parts) cs
  | more {sort : Char → Bool} {parts : List Part} {c : Char} {rest : List Char} (is : sort c = true)
      (behind : Fits (.many sort :: parts) rest) : Fits (.many sort :: parts) (c :: rest)
  | notNext {sort : Char → Bool} {parts : List Part} {cs : List Char} (isNot : cs.head?.any sort = false)
      (behind : Fits parts cs) : Fits (.notNext sort :: parts) cs

/-- Everything up to the first of a character, and this character. -/
def upTo (mark : Char) : List Part := [.many (· != mark), .one (· == mark)]

/-- The letters of a word, case apart. -/
def letters (word : String) : List Part := word.toList.map fun letter => .one (isLetterOf letter)

variable {sort : Char → Bool} {parts : List Part} {cs : List Char}

namespace Fits

theorem one_iff : Fits (.one sort :: parts) cs ↔ ∃ c rest, cs = c :: rest ∧ sort c = true ∧ Fits parts rest := by
  constructor
  · rintro (_ | ⟨is, behind⟩)
    exact ⟨_, _, rfl, is, behind⟩
  · rintro ⟨c, rest, rfl, is, behind⟩
    exact .one is behind

theorem one_cons_iff {c : Char} {rest : List Char} :
    Fits (.one sort :: parts) (c :: rest) ↔ sort c = true ∧ Fits parts rest := by
  constructor
  · rintro (_ | ⟨is, behind⟩)
    exact ⟨is, behind⟩
  · exact fun both => .one both.1 both.2

theorem notNext_iff : Fits (.notNext sort :: parts) cs ↔ cs.head?.any sort = false ∧ Fits parts cs := by
  constructor
  · rintro (_ | _ | _ | _ | ⟨isNot, behind⟩)
    exact ⟨isNot, behind⟩
  · exact fun both => .notNext both.1 both.2

/-- Where the parts behind do not begin with a character of the sort, all of them are passed over. -/
theorem many_iff (apart : ∀ c rest, Fits parts (c :: rest) → sort c = false) :
    Fits (.many sort :: parts) cs ↔ Fits parts (cs.dropWhile sort) := by
  constructor
  · intro fits
    induction cs with
    | nil =>
        cases fits with
        | enough behind => exact behind
    | cons c rest ih =>
        cases fits with
        | enough behind => rwa [List.dropWhile_cons_of_neg (by rw [apart c rest behind]; exact Bool.false_ne_true)]
        | more is behind =>
            rw [List.dropWhile_cons_of_pos is]
            exact ih behind
  · intro fits
    induction cs with
    | nil => exact .enough fits
    | cons c rest ih =>
        by_cases is : sort c = true
        · rw [List.dropWhile_cons_of_pos is] at fits
          exact .more is (ih fits)
        · rw [List.dropWhile_cons_of_neg is] at fits
          exact .enough fits

theorem many_mono {others : List Part} (implies : ∀ s, Fits parts s → Fits others s)
    (fits : Fits (.many sort :: parts) cs) : Fits (.many sort :: others) cs := by
  induction cs with
  | nil =>
      cases fits with
      | enough behind => exact .enough (implies _ behind)
  | cons c rest ih =>
      cases fits with
      | enough behind => exact .enough (implies _ behind)
      | more is behind => exact .more is (ih behind)

theorem upTo_iff {mark : Char} : Fits (upTo mark) cs ↔ mark ∈ cs := by
  induction cs with
  | nil =>
      refine ⟨fun fits => ?_, fun member => nomatch member⟩
      cases fits with
      | enough behind => cases behind
  | cons c rest ih =>
      rw [List.mem_cons, ← ih]
      constructor
      · intro fits
        cases fits with
        | enough behind =>
            cases behind with
            | one is _ => exact .inl (beq_iff_eq.mp is).symm
        | more _ behind => exact .inr behind
      · intro either
        by_cases here : c = mark
        · exact .enough (.one (beq_iff_eq.mpr here) .done)
        · exact .more (bne_iff_ne.mpr here) (either.resolve_left (Ne.symm here))

theorem letters_iff {word : List Char} :
    Fits ((word.map fun letter => .one (isLetterOf letter)) ++ parts) cs ↔
      ∃ rest, afterLetters? word cs = some rest ∧ Fits parts rest := by
  induction word generalizing cs with
  | nil => simp [afterLetters?]
  | cons letter word ih =>
      rw [List.map_cons, List.cons_append, one_iff]
      constructor
      · rintro ⟨c, rest, rfl, is, behind⟩
        rcases ih.mp behind with ⟨left, found, fits⟩
        exact ⟨left, by rw [afterLetters?, if_pos is, found], fits⟩
      · rintro ⟨left, found, fits⟩
        cases cs with
        | nil => cases found
        | cons c rest =>
            rw [afterLetters?] at found
            split at found
            · rename_i is
              exact ⟨c, rest, rfl, is, ih.mpr ⟨left, found, fits⟩⟩
            · cases found

end Fits

/-! ## Patterns across a place -/

/-- What may be left of parts behind some character: what follows a part for one character, or a part for any number
and what follows it. -/
def cuts : List Part → List (List Part)
  | [] => [[]]
  | .one _ :: parts => parts :: cuts parts
  | .many sort :: parts => (.many sort :: parts) :: cuts parts
  | .notNext _ :: parts => cuts parts

/-- Of a pattern that has been read up to a place, some parts are left there.  Whatever they fit there, the pattern
fits, and what stands before the parts that are left has been found already. -/
structure LeftAt (parts : List Part) (before : List Char) (left : List Part) : Prop where
  isCut : left ∈ cuts parts
  goesOn {other : List Char} (fits : Fits left other) : Fits parts (before ++ other)
  passed {front back : List Part} (whole : parts = front ++ back) (isIn : left <:+ back) (other : List Char) :
    Fits front (before ++ other)

namespace LeftAt

variable {c : Char} {before : List Char} {left : List Part}

theorem of_one (is : sort c = true) : LeftAt (.one sort :: parts) [c] parts := by
  refine ⟨List.mem_cons_self, .one is, fun {front back} whole isIn other => ?_⟩
  rcases front with _ | ⟨first, front⟩
  · exact .done
  · cases whole
    have shorter : (front ++ back).length ≤ back.length := isIn.length_le
    rw [List.length_append] at shorter
    rw [List.eq_nil_of_length_eq_zero (l := front) (by omega)]
    exact .one is .done

theorem of_more (is : sort c = true) : LeftAt (.many sort :: parts) [c] (.many sort :: parts) := by
  refine ⟨List.mem_cons_self, .more is, fun {front back} whole isIn other => ?_⟩
  have shorter := isIn.length_le
  rw [whole, List.length_append] at shorter
  rw [List.eq_nil_of_length_eq_zero (l := front) (by omega)]
  exact .done

theorem one (leftAt : LeftAt parts before left) (is : sort c = true) :
    LeftAt (.one sort :: parts) (c :: before) left := by
  refine ⟨List.mem_cons_of_mem _ leftAt.isCut, fun found => .one is (leftAt.goesOn found),
    fun {front back} whole isIn other => ?_⟩
  rcases front with _ | ⟨first, front⟩
  · exact .done
  · cases whole
    exact .one is (leftAt.passed rfl isIn other)

theorem enough (leftAt : LeftAt parts before left) : LeftAt (.many sort :: parts) before left := by
  refine ⟨List.mem_cons_of_mem _ leftAt.isCut, fun found => .enough (leftAt.goesOn found),
    fun {front back} whole isIn other => ?_⟩
  rcases front with _ | ⟨first, front⟩
  · exact .done
  · cases whole
    exact .enough (leftAt.passed rfl isIn other)

theorem more (leftAt : LeftAt (.many sort :: parts) before left) (is : sort c = true) :
    LeftAt (.many sort :: parts) (c :: before) left := by
  refine ⟨leftAt.isCut, fun found => .more is (leftAt.goesOn found), fun {front back} whole isIn other => ?_⟩
  rcases front with _ | ⟨first, front⟩
  · exact .done
  · have found := leftAt.passed whole isIn other
    cases whole
    exact .more is found

theorem notNext (leftAt : LeftAt parts (c :: before) left) (isNot : sort c = false) :
    LeftAt (.notNext sort :: parts) (c :: before) left := by
  refine ⟨leftAt.isCut, fun found => .notNext isNot (leftAt.goesOn found), fun {front back} whole isIn other => ?_⟩
  rcases front with _ | ⟨first, front⟩
  · exact .done
  · cases whole
    exact .notNext isNot (leftAt.passed rfl isIn other)

end LeftAt

/-- Of a pattern that is found across a place, some parts are left there. -/
theorem Fits.across {c : Char} {before behind : List Char} (fits : Fits parts (c :: before ++ behind)) :
    ∃ left, LeftAt parts (c :: before) left ∧ Fits left behind := by
  generalize whole : c :: before ++ behind = cs at fits
  induction fits generalizing c before with
  | done =>
      refine ⟨[], ⟨List.mem_singleton_self [], fun _ => .done, fun whole _ _ => ?_⟩, .done⟩
      rw [(List.append_eq_nil_iff.mp whole.symm).1]
      exact .done
  | one is fits ih =>
      cases whole
      cases before with
      | nil => exact ⟨_, .of_one is, fits⟩
      | cons e before =>
          rcases ih rfl with ⟨left, leftAt, here⟩
          exact ⟨left, leftAt.one is, here⟩
  | enough fits ih =>
      rcases ih whole with ⟨left, leftAt, here⟩
      exact ⟨left, leftAt.enough, here⟩
  | more is fits ih =>
      cases whole
      cases before with
      | nil => exact ⟨_, .of_more is, fits⟩
      | cons e before =>
          rcases ih rfl with ⟨left, leftAt, here⟩
          exact ⟨left, leftAt.more is, here⟩
  | notNext isNot fits ih =>
      cases whole
      rcases ih rfl with ⟨left, leftAt, here⟩
      exact ⟨left, leftAt.notNext isNot, here⟩

/-- Of parts behind a word, some are left behind a letter of it or behind the word. -/
theorem mem_cuts_letters {word : List Char} {left : List Part}
    (isCut : left ∈ cuts ((word.map fun letter => .one (isLetterOf letter)) ++ parts)) :
    (∃ letter ∈ word, ∃ more, left = .one (isLetterOf letter) :: more) ∨ left = parts ∨ left ∈ cuts parts := by
  induction word with
  | nil => exact .inr (.inr isCut)
  | cons letter word ih =>
      rcases List.mem_cons.mp isCut with rfl | later
      · cases word with
        | nil => exact .inr (.inl rfl)
        | cons next word => exact .inl ⟨next, by simp, _, rfl⟩
      · rcases ih later with ⟨other, member, more⟩ | behind
        · exact .inl ⟨other, List.mem_cons_of_mem _ member, more⟩
        · exact .inr behind

end Markup
end ProductGraph
