import Mathlib.Data.List.TakeWhile
import ProductGraph.Pattern.Reader

namespace ProductGraph
namespace Expression

/-!
# What is written behind a pattern

A part of a pattern is read character by character, and how far it goes shows only in what follows.  Writing more behind
a text that was read does not undo the reading: what is left grows by what is written.

Where nothing is left there are two ways.  If the text ended outside a comment, a closing parenthesis behind it belongs
to nothing in the text and is left.  If it ended in a comment, all of the line goes into the comment.  Every reader of
patterns is of this sort, and readers that follow one another are so together.
-/

open Unicode (isBlank isAsciiDigit)

/-- What may be written behind a text that was read to its end: nothing, or a closing parenthesis first. -/
def Closes (t : List Char) : Prop := ∀ c ∈ t.head?, c = ')'

theorem Closes.cases {t : List Char} (closes : Closes t) : t = [] ∨ ∃ more, t = ')' :: more := by
  cases t with
  | nil => exact .inl rfl
  | cons c more => exact .inr ⟨more, congrArg (· :: more) (closes c rfl)⟩

/-- A reading that is not undone by what is written behind the text, given steps for what is written as well. -/
structure Extends {α : Type} (read : Nat → List Char → Option (α × List Char)) (steps : Nat) (cs : List Char) (a : α)
    (rest : List Char) : Prop where
  suffix : rest <:+ cs
  behind : (∀ t fuel, (rest = [] → Closes t) → steps + t.length ≤ fuel → read fuel (cs ++ t) = some (a, rest ++ t)) ∨
    (rest = [] ∧ '#' ∈ cs ∧ ∀ t fuel, '\n' ∉ t → steps + t.length ≤ fuel → read fuel (cs ++ t) = some (a, []))

namespace Extends

variable {α β : Type} {first : Nat → List Char → Option (α × List Char)}
  {second read : Nat → List Char → Option (β × List Char)} {steps others : Nat} {cs mid rest : List Char} {a : α}
  {b : β}

/-- More steps change nothing. -/
theorem again (reads : Extends first steps cs a rest) {fuel : Nat} (enough : steps ≤ fuel) :
    first fuel cs = some (a, rest) := by
  rcases reads.behind with left | ⟨rfl, _, inComment⟩
  · have same := left [] fuel (fun _ _ => nofun) enough
    rwa [List.append_nil, List.append_nil] at same
  · have same := inComment [] fuel List.not_mem_nil enough
    rwa [List.append_nil] at same

/-- What is left grows by what is written behind. -/
theorem beyond (reads : Extends first steps cs a rest) (left : rest ≠ []) (t : List Char) {fuel : Nat}
    (enough : steps + t.length ≤ fuel) : first fuel (cs ++ t) = some (a, rest ++ t) := by
  rcases reads.behind with grows | ⟨nothing, _⟩
  · exact grows t fuel (fun nothing => absurd nothing left) enough
  · exact absurd nothing left

/-- A reading that does not look at what is left. -/
theorem of_append (suffix : rest <:+ cs)
    (all : ∀ t fuel, steps + t.length ≤ fuel → first fuel (cs ++ t) = some (a, rest ++ t)) :
    Extends first steps cs a rest :=
  ⟨suffix, .inl fun t fuel _ => all t fuel⟩

/-- A reading that takes nothing. -/
theorem here (same : ∀ t fuel, read fuel (cs ++ t) = some (b, cs ++ t)) : Extends read steps cs b cs :=
  of_append List.suffix_rfl fun t fuel _ => same t fuel

theorem weaken (reads : Extends first steps cs a rest) (le : steps ≤ others) : Extends first others cs a rest :=
  ⟨reads.suffix, reads.behind.imp
    (fun grows t fuel closes enough => grows t fuel closes (Nat.le_trans (Nat.add_le_add_right le _) enough))
    (fun ⟨isNil, comment, inComment⟩ => ⟨isNil, comment, fun t fuel oneLine enough =>
      inComment t fuel oneLine (Nat.le_trans (Nat.add_le_add_right le _) enough)⟩)⟩

/-- A step is taken before the reading. -/
theorem succ (reads : Extends (fun fuel => first (fuel + 1)) steps cs a rest) :
    Extends first (steps + 1) cs a rest := by
  have fewer : ∀ {k fuel : Nat}, steps + 1 + k ≤ fuel → ∃ less, fuel = less + 1 ∧ steps + k ≤ less := by
    intro k fuel enough
    exact ⟨fuel - 1, by omega, by omega⟩
  refine ⟨reads.suffix, reads.behind.imp (fun grows t fuel closes enough => ?_) ?_⟩
  · rcases fewer enough with ⟨less, rfl, le⟩
    exact grows t less closes le
  · rintro ⟨nothing, comment, inComment⟩
    refine ⟨nothing, comment, fun t fuel oneLine enough => ?_⟩
    rcases fewer enough with ⟨less, rfl, le⟩
    exact inComment t less oneLine le

/-- What was read gives something else, and leaves the same. -/
theorem giving (reads : Extends first steps cs a rest)
    (same : ∀ t fuel left, first fuel (cs ++ t) = some (a, left) → read fuel (cs ++ t) = some (b, left)) :
    Extends read steps cs b rest := by
  refine ⟨reads.suffix, reads.behind.imp (fun grows t fuel closes enough => ?_) ?_⟩
  · exact same t fuel _ (grows t fuel closes enough)
  · rintro ⟨nothing, comment, inComment⟩
    exact ⟨nothing, comment, fun t fuel oneLine enough => same t fuel _ (inComment t fuel oneLine enough)⟩

/-- Two readings, one after the other. -/
theorem both (reads : Extends first steps cs a mid) (goesOn : Extends second steps mid b rest)
    (same : ∀ t fuel left, first fuel (cs ++ t) = some (a, left) → read fuel (cs ++ t) = second fuel left) :
    Extends read steps cs b rest := by
  refine ⟨goesOn.suffix.trans reads.suffix, ?_⟩
  rcases reads.behind with grows | ⟨rfl, comment, inComment⟩
  · rcases goesOn.behind with alsoGrows | ⟨nothing, comment, inComment⟩
    · refine .inl fun t fuel closes le => ?_
      have closesMid : mid = [] → Closes t := by
        rintro rfl
        exact closes (List.suffix_nil.mp goesOn.suffix)
      rw [same t fuel _ (grows t fuel closesMid le)]
      exact alsoGrows t fuel closes le
    · refine .inr ⟨nothing, reads.suffix.subset comment, fun t fuel oneLine le => ?_⟩
      have someMid : mid = [] → Closes t := by
        rintro rfl
        cases comment
      rw [same t fuel _ (grows t fuel someMid le)]
      exact inComment t fuel oneLine le
  · -- the comment goes on, so that the second reading has nothing more to read than before
    have nothing : rest = [] := List.suffix_nil.mp goesOn.suffix
    refine .inr ⟨nothing, comment, fun t fuel oneLine le => ?_⟩
    rw [same t fuel _ (inComment t fuel oneLine le), goesOn.again (Nat.le_trans (Nat.le_add_right _ _) le), nothing]

/-- A reading that is given a step for each character needs none. -/
theorem own (reads : Extends first cs.length cs a rest) : Extends (fun _ cs => first cs.length cs) 0 cs a rest :=
  ⟨reads.suffix, reads.behind.imp
    (fun grows t _ closes _ => grows t _ closes (Nat.le_of_eq List.length_append.symm))
    (fun ⟨isNil, comment, inComment⟩ => ⟨isNil, comment, fun t _ oneLine _ =>
      inComment t _ oneLine (Nat.le_of_eq List.length_append.symm)⟩)⟩

end Extends

/-- What a text is cut down to does not depend on what is written behind it. -/
def Cuts (cut : List Char → List Char) (cs : List Char) : Prop :=
  Extends (fun _ cs => some ((), cut cs)) 0 cs () (cut cs)

namespace Cuts

variable {α β : Type} {first : Nat → List Char → Option (α × List Char)}
  {second read : Nat → List Char → Option (β × List Char)} {cut cutAgain : List Char → List Char}
  {steps : Nat} {cs rest : List Char} {b : β}

theorem of_append (suffix : cut cs <:+ cs) (all : ∀ t, cut (cs ++ t) = cut cs ++ t) : Cuts cut cs :=
  Extends.of_append suffix fun t _ _ => congrArg (fun rest => some ((), rest)) (all t)

/-- One character is taken off. -/
theorem drop (c : Char) (cs : List Char) : Cuts (List.drop 1) (c :: cs) :=
  of_append (List.suffix_cons c cs) fun _ => rfl

/-- A text is cut down before it is read. -/
theorem reading (cuts : Cuts cut cs) (goesOn : Extends second steps (cut cs) b rest) :
    Extends (fun fuel cs => second fuel (cut cs)) steps cs b rest := by
  refine Extends.both (cuts.weaken (Nat.zero_le steps)) goesOn fun t fuel left found => ?_
  rw [(Prod.mk.inj (Option.some.inj found)).2]

/-- A reading that is another one of what a text is cut down to. -/
theorem before (cuts : Cuts cut cs) (goesOn : Extends second steps (cut cs) b rest)
    (same : ∀ t fuel, read fuel (cs ++ t) = second fuel (cut (cs ++ t))) : Extends read steps cs b rest :=
  (cuts.reading goesOn).giving fun t fuel _ found => (same t fuel).trans found

/-- Something is read without a look at what is cut off. -/
theorem giving (cuts : Cuts cut cs) (same : ∀ t fuel, read fuel (cs ++ t) = some (b, cut (cs ++ t))) :
    Extends read steps cs b (cut cs) := by
  refine Extends.giving (cuts.weaken (Nat.zero_le steps)) fun t fuel left found => ?_
  rw [same, (Prod.mk.inj (Option.some.inj found)).2]

theorem andThen (cuts : Cuts cut cs) (goesOn : Cuts cutAgain (cut cs)) : Cuts (fun cs => cutAgain (cut cs)) cs :=
  cuts.reading goesOn

/-- What is left of a reading is cut down. -/
theorem behind {a : α} {mid : List Char} (cuts : Cuts cut mid) (reads : Extends first steps cs a mid)
    (same : ∀ t fuel left, first fuel (cs ++ t) = some (a, left) → read fuel (cs ++ t) = some (b, cut left)) :
    Extends read steps cs b (cut mid) := by
  have goesOn : Extends (fun _ cs => some (b, cut cs)) steps mid b (cut mid) := cuts.giving fun _ _ => rfl
  exact reads.both goesOn same

/-- Where something is left, it is left before whatever is written behind. -/
theorem append (cuts : Cuts cut cs) (left : cut cs ≠ []) (t : List Char) : cut (cs ++ t) = cut cs ++ t := by
  have grows := Extends.beyond cuts left t (Nat.le_refl _)
  exact (Prod.mk.inj (Option.some.inj grows)).2

theorem length_le (cuts : Cuts cut cs) : (cut cs).length ≤ cs.length := cuts.suffix.length_le

end Cuts

/-! ## White space -/

theorem skipBlanks_comment {t : List Char} (oneLine : '\n' ∉ t) : skipBlanks true t = [] := by
  induction t with
  | nil => rfl
  | cons c rest ih =>
      have stays : (c != '\n') = true := bne_iff_ne.mpr fun same => oneLine (same ▸ List.mem_cons_self)
      rw [skipBlanks, if_pos rfl, stays]
      exact ih fun later => oneLine (List.mem_cons_of_mem _ later)

theorem skipBlanks_of_closes {t : List Char} (closes : Closes t) : skipBlanks false t = t := by
  rcases closes.cases with rfl | ⟨more, rfl⟩
  · rfl
  · rw [skipBlanks, if_neg Bool.false_ne_true, if_neg (by decide), if_neg (by decide)]

/-- What is left behind white space grows by what is written behind, or nothing is left and a comment is open. -/
def SkipsOn (inComment : Bool) (cs rest : List Char) : Prop :=
  rest <:+ cs ∧
    ((∀ t, (rest = [] → Closes t) → skipBlanks inComment (cs ++ t) = rest ++ t) ∨
      (rest = [] ∧ (inComment = true ∨ '#' ∈ cs) ∧ ∀ t, '\n' ∉ t → skipBlanks inComment (cs ++ t) = []))

/-- A character is skipped, and may open a comment if it is a number sign or close the one that is open. -/
theorem SkipsOn.cons {inComment stillOpen : Bool} {c : Char} {cs rest : List Char} (skips : SkipsOn stillOpen cs rest)
    (eq : ∀ tail, skipBlanks inComment (c :: tail) = skipBlanks stillOpen tail)
    (opened : stillOpen = true → inComment = true ∨ c = '#') : SkipsOn inComment (c :: cs) rest := by
  rcases skips with ⟨suffix, behind⟩
  refine ⟨suffix.trans (List.suffix_cons c cs), ?_⟩
  simp only [List.cons_append, eq]
  rcases behind with grows | ⟨isNil, comment, swallows⟩
  · exact .inl grows
  · refine .inr ⟨isNil, ?_, swallows⟩
    rcases comment with isOpen | member
    · refine (opened isOpen).imp_right fun sign => ?_
      rw [sign]
      exact List.mem_cons_self
    · exact .inr (List.mem_cons_of_mem _ member)

theorem skipsOn (inComment : Bool) (cs : List Char) : SkipsOn inComment cs (skipBlanks inComment cs) := by
  induction cs generalizing inComment with
  | nil =>
      refine ⟨List.suffix_rfl, ?_⟩
      cases inComment with
      | true => exact .inr ⟨rfl, .inl rfl, fun _ => skipBlanks_comment⟩
      | false => exact .inl fun t closes => skipBlanks_of_closes (closes rfl)
  | cons c rest ih =>
      cases inComment with
      | true =>
          have eq : ∀ tail, skipBlanks true (c :: tail) = skipBlanks (c != '\n') tail := by
            intro tail
            rw [skipBlanks, if_pos rfl]
          rw [eq]
          exact (ih _).cons eq fun _ => .inl rfl
      | false =>
          by_cases blank : isBlank c = true
          · have eq : ∀ tail, skipBlanks false (c :: tail) = skipBlanks false tail := by
              intro tail
              rw [skipBlanks, if_neg Bool.false_ne_true, if_pos blank]
            rw [eq]
            exact (ih _).cons eq nofun
          · by_cases sign : c = '#'
            · have eq : ∀ tail, skipBlanks false (c :: tail) = skipBlanks true tail := by
                intro tail
                rw [skipBlanks, if_neg Bool.false_ne_true, if_neg blank, if_pos sign]
              rw [eq]
              exact (ih _).cons eq fun _ => .inr sign
            · have stops : ∀ tail, skipBlanks false (c :: tail) = c :: tail := by
                intro tail
                rw [skipBlanks, if_neg Bool.false_ne_true, if_neg blank, if_neg sign]
              rw [stops]
              exact ⟨List.suffix_rfl, .inl fun t _ => stops (rest ++ t)⟩

/-- White space and comments are skipped alike, whatever stands behind. -/
theorem cuts_skip (spaced : Bool) (cs : List Char) : Cuts (skip spaced) cs := by
  cases spaced with
  | false => exact .of_append List.suffix_rfl fun _ => rfl
  | true =>
      rcases skipsOn false cs with ⟨suffix, grows | ⟨nothing, comment, swallows⟩⟩
      · exact ⟨suffix, .inl fun t fuel closes _ => congrArg (fun rest => some ((), rest)) (grows t closes)⟩
      · refine ⟨suffix, .inr ⟨nothing, comment.resolve_left nofun, fun t fuel oneLine _ => ?_⟩⟩
        exact congrArg (fun rest => some ((), rest)) (swallows t oneLine)

theorem cuts_next (spaced : Bool) (c : Char) (cs : List Char) : Cuts (next spaced) (c :: cs) :=
  (Cuts.drop c cs).andThen (cuts_skip spaced cs)

theorem cuts_dropBlanks (cs : List Char) : Cuts (List.dropWhile isBlank) cs := by
  refine ⟨List.dropWhile_suffix _, .inl fun t fuel closes _ => congrArg (fun rest => some ((), rest)) ?_⟩
  rw [List.dropWhile_append]
  cases left : cs.dropWhile isBlank with
  | cons c more => simp
  | nil =>
      rcases (closes left).cases with rfl | ⟨more, rfl⟩
      · rfl
      · rw [List.isEmpty_nil, if_pos rfl, List.dropWhile_cons_of_neg (by decide), List.nil_append]

theorem cuts_afterMark (cs : List Char) : Cuts afterMark cs := by
  cases cs with
  | nil =>
      refine ⟨List.suffix_rfl, .inl fun t fuel closes _ => congrArg (fun rest => some ((), rest)) ?_⟩
      rcases (closes rfl).cases with rfl | ⟨more, rfl⟩
      · rfl
      · rfl
  | cons c rest =>
      by_cases mark : c = '?'
      · subst mark
        exact .of_append (List.suffix_cons _ _) fun _ => rfl
      · have stops : ∀ tail, afterMark (c :: tail) = c :: tail := by
          intro tail
          unfold afterMark
          split
          · next same => exact absurd (List.cons.inj same).1 mark
          · rfl
        rw [Cuts, stops]
        exact .here fun t _ => congrArg (fun rest => some ((), rest)) (stops (rest ++ t))

/-! ## What is taken as long as it goes on -/

/-- A reader that takes characters of a kind, with white space skipped behind each, until there is another. -/
structure Takes {β : Type} (spaced : Bool) (kind : Char → Bool) (value : Char → β)
    (take : Nat → List Char → List β × List Char) : Prop where
  zero : ∀ cs, take 0 cs = ([], cs)
  nil : ∀ steps, take steps [] = ([], [])
  stops : ∀ steps c cs, kind c = false → take steps (c :: cs) = ([], c :: cs)
  goesOn : ∀ steps c cs, kind c = true → take (steps + 1) (c :: cs) =
    (value c :: (take steps (next spaced (c :: cs))).1, (take steps (next spaced (c :: cs))).2)

/-- What is taken is taken alike, since a closing parenthesis is not of the kind. -/
theorem Takes.extends {β : Type} {spaced : Bool} {kind : Char → Bool} {value : Char → β}
    {take : Nat → List Char → List β × List Char} (takes : Takes spaced kind value take) (closing : kind ')' = false)
    {steps : Nat} {cs : List Char} (enough : cs.length ≤ steps) :
    Extends (fun fuel cs => some (take fuel cs)) steps cs (take steps cs).1 (take steps cs).2 := by
  have nil : ∀ steps, Extends (fun fuel cs => some (take fuel cs)) steps [] [] [] := by
    refine fun _ => ⟨List.suffix_rfl, .inl fun t fuel closes _ => congrArg some ?_⟩
    rcases (closes rfl).cases with rfl | ⟨more, rfl⟩
    · exact takes.nil fuel
    · exact takes.stops fuel _ more closing
  induction steps generalizing cs with
  | zero =>
      cases List.length_eq_zero_iff.mp (Nat.le_zero.mp enough)
      rw [takes.nil]
      exact nil 0
  | succ steps ih =>
      cases cs with
      | nil =>
          rw [takes.nil]
          exact nil (steps + 1)
      | cons c rest =>
          cases ofKind : kind c with
          | false =>
              rw [takes.stops _ _ _ ofKind]
              exact .here fun t fuel => congrArg some (takes.stops fuel c (rest ++ t) ofKind)
          | true =>
              rw [takes.goesOn _ _ _ ofKind]
              have shorter := Nat.le_trans (cuts_skip spaced rest).length_le (Nat.le_of_succ_le_succ enough)
              have behind : Extends (fun fuel cs => some (take fuel (next spaced cs))) steps (c :: rest)
                  (take steps (next spaced (c :: rest))).1 (take steps (next spaced (c :: rest))).2 :=
                (cuts_next spaced c rest).before (ih shorter) fun _ _ => rfl
              refine Extends.succ (behind.giving fun t fuel left found => ?_)
              rw [List.cons_append] at found ⊢
              rw [takes.goesOn _ _ _ ofKind, Option.some.inj found]

end Expression
end ProductGraph
