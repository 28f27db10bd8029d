import ProductGraph.Proofs.Markup.Sanitize

namespace ProductGraph
namespace Markup

/-!
# Tidy texts

In a tidy text nothing active comes together when active content is removed: between two opening angles there is a
closing one, an event attribute ends where an attribute may end, and an address between quotes that begins as a script
has its second quote.  What fits across a seam of a tidy text would have fit there before.
-/

open Unicode (isBlank isWord)

variable {cs : List Char}

/-- Behind an opening angle comes another one before a closing one. -/
def Nested (s : List Char) : Prop := ∃ inside, s = '<' :: inside ∧ '<' ∈ inside.takeWhile (· != '>')

/-- Whether an attribute may end before a text: at the end of its tag, or before blanks that no equals sign follows. -/
def endsAttribute : List Char → Bool
  | [] => true
  | c :: rest => c == '>' || (c == '/' && rest.head? == some '>') || (isBlank c && (skipBlanks rest).head? != some '=')

/-- An address that begins as a script behind a double quote. -/
def scriptFront (name : String) : List Part :=
  letters name ++ (equalsSign ++ (.one (· == '"') :: .many isBlank :: letters "javascript:"))

/-- Nothing active comes together when active content is removed. -/
structure Tidy (cs : List Char) : Prop where
  angles : ¬Somewhere Nested cs
  events : ∀ s tail, s <:+ withoutTags cs → afterEvent? s = some tail → endsAttribute tail = true
  addresses : ∀ name ∈ ["href", "src"], ∀ s, s <:+ withoutEvents cs → Fits (scriptFront name) s →
    (scriptAddress? s).isSome

/-! ## Angles -/

/-- Where nothing is put in place of what is found, nothing begins in what is put there. -/
theorem nothing_inside {simple : List Char → Option (List Char)} {P : List Char → Prop}
    {s replacement tail behind : List Char} (finds : putting [] simple s = some (replacement, tail)) (d : Char)
    (q : List Char) (isIn : d :: q <:+ replacement) : ¬P (d :: q ++ behind) := by
  rcases putting_eq_some.mp finds with ⟨rfl, _⟩
  exact absurd (List.suffix_nil.mp isIn) (List.cons_ne_nil d q)

theorem mem_takeWhile_append {p x y : List Char} (inside : '<' ∈ (p ++ x).takeWhile (· != '>')) :
    '<' ∈ (p ++ '<' :: y).takeWhile (· != '>') := by
  rw [List.takeWhile_append] at inside ⊢
  split
  · simp
  · rename_i ends
    rwa [if_neg ends] at inside

theorem not_nested_withoutElements (angles : ¬Somewhere Nested cs) (names : List String) :
    ¬Somewhere Nested (withoutElements names cs) := by
  refine withoutElements_induction (P := fun text => ¬Somewhere Nested text) ?_ angles
  intro name _ cs out replaced angles somewhere
  refine absurd (replaced.somewhere (shortens_afterElement? name) ?_ ?_ ?_ somewhere) ?_
  · rintro ⟨inside, wrong, _⟩
    cases wrong
  · exact nothing_inside
  · intro c p s replacement tail behind _ _ finds _ nested
    rcases putting_eq_some.mp finds with ⟨rfl, found⟩
    rcases suffix_of_afterElement? found with ⟨inside, rfl, _⟩
    rcases nested with ⟨within, parts, isIn⟩
    cases parts
    exact ⟨_, rfl, mem_takeWhile_append isIn⟩
  · rintro ⟨s, suffix, _, nested⟩
    exact angles ⟨s, suffix, nested⟩

/-- Where an opening angle follows something in a tidy text, a closing one has come before. -/
theorem mem_of_not_nested {p y : List Char} (tidy : ¬Nested ('<' :: p ++ '<' :: y)) : '>' ∈ p := by
  by_contra absent
  refine tidy ⟨_, rfl, ?_⟩
  have all : ∀ c ∈ p, (c != '>') = true := fun c member => bne_iff_ne.mpr fun same => absent (same ▸ member)
  change '<' ∈ (p ++ '<' :: y).takeWhile (· != '>')
  rw [List.takeWhile_append_of_pos all]
  simp

/-! ## Tags across seams -/

/-- A text that begins with nothing that the name of an element may go on with. -/
structure Blunt (s : List Char) : Prop where
  letter : s.head?.any isLatinLetter = false
  slash : ∀ rest, s = '/' :: rest → rest.head?.any isLatinLetter = false

theorem not_fits_letter {word : List Char} (small : ∀ letter ∈ word, 'a' ≤ letter ∧ letter ≤ 'z') {letter : Char}
    (isIn : letter ∈ word) {more : List Part} {s : List Char} (noLetter : s.head?.any isLatinLetter = false) :
    ¬Fits (.one (isLetterOf letter) :: more) s := by
  intro fits
  rcases Fits.one_iff.mp fits with ⟨d, rest, rfl, is, _⟩
  have latin := isLatinLetter_of_isLetterOf (small letter isIn) is
  exact Bool.false_ne_true (noLetter.symm.trans latin)

theorem small_activeElements : ∀ name ∈ activeElements,
    name.toList ≠ [] ∧ ∀ letter ∈ name.toList, 'a' ≤ letter ∧ letter ≤ 'z' := by decide

/-- A tag that goes on beyond a place is found with another text behind the place too, if its name ends there and it
is closed. -/
theorem fits_tag_across {slash : List Part} {name : String} (isSlash : slash = [] ∨ slash = [.one (· == '/')])
    (isActive : name ∈ activeElements) {c : Char} {before x y : List Char}
    (fits : Fits (tagPattern slash name) (c :: before ++ x)) (blunt : Blunt x)
    (apart : y.head?.any isWord = false) (closed : '>' ∈ x → '>' ∈ y) :
    Fits (tagPattern slash name) (c :: before ++ y) := by
  rcases small_activeElements name isActive with ⟨someLetters, small⟩
  rcases fits.across with ⟨left, leftAt, here⟩
  refine leftAt.goesOn ?_
  have inName : left = letters name ++ .notNext isWord :: upTo '>' ∨
      left ∈ cuts (letters name ++ .notNext isWord :: upTo '>') → Fits left y := by
    rintro (rfl | isCut)
    · cases spelled : name.toList with
      | nil => exact absurd spelled someLetters
      | cons letter word =>
          rw [letters, spelled] at here
          exact absurd here (not_fits_letter small (spelled ▸ List.mem_cons_self) blunt.letter)
    · rcases mem_cuts_letters isCut with ⟨letter, isIn, more, rfl⟩ | rfl | isCut
      · exact absurd here (not_fits_letter small isIn blunt.letter)
      · exact .notNext apart (Fits.upTo_iff.mpr (closed (Fits.upTo_iff.mp (Fits.notNext_iff.mp here).2)))
      · simp only [cuts, upTo, List.mem_cons, List.not_mem_nil, or_false] at isCut
        rcases isCut with rfl | rfl | rfl
        · exact Fits.upTo_iff.mpr (closed (Fits.upTo_iff.mp here))
        · exact .done
        · exact .done
  have isCut := leftAt.isCut
  rcases isSlash with rfl | rfl
  · exact inName (List.mem_cons.mp isCut)
  · rcases List.mem_cons.mp isCut with rfl | isCut
    · rcases Fits.one_iff.mp here with ⟨d, rest, rfl, is, behind⟩
      cases beq_iff_eq.mp is
      cases spelled : name.toList with
      | nil => exact absurd spelled someLetters
      | cons letter word =>
          rw [letters, spelled] at behind
          exact absurd behind (not_fits_letter small (spelled ▸ List.mem_cons_self) (blunt.slash rest rfl))
    · exact inName (List.mem_cons.mp isCut)

/-- The same for the rule. -/
theorem isSome_afterActiveTag?_across {c : Char} {before x y : List Char}
    (found : (afterActiveTag? (c :: before ++ x)).isSome) (blunt : Blunt x) (apart : y.head?.any isWord = false)
    (closed : '>' ∈ x → '>' ∈ y) : (afterActiveTag? (c :: before ++ y)).isSome := by
  rcases isSome_afterActiveTag?.mp found with ⟨pattern, isPattern, fits⟩
  refine isSome_afterActiveTag?.mpr ⟨pattern, isPattern, ?_⟩
  rcases List.mem_flatMap.mp isPattern with ⟨name, isActive, isPattern⟩
  simp only [List.mem_cons, List.not_mem_nil, or_false] at isPattern
  rcases isPattern with rfl | rfl
  · exact fits_tag_across (.inl rfl) isActive fits blunt apart closed
  · exact fits_tag_across (.inr rfl) isActive fits blunt apart closed

theorem eq_of_isSome_afterActiveTag? {c : Char} {rest : List Char} (found : (afterActiveTag? (c :: rest)).isSome) :
    c = '<' := by
  rcases Option.isSome_iff_exists.mp found with ⟨tail, found⟩
  rcases suffix_of_afterActiveTag? found with ⟨inside, parts, _⟩
  exact (List.cons.inj parts).1

theorem blunt_angle (rest : List Char) : Blunt ('>' :: rest) := ⟨rfl, nofun⟩

theorem not_finds_withoutTags (angles : ¬Somewhere Nested (withoutElements activeElements cs)) :
    ¬Finds afterActiveTag? (withoutTags cs) := by
  intro finds
  refine absurd ((replaced_withoutTags cs).somewhere shortens_afterActiveTag? ?_ ?_ ?_ finds) ?_
  · decide
  · exact nothing_inside (P := fun s => (afterActiveTag? s).isSome)
  · intro c p s replacement tail behind suffix _ finds _ found
    rcases putting_eq_some.mp finds with ⟨rfl, tag⟩
    rcases suffix_of_afterActiveTag? tag with ⟨inside, rfl, _⟩
    cases eq_of_isSome_afterActiveTag? found
    -- the tag is closed before the seam
    have closed := mem_of_not_nested fun nested => angles ⟨_, suffix, nested⟩
    rcases List.append_of_mem closed with ⟨first, second, rfl⟩
    have regroup : ∀ rest, '<' :: (first ++ '>' :: second) ++ rest = '<' :: first ++ '>' :: (second ++ rest) := by
      simp
    rw [regroup] at found ⊢
    have apart : isWord '>' = false := by decide
    exact isSome_afterActiveTag?_across found (blunt_angle _) apart fun _ => List.mem_cons_self
  · rintro ⟨s, _, nothing, found⟩
    rw [putting, Option.map_eq_none_iff] at nothing
    rw [nothing] at found
    cases found

/-! ## Event attributes across seams -/

theorem exists_of_contains {ranges : Unicode.Ranges} {point : Nat} (inRange : ranges.contains point = true) :
    ∃ r ∈ ranges, r.1 ≤ point ∧ point ≤ r.2 := by
  induction ranges with
  | nil => cases inRange
  | cons r rest ih =>
      rw [Unicode.Ranges.contains] at inRange
      split at inRange
      · cases inRange
      · rename_i notBelow
        rcases Bool.or_eq_true _ _ |>.mp inRange with upTo | later
        · exact ⟨r, List.mem_cons_self, Nat.le_of_not_lt notBelow, of_decide_eq_true upTo⟩
        · rcases ih later with ⟨other, member, bounds⟩
          exact ⟨other, List.mem_cons_of_mem _ member, bounds⟩

/-- Blanks belong to no word. -/
theorem isWord_of_isBlank {c : Char} (blank : isBlank c = true) : isWord c = false := by
  have apart : ∀ r ∈ Unicode.blankRanges, ∀ i < r.2 + 1 - r.1, Unicode.wordRanges.contains (r.1 + i) = false := by
    decide +kernel
  rcases exists_of_contains blank with ⟨r, member, low, high⟩
  have outside := apart r member (c.toNat - r.1) (by omega)
  rwa [show r.1 + (c.toNat - r.1) = c.toNat by omega] at outside

theorem isLatinLetter_of_isBlank {c : Char} (blank : isBlank c = true) : isLatinLetter c = false := by
  cases latin : isLatinLetter c with
  | false => rfl
  | true =>
      rw [isBlank_of_isLatinLetter latin] at blank
      cases blank

theorem isBareChar_of_isLatinLetter {c : Char} (latin : isLatinLetter c = true) : isBareChar c = true := by
  have noAngle : c ≠ '>' := by
    rintro rfl
    cases latin
  simp [isBareChar, isBlank_of_isLatinLetter latin, noAngle]

/-- What an attribute may end before begins with a closing angle, a slash before one, or blanks. -/
theorem cases_of_endsAttribute {s : List Char} (ends : endsAttribute s = true) :
    s = [] ∨ (∃ rest, s = '>' :: rest) ∨ (∃ rest, s = '/' :: '>' :: rest) ∨
      ∃ c rest, s = c :: rest ∧ isBlank c = true ∧ (skipBlanks rest).head? ≠ some '=' := by
  cases s with
  | nil => exact .inl rfl
  | cons c rest =>
      simp only [endsAttribute, Bool.or_eq_true, Bool.and_eq_true, beq_iff_eq, bne_iff_ne] at ends
      rcases ends with (rfl | ⟨rfl, next⟩) | ⟨blank, next⟩
      · exact .inr (.inl ⟨rest, rfl⟩)
      · rcases List.head?_eq_some_iff.mp next with ⟨more, rfl⟩
        exact .inr (.inr (.inl ⟨more, rfl⟩))
      · exact .inr (.inr (.inr ⟨c, rest, rfl, blank, next⟩))

theorem blunt_of_endsAttribute {s : List Char} (ends : endsAttribute s = true) : Blunt s := by
  rcases cases_of_endsAttribute ends with rfl | ⟨rest, rfl⟩ | ⟨rest, rfl⟩ | ⟨c, rest, rfl, blank, _⟩
  · exact ⟨rfl, nofun⟩
  · exact blunt_angle rest
  · exact ⟨rfl, fun rest parts => by cases parts; rfl⟩
  · refine ⟨isLatinLetter_of_isBlank blank, fun rest parts => ?_⟩
    cases parts
    cases blank

/-- Blanks before an event attribute belong to it. -/
theorem afterEvent?_cons {c : Char} {rest tail : List Char} (blank : isBlank c = true)
    (found : afterEvent? rest = some tail) : afterEvent? (c :: rest) = some tail := by
  have skipped : skipBlanks (c :: rest) = skipBlanks rest := List.dropWhile_cons_of_pos blank
  have first : (c :: rest).head?.any isBlank = true := blank
  rw [afterEvent?] at found ⊢
  split at found
  · rw [if_pos first, skipped]
    exact found
  · cases found

/-- Behind blanks that belong to no event attribute, a text without event attributes goes on as before. -/
theorem head?_skipBlanks_of_replaced {c : Char} {rest out : List Char} (blank : isBlank c = true)
    (nothing : afterEvent? (c :: rest) = none) (replaced : Replaced (putting [] afterEvent?) rest out) :
    (skipBlanks out).head? = (skipBlanks rest).head? := by
  cases replaced with
  | nil => rfl
  | found finds _ =>
      rcases putting_eq_some.mp finds with ⟨_, found⟩
      rw [afterEvent?_cons blank found] at nothing
      cases nothing
  | @kept d rest out kept later =>
      by_cases alsoBlank : isBlank d = true
      · have skipped : ∀ more, skipBlanks (d :: more) = skipBlanks more := fun _ => List.dropWhile_cons_of_pos alsoBlank
        rw [skipped, skipped]
        exact head?_skipBlanks_of_replaced alsoBlank (Option.map_eq_none_iff.mp kept) later
      · have stays : ∀ more, skipBlanks (d :: more) = d :: more := fun _ => List.dropWhile_cons_of_neg alsoBlank
        rw [stays, stays]
        rfl

theorem Replaced.head_of_not_isBlank {c : Char} {rest out : List Char}
    (replaced : Replaced (putting [] afterEvent?) (c :: rest) out) (blank : isBlank c = false) :
    ∃ behind, out = c :: behind ∧ Replaced (putting [] afterEvent?) rest behind := by
  cases replaced with
  | found finds _ =>
      rcases putting_eq_some.mp finds with ⟨_, found⟩
      rw [afterEvent?, show (c :: rest).head?.any isBlank = false from blank] at found
      cases found
  | kept _ later => exact ⟨_, rfl, later⟩

/-- Where an attribute may end, it may end without the event attributes behind it too. -/
theorem endsAttribute_of_replaced
    (events : ∀ s tail, s <:+ cs → afterEvent? s = some tail → endsAttribute tail = true) {out : List Char}
    (replaced : Replaced (putting [] afterEvent?) cs out) (ends : endsAttribute cs = true) :
    endsAttribute out = true := by
  induction replaced with
  | nil => rfl
  | @found cs replacement tail out finds _ ih =>
      have suffix := shortens_afterEvent?.suffix finds
      rcases putting_eq_some.mp finds with ⟨rfl, found⟩
      exact ih (fun s tail isIn => events s tail (isIn.trans suffix)) (events _ _ (List.suffix_refl _) found)
  | @kept c rest out nothing later _ =>
      rcases cases_of_endsAttribute ends with impossible | ⟨_, parts⟩ | ⟨_, parts⟩ | ⟨_, _, parts, blank, next⟩
      · cases impossible
      · cases parts
        rfl
      · cases parts
        rcases later.head_of_not_isBlank (by decide) with ⟨behind, rfl, _⟩
        rfl
      · cases parts
        rw [← head?_skipBlanks_of_replaced blank (Option.map_eq_none_iff.mp nothing) later] at next
        simp [endsAttribute, blank, next]

/-- The equals sign of an attribute and what may be the first character of its value. -/
def valueFront : List Part := [.many isBlank, .one (· == '='), .many isBlank, .one isBareChar]

/-- What may be left of an event attribute: all but its first blank, the second letter of its name, a third one, any
more of them, the equals sign, blanks behind it, or nothing. -/
theorem mem_cuts_eventHead {left : List Part} (isCut : left ∈ cuts eventHead) :
    eventHead = .one isBlank :: left ∨ (∃ more, left = .one (isLetterOf 'n') :: more) ∨
      (∃ more, left = .one isLatinLetter :: more) ∨ left = .many isLatinLetter :: valueFront ∨ left = valueFront ∨
      left = [.many isBlank, .one isBareChar] ∨ left = [] := by
  have cuts_eq : cuts eventHead = [.many isBlank :: .one (isLetterOf 'o') :: .one (isLetterOf 'n') ::
      .one isLatinLetter :: .many isLatinLetter :: valueFront, .many isBlank :: .one (isLetterOf 'o') ::
      .one (isLetterOf 'n') :: .one isLatinLetter :: .many isLatinLetter :: valueFront,
      .one (isLetterOf 'n') :: .one isLatinLetter :: .many isLatinLetter :: valueFront,
      .one isLatinLetter :: .many isLatinLetter :: valueFront, .many isLatinLetter :: valueFront,
      .many isLatinLetter :: valueFront, valueFront, [.many isBlank, .one isBareChar],
      [.many isBlank, .one isBareChar], [], []] := rfl
  rw [cuts_eq] at isCut
  simp only [List.mem_cons, List.not_mem_nil, or_false] at isCut
  rcases isCut with rfl | rfl | rfl | rfl | rfl | rfl | rfl | rfl | rfl | rfl | rfl
  · exact .inl rfl
  · exact .inl rfl
  · exact .inr (.inl ⟨_, rfl⟩)
  · exact .inr (.inr (.inl ⟨_, rfl⟩))
  · exact .inr (.inr (.inr (.inl rfl)))
  · exact .inr (.inr (.inr (.inl rfl)))
  · exact .inr (.inr (.inr (.inr (.inl rfl))))
  · exact .inr (.inr (.inr (.inr (.inr (.inl rfl)))))
  · exact .inr (.inr (.inr (.inr (.inr (.inl rfl)))))
  · exact .inr (.inr (.inr (.inr (.inr (.inr rfl)))))
  · exact .inr (.inr (.inr (.inr (.inr (.inr rfl)))))

theorem not_fits_isLatinLetter {more : List Part} {s : List Char} (noLetter : s.head?.any isLatinLetter = false) :
    ¬Fits (.one isLatinLetter :: more) s := by
  intro fits
  rcases Fits.one_iff.mp fits with ⟨d, rest, rfl, is, _⟩
  exact Bool.false_ne_true (noLetter.symm.trans is)

/-- An event attribute that goes on where an attribute may end goes on at another event attribute too. -/
theorem fits_eventHead_across {c : Char} {before x y : List Char} (fits : Fits eventHead (c :: before ++ x))
    (ends : endsAttribute x = true) (goesOn : Fits eventHead y) : Fits eventHead (c :: before ++ y) := by
  have noLetter := (blunt_of_endsAttribute ends).letter
  have noSign : ¬Fits valueFront x := by
    intro here
    have apart : ∀ c rest, Fits [.one (· == '='), .many isBlank, .one isBareChar] (c :: rest) → isBlank c = false := by
      intro c rest found
      cases beq_iff_eq.mp (Fits.one_cons_iff.mp found).1
      decide
    rcases Fits.one_iff.mp ((fits_blanks apart).mp here) with ⟨d, behind, sign, is, _⟩
    cases beq_iff_eq.mp is
    rcases cases_of_endsAttribute ends with rfl | ⟨rest, rfl⟩ | ⟨rest, rfl⟩ | ⟨b, rest, rfl, blank, next⟩
    · cases sign
    · cases sign
    · cases sign
    · rw [skipBlanks, List.dropWhile_cons_of_pos blank] at sign
      exact next (List.head?_eq_some_iff.mpr ⟨behind, sign⟩)
  rcases Fits.one_iff.mp goesOn with ⟨d, rest, rfl, blank, behind⟩
  rcases fits.across with ⟨left, leftAt, here⟩
  refine leftAt.goesOn ?_
  rcases mem_cuts_eventHead leftAt.isCut with whole | ⟨more, rfl⟩ | ⟨more, rfl⟩ | rfl | rfl | rfl | rfl
  · cases whole
    exact .more blank behind
  · have small : ∀ letter ∈ ['n'], 'a' ≤ letter ∧ letter ≤ 'z' := by decide
    exact absurd here (not_fits_letter small List.mem_cons_self noLetter)
  · exact absurd here (not_fits_isLatinLetter noLetter)
  · cases here with
    | enough behind => exact absurd behind noSign
    | more is _ => exact absurd (noLetter.symm.trans is) Bool.false_ne_true
  · exact absurd here noSign
  · refine .more blank (behind.many_mono fun s found => ?_)
    rcases Fits.one_iff.mp found with ⟨letter, more, rfl, is, _⟩
    exact .one (isBareChar_of_isLatinLetter (isLatinLetter_of_isLetterOf (by decide) is)) .done
  · exact .done

/-- Taking out event attributes brings together no tag of an active element and no event attribute. -/
theorem not_finds_withoutEvents (noTags : ¬Finds afterActiveTag? (withoutTags cs))
    (events : ∀ s tail, s <:+ withoutTags cs → afterEvent? s = some tail → endsAttribute tail = true) :
    ¬Finds afterActiveTag? (withoutEvents cs) ∧ ¬Finds afterEvent? (withoutEvents cs) := by
  have atSeam : ∀ {c p s replacement tail behind}, c :: p ++ s <:+ withoutTags cs →
      putting [] afterEvent? s = some (replacement, tail) → Replaced (putting [] afterEvent?) tail behind →
      replacement = [] ∧ endsAttribute behind = true ∧ s.head?.any isBlank = true ∧ ('>' ∈ behind → '>' ∈ s) ∧
        Fits eventHead s := by
    intro c p s replacement tail behind suffix finds later
    have isIn : s <:+ withoutTags cs := (List.suffix_append _ _).trans suffix
    have tailIn := shortens_afterEvent?.suffix finds
    rcases putting_eq_some.mp finds with ⟨rfl, found⟩
    have front := isSome_afterEvent?_iff_eventHead.mp (Option.isSome_of_mem found)
    refine ⟨rfl, ?_, ?_, fun member => tailIn.subset ?_, front⟩
    · exact endsAttribute_of_replaced (fun t rest within => events t rest (within.trans (tailIn.trans isIn))) later
        (events s _ isIn found)
    · rcases Fits.one_iff.mp front with ⟨d, rest, rfl, blank, _⟩
      exact blank
    · refine later.mem shortens_afterEvent? (fun finds inside => ?_) member
      rcases putting_eq_some.mp finds with ⟨rfl, _⟩
      cases inside
  constructor
  · intro finds
    refine absurd ((replaced_withoutEvents cs).somewhere shortens_afterEvent? (by decide) nothing_inside ?_ finds) ?_
    · intro c p s replacement tail behind suffix _ finds later found
      rcases atSeam suffix finds later with ⟨rfl, ends, blank, closed, _⟩
      refine isSome_afterActiveTag?_across found (blunt_of_endsAttribute ends) ?_ closed
      cases s with
      | nil => rfl
      | cons d rest => exact isWord_of_isBlank blank
    · rintro ⟨s, suffix, _, found⟩
      exact noTags ⟨s, suffix, found⟩
  · intro finds
    refine absurd ((replaced_withoutEvents cs).somewhere shortens_afterEvent? (by decide) nothing_inside ?_ finds) ?_
    · intro c p s replacement tail behind suffix _ finds later found
      rcases atSeam suffix finds later with ⟨rfl, ends, _, _, front⟩
      exact isSome_afterEvent?_iff_eventHead.mpr
        (fits_eventHead_across (isSome_afterEvent?_iff_eventHead.mp found) ends front)
    · rintro ⟨s, _, nothing, found⟩
      rw [putting, Option.map_eq_none_iff] at nothing
      rw [nothing] at found
      cases found

/-! ## Addresses in the place of scripts -/

/-- What stands behind the name of an attribute in the place of a script. -/
def harmless (behind : List Char) : List Char := '=' :: '"' :: '#' :: '"' :: behind

/-- A word that has been read is read as well before something else, and holds only its letters. -/
theorem afterLetters?_again {word m rest : List Char} (found : afterLetters? word (m ++ rest) = some rest) :
    (∀ x, afterLetters? word (m ++ x) = some x) ∧ ∀ c ∈ m, ∃ letter ∈ word, isLetterOf letter c = true := by
  induction word generalizing m with
  | nil =>
      have nothing : m = [] := by simpa using Option.some.inj found
      subst nothing
      exact ⟨fun _ => rfl, fun _ member => nomatch member⟩
  | cons letter word ih =>
      cases m with
      | nil =>
          have length := (suffix_of_afterLetters? found).2
          simp at length
      | cons c m =>
          rw [List.cons_append, afterLetters?] at found
          split at found
          · rename_i is
            rcases ih found with ⟨again, each⟩
            refine ⟨fun x => by rw [List.cons_append, afterLetters?, if_pos is, again], ?_⟩
            refine List.forall_mem_cons.mpr ⟨⟨letter, List.mem_cons_self, is⟩, fun d member => ?_⟩
            rcases each d member with ⟨other, inWord, isOther⟩
            exact ⟨other, List.mem_cons_of_mem _ inWord, isOther⟩
          · cases found

theorem isBareChar_of_afterScript? {value tail : List Char} (found : afterScript? value = some tail) :
    value.head?.any isBareChar = true := by
  rcases isSome_afterScript?.mp (Option.isSome_of_mem found) with ⟨script, isScript, fits⟩
  simp only [scriptPatterns, List.mem_cons, List.not_mem_nil, or_false] at isScript
  rcases isScript with rfl | rfl | rfl <;> rcases Fits.one_iff.mp fits with ⟨c, rest, rfl, is, _⟩
  · cases beq_iff_eq.mp is
    exact (by decide : isBareChar '"' = true)
  · cases beq_iff_eq.mp is
    exact (by decide : isBareChar '\'' = true)
  · exact isBareChar_of_isLatinLetter (isLatinLetter_of_isLetterOf (by decide) is)

theorem isWord_of_afterEquals? {rest value : List Char} (sign : afterEquals? rest = some value) :
    rest.head?.any isWord = false := by
  rcases Option.map_eq_some_iff.mp sign with ⟨behind, found, _⟩
  cases rest with
  | nil => rfl
  | cons d more =>
      by_cases blank : isBlank d = true
      · exact isWord_of_isBlank blank
      · have here := afterChar?_eq_some.mp found
        rw [skipBlanks, List.dropWhile_cons_of_neg blank] at here
        cases here
        exact (by decide : isWord '=' = false)

/-- What is known where an address that is a script has been replaced. -/
structure AddressReplaced (s replacement spelled rest value : List Char) (name : String) : Prop where
  isName : name ∈ ["href", "src"]
  parts : s = spelled ++ rest
  put : replacement = spelled ++ ['=', '"', '#', '"']
  word : afterWord? name (spelled ++ rest) = some rest
  sign : afterEquals? rest = some value
  bare : value.head?.any isBareChar = true

theorem exists_addressReplaced {s replacement tail : List Char} (finds : scriptAddress? s = some (replacement, tail)) :
    ∃ spelled rest value name, AddressReplaced s replacement spelled rest value name ∧ tail <:+ rest := by
  rcases parts_of_scriptAddress? finds with ⟨name, spelled, rest, value, isName, rfl, word, rfl, sign, script⟩
  refine ⟨spelled, rest, value, name, ⟨isName, rfl, rfl, word, sign, isBareChar_of_afterScript? script⟩, ?_⟩
  rcases suffix_of_afterEquals? sign with ⟨more, inRest, inMore⟩
  rcases suffix_of_afterScript? script with ⟨left, inValue, inLeft, _⟩
  exact (inLeft.trans ((List.suffix_cons _ _).trans inValue)).trans (inMore.trans ((List.suffix_cons _ _).trans inRest))

namespace AddressReplaced

variable {s replacement spelled rest value : List Char} {name : String}

/-- The name of the attribute is made of letters. -/
theorem isLatinLetter_of_mem (replaced : AddressReplaced s replacement spelled rest value name) :
    ∀ c ∈ spelled, isLatinLetter c = true := by
  have small : ∀ name ∈ ["href", "src"], ∀ letter ∈ name.toList, 'a' ≤ letter ∧ letter ≤ 'z' := by decide
  intro c member
  rcases (afterLetters?_again replaced.word).2 c member with ⟨letter, inWord, is⟩
  exact isLatinLetter_of_isLetterOf (small name replaced.isName letter inWord) is

/-- In the place of the script there are letters, an equals sign, quotes and a hash. -/
theorem mem_of_mem_replacement (replaced : AddressReplaced s replacement spelled rest value name) {c : Char}
    (member : c ∈ replacement) : isLatinLetter c = true ∨ c ∈ ['=', '"', '#'] := by
  rw [replaced.put] at member
  rcases List.mem_append.mp member with inName | inStub
  · exact .inl (replaced.isLatinLetter_of_mem c inName)
  · refine .inr ?_
    simp only [List.mem_cons, List.not_mem_nil, or_false] at inStub ⊢
    tauto

end AddressReplaced

theorem blunt_harmless (behind : List Char) : Blunt (harmless behind) := ⟨rfl, nofun⟩

/-- An event attribute goes on at an equals sign with another value too. -/
theorem fits_eventHead_across_sign {c : Char} {before x y value : List Char}
    (fits : Fits eventHead (c :: before ++ '=' :: x)) (sign : afterEquals? y = some value)
    (bare : value.head?.any isBareChar = true) : Fits eventHead (c :: before ++ y) := by
  have bareApart : ∀ c rest, Fits [.one isBareChar] (c :: rest) → isBlank c = false := fun _ _ found =>
    isBlank_of_isBareChar (Fits.one_cons_iff.mp found).1
  have valueFits : Fits valueFront y := by
    refine (fits_equalsSign bareApart).mpr ⟨value, sign, ?_⟩
    cases value with
    | nil => cases bare
    | cons d rest => exact .one bare .done
  have signFits : Fits [.many isBlank, .one isBareChar] y := by
    rcases Option.map_eq_some_iff.mp sign with ⟨rest, found, _⟩
    rw [fits_blanks bareApart, afterChar?_eq_some.mp found]
    exact .one (by decide) .done
  rcases fits.across with ⟨left, leftAt, here⟩
  refine leftAt.goesOn ?_
  rcases mem_cuts_eventHead leftAt.isCut with whole | ⟨more, rfl⟩ | ⟨more, rfl⟩ | rfl | rfl | rfl | rfl
  · cases whole
    cases here with
    | enough behind =>
        cases behind with
        | one is _ => exact absurd is (by decide)
    | more is _ => exact absurd is (by decide)
  · cases here with
    | one is _ => exact absurd is (by decide)
  · cases here with
    | one is _ => exact absurd is (by decide)
  · exact .enough valueFits
  · exact valueFits
  · exact signFits
  · exact .done

/-- What may be left of an address with a script, behind some of the name of its attribute or later. -/
inductive ScriptLeft : List Part → List Part → Prop
  | letter {script : List Part} {letter : Char} (noSign : isLetterOf letter '=' = false) (more : List Part) :
      ScriptLeft script (.one (isLetterOf letter) :: more)
  | sign {script : List Part} : ScriptLeft script (equalsSign ++ script)
  | value {script : List Part} : ScriptLeft script (.many isBlank :: script)
  | front {script : List Part} (more : List Part) : ScriptLeft script (.many isBlank :: .one (isLetterOf 'j') :: more)
  | quoted {quote : Char} (isQuote : quote = '"' ∨ quote = '\'') :
      ScriptLeft (quotedPattern quote (.many isBlank :: letters "javascript:")) (upTo quote)
  | bare {script : List Part} : ScriptLeft script [.many isBareChar]
  | nothing {script : List Part} : ScriptLeft script []

theorem isLetterOf_sign : ∀ word ∈ ["href", "src", "javascript:"], ∀ letter ∈ word.toList,
    isLetterOf letter '=' = false := by decide

theorem scriptLeft_of_mem_cuts_quoted {quote : Char} (isQuote : quote = '"' ∨ quote = '\'') {left : List Part}
    (isCut : left ∈ cuts (quotedPattern quote (.many isBlank :: letters "javascript:"))) :
    ScriptLeft (quotedPattern quote (.many isBlank :: letters "javascript:")) left := by
  rcases List.mem_cons.mp isCut with rfl | isCut
  · exact .front _
  · rcases List.mem_cons.mp isCut with rfl | isCut
    · exact .front _
    · rcases mem_cuts_letters isCut with ⟨letter, isIn, more, rfl⟩ | rfl | isCut
      · exact .letter (isLetterOf_sign "javascript:" (by decide) letter isIn) more
      · exact .quoted isQuote
      · simp only [cuts, upTo, List.mem_cons, List.not_mem_nil, or_false] at isCut
        rcases isCut with rfl | rfl | rfl
        · exact .quoted isQuote
        · exact .nothing
        · exact .nothing

theorem scriptLeft_of_mem_cuts_script {script left : List Part} (isScript : script ∈ scriptPatterns)
    (isCut : left ∈ cuts script) : ScriptLeft script left := by
  simp only [scriptPatterns, List.mem_cons, List.not_mem_nil, or_false] at isScript
  rcases isScript with rfl | rfl | rfl
  · exact scriptLeft_of_mem_cuts_quoted (.inl rfl) isCut
  · exact scriptLeft_of_mem_cuts_quoted (.inr rfl) isCut
  · rcases mem_cuts_letters isCut with ⟨letter, isIn, more, rfl⟩ | rfl | isCut
    · exact .letter (isLetterOf_sign "javascript:" (by decide) letter isIn) more
    · exact .bare
    · simp only [cuts, List.mem_cons, List.not_mem_nil, or_false] at isCut
      rcases isCut with rfl | rfl
      · exact .bare
      · exact .nothing

theorem scriptLeft_of_mem_cuts {name : String} (isName : name ∈ ["href", "src"]) {script left : List Part}
    (isScript : script ∈ scriptPatterns) (isCut : left ∈ cuts (letters name ++ (equalsSign ++ script))) :
    ScriptLeft script left := by
  have isWord : ∀ name ∈ ["href", "src"], name ∈ ["href", "src", "javascript:"] := by decide
  rcases mem_cuts_letters isCut with ⟨letter, isIn, more, rfl⟩ | rfl | isCut
  · exact .letter (isLetterOf_sign name (isWord name isName) letter isIn) more
  · exact .sign
  · rcases List.mem_cons.mp isCut with rfl | isCut
    · exact .sign
    · rcases List.mem_cons.mp isCut with rfl | isCut
      · exact .value
      · rcases List.mem_cons.mp isCut with rfl | isCut
        · exact .value
        · exact scriptLeft_of_mem_cuts_script isScript isCut

/-- What is put in the place of a script is none. -/
theorem not_fits_harmless {script : List Part} (isScript : script ∈ scriptPatterns) (behind : List Char) :
    ¬Fits (equalsSign ++ script) (harmless behind) ∧ ¬Fits (.many isBlank :: script) (harmless behind) := by
  have apart : ∀ c rest, Fits script (c :: rest) → isBlank c = false := fun _ _ => isBlank_of_fits_script isScript
  constructor
  · intro fits
    rcases (fits_equalsSign apart).mp fits with ⟨_, same, value⟩
    cases same
    have wrong := isSome_afterScript?.mpr ⟨script, isScript, value⟩
    cases wrong
  · intro fits
    have wrong := isSome_afterScript?.mpr ⟨script, isScript, (fits_blanks apart).mp fits⟩
    cases wrong

/-- An address with a script that goes on at a place where one was replaced had gone on before. -/
theorem isSome_scriptAddress?_across {c : Char} {before behind rest : List Char}
    (found : (scriptAddress? (c :: before ++ harmless behind)).isSome) (closed : '\'' ∈ behind → '\'' ∈ rest)
    (addresses : ∀ name ∈ ["href", "src"], Fits (scriptFront name) (c :: before ++ rest) →
      (scriptAddress? (c :: before ++ rest)).isSome) : (scriptAddress? (c :: before ++ rest)).isSome := by
  rcases isSome_scriptAddress?.mp found with ⟨pattern, isPattern, fits⟩
  rcases List.mem_flatMap.mp isPattern with ⟨name, isName, inScripts⟩
  rcases List.mem_map.mp inScripts with ⟨script, isScript, rfl⟩
  rcases fits.across with ⟨left, leftAt, here⟩
  have again : Fits left rest → (scriptAddress? (c :: before ++ rest)).isSome := fun fits =>
    isSome_scriptAddress?.mpr ⟨_, isPattern, leftAt.goesOn fits⟩
  cases scriptLeft_of_mem_cuts isName isScript leftAt.isCut with
  | letter noSign more =>
      cases here with
      | one is _ => exact absurd (noSign.symm.trans is) Bool.false_ne_true
  | sign => exact absurd here (not_fits_harmless isScript behind).1
  | value => exact absurd here (not_fits_harmless isScript behind).2
  | front more =>
      cases here with
      | enough letter =>
          cases letter with
          | one is _ => exact absurd is (by decide)
      | more is _ => exact absurd is (by decide)
  | quoted isQuote =>
      rcases isQuote with rfl | rfl
      · -- the front of the address stands before the place, so the address was closed
        have whole : letters name ++ (equalsSign ++ quotedPattern '"' (.many isBlank :: letters "javascript:")) =
            scriptFront name ++ upTo '"' := by
          simp [scriptFront, quotedPattern]
        exact addresses name isName (leftAt.passed whole (List.suffix_refl _) rest)
      · refine again (Fits.upTo_iff.mpr (closed ?_))
        simpa [harmless] using Fits.upTo_iff.mp here
  | bare => exact again (.enough .done)
  | nothing => exact again .done

theorem isLetterOf_of_afterWord? {name : String} {d : Char} {more rest : List Char} (isName : name ∈ ["href", "src"])
    (found : afterWord? name (d :: more) = some rest) : isLetterOf 'h' d = true ∨ isLetterOf 's' d = true := by
  have firsts : ∀ name ∈ ["href", "src"], ∃ letters, name.toList = 'h' :: letters ∨ name.toList = 's' :: letters := by
    intro name isName
    simp only [List.mem_cons, List.not_mem_nil, or_false] at isName
    rcases isName with rfl | rfl
    · exact ⟨_, .inl rfl⟩
    · exact ⟨_, .inr rfl⟩
  rcases firsts name isName with ⟨letters, spelled | spelled⟩ <;> rw [afterWord?, spelled, afterLetters?] at found <;>
    split at found
  · rename_i is
    exact .inl is
  · cases found
  · rename_i is
    exact .inr is
  · cases found

/-- The name of an attribute with an address begins nowhere in such a name but at its front. -/
theorem eq_nil_of_afterWord? {name other : String} {before after rest left : List Char} {d : Char} {more : List Char}
    (isName : name ∈ ["href", "src"]) (word : afterWord? name (before ++ d :: after ++ rest) = some rest)
    (isOther : other ∈ ["href", "src"]) (found : afterWord? other (d :: more) = some left) : before = [] := by
  have apart : ∀ name ∈ ["href", "src"], ∀ letter ∈ name.toList.tail, letter ≠ '\u017f' ∧ letter ≠ '\u212a' ∧
      letter ≠ 'h' ∧ letter ≠ 's' := by decide
  cases before with
  | nil => rfl
  | cons e before =>
      exfalso
      cases spelled : name.toList with
      | nil =>
          have empty : ∀ name ∈ ["href", "src"], name.toList ≠ [] := by decide
          exact empty name isName spelled
      | cons letter letters =>
          have isTail : name.toList.tail = letters := by rw [spelled, List.tail_cons]
          rw [afterWord?, spelled] at word
          change (if isLetterOf letter e then afterLetters? letters (before ++ d :: after ++ rest) else none) = _ at word
          split at word
          · rcases (afterLetters?_again word).2 d (by simp) with ⟨other, inLetters, is⟩
            have notFirst := apart name isName other (isTail ▸ inLetters)
            rcases isLetterOf_of_afterWord? isOther found with isAlso | isAlso
            · exact notFirst.2.2.1 (eq_of_isLetterOf ⟨notFirst.1, notFirst.2.1⟩ (by decide) is isAlso)
            · exact notFirst.2.2.2 (eq_of_isLetterOf ⟨notFirst.1, notFirst.2.1⟩ (by decide) is isAlso)
          · cases word

/-- No address with a script begins in what is put in the place of one. -/
theorem AddressReplaced.not_inside {s replacement behind spelled rest value : List Char} {name : String}
    (replaced : AddressReplaced s replacement spelled rest value name) (d : Char) (q : List Char)
    (isIn : d :: q <:+ replacement) : ¬(scriptAddress? (d :: q ++ behind)).isSome := by
  intro found
  rcases Option.isSome_iff_exists.mp found with ⟨⟨_, tail⟩, found⟩
  rcases parts_of_scriptAddress? found with ⟨other, _, left, otherValue, isOther, _, otherWord, _, sign, script⟩
  have noMark : ∀ mark ∈ ['=', '"', '#'], d ≠ mark := by
    have marks : ∀ mark ∈ ['=', '"', '#'], isLetterOf 'h' mark = false ∧ isLetterOf 's' mark = false := by decide
    rintro mark isMark rfl
    rcases isLetterOf_of_afterWord? isOther otherWord with is | is
    · exact Bool.false_ne_true ((marks d isMark).1.symm.trans is)
    · exact Bool.false_ne_true ((marks d isMark).2.symm.trans is)
  rcases isIn with ⟨t, whole⟩
  rw [replaced.put] at whole
  rcases List.append_eq_append_iff.mp whole with ⟨a, spelled_eq, here⟩ | ⟨a, _, here⟩
  · cases a with
    | nil => exact noMark '=' (by decide) (List.cons.inj here).1
    | cons e a =>
        cases (List.cons.inj here).1
        have word := replaced.word
        rw [spelled_eq] at word
        have front := eq_nil_of_afterWord? replaced.isName word isOther otherWord
        -- it is the attribute itself, and its address is no script
        subst front
        have again := (afterLetters?_again replaced.word).1 (harmless behind)
        have parts : d :: q ++ behind = spelled ++ harmless behind := by
          rw [here, spelled_eq]
          simp [harmless]
        rw [← parts] at again
        have same := (or_eq_some_iff.mpr ⟨other, isOther, otherWord⟩).symm.trans
          (or_eq_some_iff.mpr ⟨name, replaced.isName, again⟩)
        cases same
        cases sign
        cases script
  · have isMark : d ∈ ['=', '"', '#', '"'] := here ▸ List.mem_append_right a List.mem_cons_self
    refine noMark d ?_ rfl
    simp only [List.mem_cons, List.not_mem_nil, or_false] at isMark ⊢
    tauto

/-- What holds somewhere when scripts have been replaced held before, unless it comes of a replacement. -/
theorem somewhere_of_sanitized {P : List Char → Prop} (notEmpty : ¬P [])
    (inside : ∀ {s replacement spelled rest value behind name},
      AddressReplaced s replacement spelled rest value name → ∀ d q, d :: q <:+ replacement → ¬P (d :: q ++ behind))
    (seam : ∀ {c before behind rest value}, c :: before ++ rest <:+ withoutEvents cs →
      afterEquals? rest = some value → value.head?.any isBareChar = true →
      (∀ mark ∈ ['>', '\''], mark ∈ behind → mark ∈ rest) → P (c :: before ++ harmless behind) →
        P (c :: before ++ rest))
    (holds : Somewhere P (sanitized cs)) : ∃ s, s <:+ withoutEvents cs ∧ scriptAddress? s = none ∧ P s := by
  refine (replaced_sanitized cs).somewhere shortens_scriptAddress? notEmpty (fun finds => ?_) ?_ holds
  · rcases exists_addressReplaced finds with ⟨spelled, rest, value, name, replaced, _⟩
    exact inside replaced
  · intro c p s replacement tail behind suffix _ finds later found
    rcases exists_addressReplaced finds with ⟨spelled, rest, value, name, replaced, behindRest⟩
    have regroup : ∀ left, c :: p ++ (spelled ++ left) = c :: (p ++ spelled) ++ left := by simp
    have put : replacement ++ behind = spelled ++ harmless behind := by
      rw [replaced.put]
      simp [harmless]
    rw [put, regroup] at found
    rw [replaced.parts, regroup] at suffix ⊢
    refine seam suffix replaced.sign replaced.bare (fun mark isMark member => behindRest.subset ?_) found
    refine later.mem shortens_scriptAddress? (fun finds isIn => ?_) member
    have neither : isLatinLetter mark = false ∧ mark ∉ ['=', '"', '#'] := by
      have marks : ∀ mark ∈ ['>', '\''], isLatinLetter mark = false ∧ mark ∉ ['=', '"', '#'] := by decide
      exact marks mark isMark
    rcases exists_addressReplaced finds with ⟨_, _, _, _, other, _⟩
    rcases other.mem_of_mem_replacement isIn with latin | isStub
    · exact absurd (neither.1.symm.trans latin) Bool.false_ne_true
    · exact absurd isStub neither.2

/-- Replacing scripts brings together nothing active, if the quotes around them are closed. -/
theorem clean_sanitized (noTags : ¬Finds afterActiveTag? (withoutEvents cs))
    (noEvents : ¬Finds afterEvent? (withoutEvents cs))
    (addresses : ∀ name ∈ ["href", "src"], ∀ s, s <:+ withoutEvents cs → Fits (scriptFront name) s →
      (scriptAddress? s).isSome) : Clean (sanitized cs) := by
  refine clean_iff.mpr ⟨fun finds => ?_, fun finds => ?_, fun finds => ?_⟩
  · refine absurd (somewhere_of_sanitized (by decide) ?_ ?_ finds) ?_
    · intro s replacement spelled rest value behind name replaced d q isIn found
      cases eq_of_isSome_afterActiveTag? found
      have either := replaced.mem_of_mem_replacement (isIn.subset List.mem_cons_self)
      exact absurd either (by decide)
    · intro c before behind rest value _ sign _ kept found
      refine isSome_afterActiveTag?_across found (blunt_harmless behind) (isWord_of_afterEquals? sign) fun member => ?_
      exact kept '>' (by decide) (by simpa [harmless] using member)
    · rintro ⟨s, suffix, _, found⟩
      exact noTags ⟨s, suffix, found⟩
  · refine absurd (somewhere_of_sanitized (by decide) ?_ ?_ finds) ?_
    · intro s replacement spelled rest value behind name replaced d q isIn found
      have blank := (Fits.one_cons_iff.mp (isSome_afterEvent?_iff_eventHead.mp found)).1
      rcases replaced.mem_of_mem_replacement (isIn.subset List.mem_cons_self) with latin | isStub
      · exact Bool.false_ne_true ((isBlank_of_isLatinLetter latin).symm.trans blank)
      · have stub : ∀ mark ∈ ['=', '"', '#'], isBlank mark = false := by decide
        exact Bool.false_ne_true ((stub d isStub).symm.trans blank)
    · intro c before behind rest value _ sign bare _ found
      exact isSome_afterEvent?_iff_eventHead.mpr
        (fits_eventHead_across_sign (isSome_afterEvent?_iff_eventHead.mp found) sign bare)
    · rintro ⟨s, suffix, _, found⟩
      exact noEvents ⟨s, suffix, found⟩
  · refine absurd (somewhere_of_sanitized (by decide) ?_ ?_ finds) ?_
    · intro s replacement spelled rest value behind name replaced d q isIn
      exact replaced.not_inside d q isIn
    · intro c before behind rest value suffix _ _ kept found
      exact isSome_scriptAddress?_across found (kept '\'' (by decide)) fun name isName => addresses name isName _ suffix
    · rintro ⟨s, _, nothing, found⟩
      rw [nothing] at found
      cases found

/-- A tidy text is clean when active content has been removed once. -/
theorem Tidy.clean (tidy : Tidy cs) : Clean (sanitized cs) := by
  have noTags := not_finds_withoutTags (not_nested_withoutElements tidy.angles activeElements)
  have without := not_finds_withoutEvents noTags tidy.events
  exact clean_sanitized without.1 without.2 tidy.addresses

/-! ## Markup sanitized -/

theorem toList_sanitize (s : String) : (sanitize s).toList = sanitized s.toList := String.toList_ofList

theorem toList_iterate_sanitize (n : Nat) (s : String) : (sanitize^[n] s).toList = sanitized^[n] s.toList :=
  (Function.Semiconj.iterate_right (show Function.Semiconj String.toList sanitize sanitized from toList_sanitize) n) s

theorem sanitize_eq_self_iff {s : String} : sanitize s = s ↔ Clean s.toList := by
  rw [← String.toList_inj, toList_sanitize, sanitized_eq_self_iff]

/-- The markup that sanitizing leaves alone is the clean one, and sanitizing as often as there are characters makes any
markup clean.  To make tidy markup clean, sanitizing once is enough, and sanitizing it again changes nothing. -/
theorem sanitize_clean (s : String) :
    (sanitize s = s ↔ Clean s.toList) ∧ (∀ n, s.length ≤ n → Clean (sanitize^[n] s).toList) ∧
      (Tidy s.toList → Clean (sanitize s).toList ∧ sanitize (sanitize s) = sanitize s) := by
  refine ⟨sanitize_eq_self_iff, fun n enough => ?_, fun tidy => ?_⟩
  · rw [toList_iterate_sanitize]
    exact clean_iterate_sanitized (String.length_toList ▸ enough)
  · have clean : Clean (sanitize s).toList := toList_sanitize s ▸ tidy.clean
    exact ⟨clean, sanitize_eq_self_iff.mpr clean⟩

/-- A paragraph with an event attribute, an address that is a script, and a frame. -/
def lively : String :=
  "<p onclick=\"steal()\">Hi <a href=\"javascript:evil()\">x</a><iframe src=\"x\"></iframe><b>bold</b></p>"

theorem tidy_lively : Tidy lively.toList where
  angles := by
    have flat : ∀ s ∈ lively.toList.tails, ∀ inside ∈ s.tail?, s.head? = some '<' → '<' ∉ inside.takeWhile (· != '>') := by
      decide +kernel
    rintro ⟨s, suffix, inside, rfl, isIn⟩
    exact flat _ ((List.mem_tails _ _).mpr suffix) inside rfl rfl isIn
  events := by
    have ends : ∀ s ∈ (withoutTags lively.toList).tails, ∀ tail ∈ afterEvent? s, endsAttribute tail = true := by
      decide +kernel
    intro s tail suffix found
    exact ends s ((List.mem_tails _ _).mpr suffix) tail found
  addresses := by
    have closed : ∀ name ∈ ["href", "src"], ∀ s ∈ (withoutEvents lively.toList).tails,
        (afterWord? name s).isSome → (scriptAddress? s).isSome := by
      decide +kernel
    intro name isName s suffix fits
    rcases Fits.letters_iff.mp fits with ⟨rest, word, _⟩
    exact closed name isName s ((List.mem_tails _ _).mpr suffix) (Option.isSome_of_mem word)

/-- The paragraph is clean once its active content is removed. -/
theorem sanitize_clean_lively :
    Tidy lively.toList ∧ sanitize lively = "<p>Hi <a href=\"#\">x</a><b>bold</b></p>" ∧
      Clean (sanitize lively).toList ∧ sanitize (sanitize lively) = sanitize lively := by
  rcases (sanitize_clean lively).2.2 tidy_lively with ⟨clean, same⟩
  exact ⟨tidy_lively, by decide +kernel, clean, same⟩

/-- What is left may be a tag, an event attribute or a script again, which only sanitizing once more removes. -/
theorem sanitize_not_clean :
    (sanitize "<scr<script>ipt>" = "<script>" ∧ ¬Clean "<script>".toList) ∧
      (sanitize "<p o onx=\"1\"nclick=\"2\">" = "<p onclick=\"2\">" ∧ ¬Clean "<p onclick=\"2\">".toList) ∧
      (sanitize "src=\"javascript: href='javascript:x'" = "src=\"javascript: href=\"#\"" ∧
        ¬Clean "src=\"javascript: href=\"#\"".toList) := by
  refine ⟨⟨by decide +kernel, fun clean => ?_⟩, ⟨by decide +kernel, fun clean => ?_⟩, by decide +kernel, fun clean => ?_⟩
  · exact absurd (sanitize_eq_self_iff.mpr clean) (by decide +kernel)
  · exact absurd (sanitize_eq_self_iff.mpr clean) (by decide +kernel)
  · exact absurd (sanitize_eq_self_iff.mpr clean) (by decide +kernel)

end Markup
end ProductGraph
