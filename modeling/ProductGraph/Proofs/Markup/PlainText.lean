import ProductGraph.Proofs.Markup.Fragment
import ProductGraph.Proofs.Markup.Sanitize
import ProductGraph.Proofs.Markup.Spacing

namespace ProductGraph
namespace Markup

/-!
# Text stored as markup and read again

A text that is stored as markup and then shown as plain text has been through the removal of active content, of tags and
of references.  An ordinary text comes through the last two with only its blanks collapsed: it is stored without opening
angles, and since the ampersand is resolved last nothing is resolved twice.

The removal of active content does not ask for tags, so it takes words for event attributes and addresses.  Each thing it
takes away has an equals sign or a colon in it, neither of which any other step adds or removes.  Counting them shows
that an ordinary text comes back if and only if it is stored without anything that would be active within a tag.
-/

open Unicode (isBlank)

variable {cs : List Char}

/-! ## References resolved in order -/

theorem afterText?_eq_some {text tail : List Char} : afterText? text cs = some tail ↔ cs = text ++ tail := by
  induction text generalizing cs with
  | nil => exact Option.some_inj
  | cons t text ih =>
      cases cs with
      | nil => exact ⟨nofun, nofun⟩
      | cons c rest =>
          rw [afterText?, List.cons_append, List.cons.injEq]
          split
          · rename_i same
            rw [ih]
            exact ⟨fun behind => ⟨same.symm, behind⟩, fun both => both.2⟩
          · rename_i apart
            exact ⟨nofun, fun both => absurd both.1.symm apart⟩

/-- Two texts differ where both have a character. -/
def Apart (first second : List Char) : Bool := (first.zip second).any fun pair => pair.1 != pair.2

theorem afterText?_append_of_apart {text other : List Char} (apart : Apart text other = true) (rest : List Char) :
    afterText? text (other ++ rest) = none := by
  induction text generalizing other with
  | nil => cases apart
  | cons t text ih =>
      cases other with
      | nil => cases apart
      | cons c other =>
          rw [List.cons_append, afterText?]
          split
          · rename_i same
            refine ih ?_
            simpa [Apart, same] using apart
          · rfl

/-- How a character stands in a text when the references to some characters have been resolved. -/
def partlyResolved (resolved : List Char) (c : Char) : List Char := if c ∈ resolved then [c] else partlyEscapedChar c

theorem shortens_dereference {reference : String × Char} (known : reference ∈ plainReferences) :
    Shortens (putting [reference.2] (afterText? reference.1.toList)) := by
  have long : ∀ reference ∈ plainReferences, 1 < reference.1.toList.length := by decide
  refine shortens_putting fun found => ?_
  cases afterText?_eq_some.mp found
  rw [List.length_append, List.length_singleton]
  exact ⟨List.suffix_append _ _, Nat.add_lt_add_right (long reference known) _⟩

/-- A character is written by the reference, or the reference does not begin in what is written for it. -/
theorem resolved_or_apart {reference : String × Char} (known : reference ∈ plainReferences) {resolved : List Char}
    (last : '&' ∉ resolved) (c : Char) :
    (partlyResolved resolved c = reference.1.toList ∧ partlyResolved (reference.2 :: resolved) c = [reference.2]) ∨
      (partlyResolved (reference.2 :: resolved) c = partlyResolved resolved c ∧
        ∀ s, s <:+ partlyResolved resolved c → s ≠ [] → Apart reference.1.toList s = true) := by
  have ordinary : c ≠ '&' → ∀ s, s <:+ [c] → s ≠ [] → Apart reference.1.toList s = true := by
    have first : ∀ reference ∈ plainReferences, reference.1.toList = '&' :: reference.1.toList.tail := by decide
    intro apart s suffix nonempty
    rcases List.suffix_cons_iff.mp suffix with rfl | ofNil
    · rw [first reference known]
      simp [Apart, Ne.symm apart]
    · exact absurd (List.suffix_nil.mp ofNil) nonempty
  by_cases raw : c ∈ resolved
  · refine .inr ?_
    rw [partlyResolved, if_pos (List.mem_cons_of_mem _ raw), partlyResolved, if_pos raw]
    exact ⟨rfl, ordinary fun isLast => last (isLast ▸ raw)⟩
  rw [partlyResolved, partlyResolved, if_neg raw]
  by_cases special : c ∈ ['<', '>', '&']
  · have each : ∀ reference ∈ plainReferences, ∀ c ∈ ['<', '>', '&'],
        if c = reference.2 then partlyEscapedChar c = reference.1.toList
        else ∀ s ∈ (partlyEscapedChar c).tails, s ≠ [] → Apart reference.1.toList s = true := by
      decide
    have here := each reference known c special
    split at here
    · rename_i same
      exact .inl ⟨here, by rw [if_pos (List.mem_cons.mpr (.inl same)), same]⟩
    · rename_i other
      refine .inr ⟨if_neg ?_, fun s suffix => here s ((List.mem_tails _ _).mpr suffix)⟩
      simp [other, raw]
  · have plain : partlyEscapedChar c = [c] := by
      simp only [List.mem_cons, List.not_mem_nil, or_false, not_or] at special
      rw [partlyEscapedChar.eq_def]
      split <;> simp_all
    rw [plain, ite_self]
    exact .inr ⟨rfl, ordinary fun isLast => special (by simp [isLast])⟩

/-- To resolve a reference changes how one more character stands, if ampersands are still written by reference. -/
theorem dereference_flatMap {reference : String × Char} (known : reference ∈ plainReferences) {resolved : List Char}
    (last : '&' ∉ resolved) (cs : List Char) :
    dereference (cs.flatMap (partlyResolved resolved)) reference =
      cs.flatMap (partlyResolved (reference.2 :: resolved)) := by
  have shortens := shortens_dereference known
  refine (replaced_substitute shortens _).unique shortens ?_
  induction cs with
  | nil => exact .nil
  | cons c rest ih =>
      rw [List.flatMap_cons, List.flatMap_cons]
      rcases resolved_or_apart known last c with ⟨written, stands⟩ | ⟨stands, apart⟩
      · rw [stands, written]
        exact .found (putting_eq_some.mpr ⟨rfl, afterText?_eq_some.mpr rfl⟩) ih
      · rw [stands]
        refine ih.keeping fun s suffix nonempty => ?_
        rw [putting, afterText?_append_of_apart (apart s suffix nonempty), Option.map_none]

theorem foldl_dereference {references : List (String × Char)}
    (known : ∀ reference ∈ references, reference ∈ plainReferences ∧ reference.2 ≠ '&') {resolved : List Char}
    (last : '&' ∉ resolved) (cs : List Char) :
    references.foldl dereference (cs.flatMap (partlyResolved resolved)) =
      cs.flatMap (partlyResolved ((references.map Prod.snd).reverse ++ resolved)) := by
  induction references generalizing resolved with
  | nil => rfl
  | cons reference references ih =>
      have first := known reference List.mem_cons_self
      have stillLast : '&' ∉ reference.2 :: resolved := by simp [last, first.2.symm]
      rw [List.foldl_cons, dereference_flatMap first.1 last,
        ih (fun other member => known other (List.mem_cons_of_mem _ member)) stillLast]
      simp

/-- Written by reference and resolved in order, a text is what it was. -/
theorem foldl_dereference_partlyEscape (cs : List Char) : plainReferences.foldl dereference (partlyEscape cs) = cs := by
  have parts : plainReferences = plainReferences.dropLast ++ [("&amp;", '&')] := rfl
  have unresolved : partlyEscape cs = cs.flatMap (partlyResolved []) :=
    List.flatMap_congr fun c _ => (if_neg List.not_mem_nil).symm
  have all : ∀ c, partlyResolved ('&' :: ((plainReferences.dropLast.map Prod.snd).reverse ++ [])) c = [c] := by
    intro c
    rw [partlyResolved, partlyEscapedChar.eq_def]
    split
    · rfl
    · split <;> simp_all [plainReferences]
  rw [parts, List.foldl_append, unresolved, foldl_dereference (by decide) List.not_mem_nil, List.foldl_cons, List.foldl_nil,
    dereference_flatMap (by decide) (by decide), List.flatMap_congr fun c _ => all c, List.flatMap_singleton']

/-- Without ampersands there is nothing to resolve. -/
theorem foldl_dereference_of_not_mem (noReference : '&' ∉ cs) : plainReferences.foldl dereference cs = cs := by
  have first : ∀ reference ∈ plainReferences, '&' ∈ reference.1.toList := by decide
  refine List.foldlRecOn plainReferences dereference (motive := fun text => text = cs) rfl ?_
  rintro text rfl reference known
  refine (replaced_substitute (shortens_dereference known) text).eq_self fun finds => noReference ?_
  rcases finds_putting.mp finds with ⟨s, suffix, found⟩
  rcases Option.isSome_iff_exists.mp found with ⟨tail, found⟩
  rw [afterText?_eq_some.mp found] at suffix
  exact suffix.subset (List.mem_append_left tail (first reference known))

/-! ## Signs -/

/-- The two signs without which there is no event attribute and no script. -/
def isSign (c : Char) : Bool := c == '=' || c == ':'

theorem isSign_of_isBlank (c : Char) (blank : isBlank c = true) : isSign c = false := by
  have apart : isBlank '=' = false ∧ isBlank ':' = false := by decide
  simp only [isSign, Bool.or_eq_false_iff, beq_eq_false_iff_ne]
  exact ⟨fun is => by simp [is, apart] at blank, fun is => by simp [is, apart] at blank⟩

theorem signs_kept : ∀ reference ∈ plainReferences,
    reference.1.toList.countP isSign = [reference.2].countP isSign := by
  decide

/-- To resolve references changes the number of no character, apart from those that are written by reference. -/
theorem countP_foldl_dereference {p : Char → Bool}
    (same : ∀ reference ∈ plainReferences, reference.1.toList.countP p = [reference.2].countP p) (cs : List Char) :
    (plainReferences.foldl dereference cs).countP p = cs.countP p := by
  refine List.foldlRecOn plainReferences dereference (motive := fun text => text.countP p = cs.countP p) rfl ?_
  intro text before reference known
  rw [← before]
  refine (replaced_substitute (shortens_dereference known) text).countP_eq fun finds => ?_
  rcases putting_eq_some.mp finds with ⟨rfl, found⟩
  rw [afterText?_eq_some.mp found, List.countP_append, same reference known]

theorem countP_eq_add {p : Char → Bool} {c : Char} {rest tail : List Char} (is : p c = true) (here : c :: rest <:+ cs)
    (behind : tail <:+ rest) : tail.countP p + 1 ≤ cs.countP p := by
  have counted := here.sublist.countP_le (p := p)
  rw [List.countP_cons_of_pos is] at counted
  exact Nat.le_trans (Nat.add_le_add_right behind.sublist.countP_le 1) counted

/-- With an event attribute goes an equals sign. -/
theorem countP_of_afterEvent? {replacement tail : List Char}
    (finds : putting [] afterEvent? cs = some (replacement, tail)) :
    replacement.countP isSign + tail.countP isSign < cs.countP isSign := by
  rcases putting_eq_some.mp finds with ⟨rfl, found⟩
  rcases suffix_of_afterEvent? found with ⟨rest, here, behind⟩
  have counted := countP_eq_add (p := isSign) rfl here behind
  rw [List.countP_nil]
  omega

/-- With a script goes a colon, and its equals sign stays. -/
theorem countP_of_scriptAddress? {replacement tail : List Char} (finds : scriptAddress? cs = some (replacement, tail)) :
    replacement.countP isSign + tail.countP isSign < cs.countP isSign := by
  rcases parts_of_scriptAddress? finds with ⟨name, spelled, rest, value, _, rfl, _, rfl, sign, script⟩
  rcases suffix_of_afterEquals? sign with ⟨behind, equals, fromEquals⟩
  rcases suffix_of_afterScript? script with ⟨left, colon, fromColon, _⟩
  have counted := countP_eq_add (p := isSign) rfl equals fromEquals
  have alsoCounted := countP_eq_add (p := isSign) rfl colon fromColon
  have stub : "=\"#\"".toList.countP isSign = 1 := rfl
  rw [List.countP_append, List.countP_append, stub]
  omega

/-! ## Texts without tags -/

/-- A rule for what begins with an opening angle finds nothing where there is none. -/
theorem not_finds_of_not_mem {rule : List Char → Option (List Char)}
    (angle : ∀ {cs tail}, rule cs = some tail → ∃ inside, cs = '<' :: inside ∧ tail <:+ inside) (noAngle : '<' ∉ cs) :
    ¬Finds rule cs := by
  rintro ⟨s, suffix, found⟩
  rcases Option.isSome_iff_exists.mp found with ⟨tail, found⟩
  rcases angle found with ⟨inside, rfl, _⟩
  exact noAngle (suffix.subset List.mem_cons_self)

theorem withoutTags_of_not_mem (noAngle : '<' ∉ cs) : withoutTags cs = cs :=
  withoutTags_of_not_finds (not_finds_of_not_mem suffix_of_afterActiveTag? noAngle)

theorem not_mem_sanitized (noAngle : '<' ∉ cs) : '<' ∉ sanitized cs := by
  have stub : '<' ∉ "=\"#\"".toList := by decide
  intro member
  have events : '<' ∈ withoutEvents cs := by
    refine (replaced_sanitized cs).mem shortens_scriptAddress? (fun finds isIn => ?_) member
    rcases parts_of_scriptAddress? finds with ⟨_, spelled, rest, _, _, rfl, _, rfl, _, _⟩
    exact List.mem_append_left rest ((List.mem_append.mp isIn).resolve_right stub)
  have tags : '<' ∈ withoutTags cs := by
    refine (replaced_withoutEvents cs).mem shortens_afterEvent? (fun finds isIn => ?_) events
    rcases putting_eq_some.mp finds with ⟨rfl, _⟩
    cases isIn
  exact noAngle (withoutTags_of_not_mem noAngle ▸ tags)

/-- A text without tags loses a sign where something in it is active. -/
theorem countP_sanitized_lt (noAngle : '<' ∉ cs) (active : ¬Clean cs) :
    (sanitized cs).countP isSign < cs.countP isSign := by
  have events := replaced_withoutEvents cs
  have addresses := replaced_sanitized cs
  rw [withoutTags_of_not_mem noAngle] at events
  have less := addresses.countP_le fun finds => Nat.le_of_lt (countP_of_scriptAddress? finds)
  by_cases found : Finds afterEvent? cs
  · exact Nat.lt_of_le_of_lt less (events.countP_lt countP_of_afterEvent? (finds_putting.mpr found))
  · rw [events.eq_self fun finds => found (finds_putting.mp finds)] at addresses
    refine addresses.countP_lt countP_of_scriptAddress? (by_contra fun nothing => active (clean_iff.mpr ?_))
    exact ⟨not_finds_of_not_mem suffix_of_afterActiveTag? noAngle, found, nothing⟩

/-- Without opening angles and equals signs nothing is active. -/
theorem clean_of_not_mem (noAngle : '<' ∉ cs) (noSign : '=' ∉ cs) : Clean cs := by
  refine clean_iff.mpr ⟨not_finds_of_not_mem suffix_of_afterActiveTag? noAngle, ?_, ?_⟩
  · rintro ⟨s, suffix, found⟩
    rcases Option.isSome_iff_exists.mp found with ⟨tail, found⟩
    rcases suffix_of_afterEvent? found with ⟨rest, here, _⟩
    exact noSign ((here.trans suffix).subset List.mem_cons_self)
  · rintro ⟨s, suffix, found⟩
    rcases Option.isSome_iff_exists.mp found with ⟨⟨replacement, tail⟩, found⟩
    rcases parts_of_scriptAddress? found with ⟨_, spelled, rest, _, _, rfl, _, _, sign, _⟩
    rcases suffix_of_afterEquals? sign with ⟨behind, here, _⟩
    exact noSign ((here.trans ((List.suffix_append spelled rest).trans suffix)).subset List.mem_cons_self)

theorem suffix_of_afterTag? {tail : List Char} (found : afterTag? cs = some tail) :
    ∃ inside, cs = '<' :: inside ∧ '>' :: tail <:+ inside := by
  rcases Option.bind_eq_some_iff.mp found with ⟨inside, opening, closing⟩
  exact ⟨inside, afterChar?_eq_some.mp opening, suffix_of_afterFirst? closing⟩

theorem shortens_afterTag? : Shortens (putting [' '] afterTag?) := by
  refine shortens_putting fun found => ?_
  rcases suffix_of_afterTag? found with ⟨inside, rfl, behind⟩
  have shorter := behind.length_le
  refine ⟨(List.suffix_cons _ _).trans (behind.trans (List.suffix_cons _ _)), ?_⟩
  simp only [List.length_cons, List.length_nil] at shorter ⊢
  omega

theorem substitute_afterTag?_of_not_mem (noAngle : '<' ∉ cs) : substitute afterTag? [' '] cs = cs := by
  refine (replaced_substitute shortens_afterTag? cs).eq_self fun finds => ?_
  refine not_finds_of_not_mem (fun found => ?_) noAngle (finds_putting.mp finds)
  rcases suffix_of_afterTag? found with ⟨inside, opening, behind⟩
  exact ⟨inside, opening, (List.suffix_cons _ _).trans behind⟩

/-- Of a text without tags, plain text only has references resolved and blanks collapsed, besides what is active. -/
theorem plain_of_not_mem (noAngle : '<' ∉ cs) :
    plain cs = collapsed (plainReferences.foldl dereference (sanitized cs)) := by
  change spaced (Text.words (plainReferences.foldl dereference (substitute afterTag? [' '] (sanitized cs)))) = _
  rw [substitute_afterTag?_of_not_mem (not_mem_sanitized noAngle), spaced_words]

/-! ## Plain text -/

def collapse (s : String) : String := String.ofList (collapsed s.toList)

/-- A text that is no markup, or has neither opening angles nor ampersands, is stored without opening angles, and its
references resolve to itself. -/
theorem resolved_asMarkup {s : String} (ordinary : isMarkup s = false ∨ ('<' ∉ s.toList ∧ '&' ∉ s.toList)) :
    '<' ∉ (asMarkup s).toList ∧ plainReferences.foldl dereference (asMarkup s).toList = s.toList := by
  have escaped : isMarkup s = false → (asMarkup s).toList = partlyEscape s.toList := by
    intro rejected
    rw [asMarkup, if_neg (Bool.eq_false_iff.mp rejected), String.toList_ofList]
  cases stored : isMarkup s with
  | false =>
      rw [escaped stored, foldl_dereference_partlyEscape]
      exact ⟨not_mem_partlyEscape (.inl rfl) s.toList, rfl⟩
  | true =>
      have without := ordinary.resolve_left (stored ▸ Bool.noConfusion)
      rw [asMarkup, if_pos stored]
      exact ⟨without.1, foldl_dereference_of_not_mem without.2⟩

/-- Storing a text changes the number of no character, apart from those that are written by reference. -/
theorem countP_asMarkup {s : String} (ordinary : isMarkup s = false ∨ ('<' ∉ s.toList ∧ '&' ∉ s.toList))
    {p : Char → Bool} (same : ∀ reference ∈ plainReferences, reference.1.toList.countP p = [reference.2].countP p) :
    (asMarkup s).toList.countP p = s.toList.countP p := by
  rw [← countP_foldl_dereference same, (resolved_asMarkup ordinary).2]

/-- An ordinary text without equals signs is stored as a clean one. -/
theorem clean_asMarkup {s : String} (ordinary : isMarkup s = false ∨ ('<' ∉ s.toList ∧ '&' ∉ s.toList))
    (noSign : '=' ∉ s.toList) : Clean (asMarkup s).toList := by
  have equals : ∀ reference ∈ plainReferences,
      reference.1.toList.countP (· == '=') = [reference.2].countP (· == '=') := by decide
  have noneWritten : (asMarkup s).toList.countP (· == '=') = 0 := by
    rw [countP_asMarkup ordinary equals, List.countP_eq_zero]
    exact fun c member is => noSign (beq_iff_eq.mp is ▸ member)
  exact clean_of_not_mem (resolved_asMarkup ordinary).1 fun member => List.countP_eq_zero.mp noneWritten '=' member rfl

/-- Plain text gives an ordinary text back, with its blanks collapsed, if and only if it was stored without anything that
is taken for active.  If it has no equals sign, nothing is. -/
theorem plainText_asMarkup_eq_iff {s : String}
    (ordinary : isMarkup s = false ∨ ('<' ∉ s.toList ∧ '&' ∉ s.toList)) :
    (plainText (asMarkup s) = collapse s ↔ Clean (asMarkup s).toList) ∧
      ('=' ∉ s.toList → Clean (asMarkup s).toList) := by
  rcases resolved_asMarkup ordinary with ⟨noAngle, resolved⟩
  refine ⟨?_, clean_asMarkup ordinary⟩
  rw [plainText, collapse, String.ofList_inj, plain_of_not_mem noAngle]
  constructor
  · -- What was active took a sign with it, and no other step changes how many there are.
    intro same
    by_contra active
    refine Nat.ne_of_lt (countP_sanitized_lt noAngle active) ?_
    have counted := congrArg (List.countP isSign) same
    rwa [countP_collapsed isSign_of_isBlank, countP_collapsed isSign_of_isBlank, countP_foldl_dereference signs_kept,
      ← countP_asMarkup ordinary signs_kept] at counted
  · intro clean
    rw [clean.sanitized_eq, resolved]

/-- Ampersands and angles that are no markup come back, and so does what looks like a reference. -/
theorem plainText_asMarkup_fish :
    isMarkup "Fish & chips  &lt; 5 <br" = false ∧
      plainText (asMarkup "Fish & chips  &lt; 5 <br") = "Fish & chips &lt; 5 <br" := by
  have rejected : isMarkup "Fish & chips  &lt; 5 <br" = false := by decide +kernel
  have both := plainText_asMarkup_eq_iff (.inl rejected)
  have same := both.1.mpr (both.2 (by decide))
  exact ⟨rejected, same.trans (by decide +kernel)⟩

/-- What an ordinary text says with an equals sign may be taken for an event attribute or for an address. -/
theorem plainText_asMarkup_ne :
    (('<' ∉ "Stage one = ready".toList ∧ '&' ∉ "Stage one = ready".toList) ∧
        plainText (asMarkup "Stage one = ready") = "Stage" ∧ collapse "Stage one = ready" = "Stage one = ready") ∧
      (isMarkup "p < q once = 1" = false ∧
        plainText (asMarkup "p < q once = 1") = "p < q" ∧ collapse "p < q once = 1" = "p < q once = 1") ∧
      (('<' ∉ "src=javascript:run".toList ∧ '&' ∉ "src=javascript:run".toList) ∧
        plainText (asMarkup "src=javascript:run") = "src=\"#\"" ∧
        collapse "src=javascript:run" = "src=javascript:run") := by
  decide +kernel

end Markup
end ProductGraph
