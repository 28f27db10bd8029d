import Mathlib.Logic.Function.Iterate
import ProductGraph.Proofs.Markup.Active

namespace ProductGraph
namespace Markup

/-!
# Active content removed

The texts that are left alone when active content is removed are the clean ones, and removing again and again ends with
a clean one.  Once is not enough: what a pass brings together may be active, and no pass comes back to it.

Once is enough for a tidy text, in which nothing of the kind can come together.
-/

open Unicode (isBlank isWord)

variable {cs : List Char}

/-! ## The passes -/

/-- A text without the whole elements of some names, taken out name by name. -/
def withoutElements (names : List String) (cs : List Char) : List Char :=
  names.foldl (fun text name => substitute (afterElement? name) [] text) cs

/-- A text without active elements and the tags of such elements. -/
def withoutTags (cs : List Char) : List Char := substitute afterActiveTag? [] (withoutElements activeElements cs)

/-- A text without these and without event attributes. -/
def withoutEvents (cs : List Char) : List Char := substitute afterEvent? [] (withoutTags cs)

/-- A rule that takes away some of a text and puts nothing in the place of it. -/
theorem shortens_removing {simple : List Char → Option (List Char)}
    (takes : ∀ {cs tail}, simple cs = some tail → ∃ c rest, c :: rest <:+ cs ∧ tail <:+ rest) :
    Shortens (putting [] simple) := by
  refine shortens_putting fun found => ?_
  rcases takes found with ⟨c, rest, inside, suffix⟩
  have shorter := inside.length_le
  have alsoShorter := suffix.length_le
  simp only [List.length_cons] at shorter
  refine ⟨suffix.trans ((List.suffix_cons c rest).trans inside), ?_⟩
  rw [List.length_nil]
  omega

theorem shortens_afterElement? (name : String) : Shortens (putting [] (afterElement? name)) := by
  refine shortens_removing fun found => ?_
  rcases suffix_of_afterElement? found with ⟨inside, rfl, suffix⟩
  exact ⟨_, inside, List.suffix_refl _, suffix⟩

theorem shortens_afterActiveTag? : Shortens (putting [] afterActiveTag?) := by
  refine shortens_removing fun found => ?_
  rcases suffix_of_afterActiveTag? found with ⟨inside, rfl, suffix⟩
  exact ⟨_, inside, List.suffix_refl _, suffix⟩

theorem shortens_afterEvent? : Shortens (putting [] afterEvent?) :=
  shortens_removing fun found => ⟨_, suffix_of_afterEvent? found⟩

theorem shortens_scriptAddress? : Shortens scriptAddress? := by
  constructor
  · intro cs replacement tail finds
    rcases parts_of_scriptAddress? finds with ⟨name, spelled, rest, value, _, rfl, _, _, sign, script⟩
    rcases suffix_of_afterEquals? sign with ⟨behind, inRest, inBehind⟩
    rcases suffix_of_afterScript? script with ⟨left, inValue, inLeft, _⟩
    have fromValue : tail <:+ value := inLeft.trans ((List.suffix_cons _ _).trans inValue)
    have fromRest : value <:+ rest := inBehind.trans ((List.suffix_cons _ _).trans inRest)
    exact fromValue.trans (fromRest.trans (List.suffix_append _ _))
  · intro cs replacement tail finds
    rcases parts_of_scriptAddress? finds with ⟨name, spelled, rest, value, _, rfl, _, rfl, sign, script⟩
    rcases suffix_of_afterEquals? sign with ⟨behind, inRest, inBehind⟩
    rcases suffix_of_afterScript? script with ⟨_, _, _, longer⟩
    have shorter := inRest.length_le
    have alsoShorter := inBehind.length_le
    have added : "=\"#\"".toList.length = 4 := rfl
    simp only [List.length_append, List.length_cons, added] at shorter ⊢
    omega

theorem replaced_withoutTags (cs : List Char) :
    Replaced (putting [] afterActiveTag?) (withoutElements activeElements cs) (withoutTags cs) :=
  replaced_substitute shortens_afterActiveTag? _

theorem replaced_withoutEvents (cs : List Char) :
    Replaced (putting [] afterEvent?) (withoutTags cs) (withoutEvents cs) :=
  replaced_substitute shortens_afterEvent? _

theorem replaced_sanitized (cs : List Char) : Replaced scriptAddress? (withoutEvents cs) (sanitized cs) :=
  replaced_replaceAll shortens_scriptAddress? (Nat.le_refl _)

/-- What holds of a text and is kept when whole elements are taken out holds of what is left. -/
theorem withoutElements_induction {P : List Char → Prop} {names : List String}
    (step : ∀ name ∈ names, ∀ {cs out}, Replaced (putting [] (afterElement? name)) cs out → P cs → P out)
    (holds : P cs) : P (withoutElements names cs) := by
  induction names generalizing cs with
  | nil => exact holds
  | cons name names ih =>
      refine ih (fun other member => step other (List.mem_cons_of_mem _ member)) ?_
      exact step name List.mem_cons_self (replaced_substitute (shortens_afterElement? name) cs) holds

/-! ## Clean texts -/

/-- An active element begins with its tag. -/
theorem finds_afterActiveTag?_of_afterElement? {name : String} (isActive : name ∈ activeElements)
    (finds : Finds (afterElement? name) cs) : Finds afterActiveTag? cs := by
  refine finds.mono fun s found => ?_
  rcases Option.isSome_iff_exists.mp found with ⟨tail, found⟩
  rcases Option.bind_eq_some_iff.mp found with ⟨behind, opening, _⟩
  rcases Option.bind_eq_some_iff.mp opening with ⟨rest, named, ends⟩
  rcases Option.bind_eq_some_iff.mp named with ⟨inside, angle, word⟩
  rw [afterChar?_eq_some.mp angle]
  refine isSome_afterActiveTag?.mpr ⟨tagPattern [] name, ?_, .one rfl (fits_tagName.mpr ?_)⟩
  · exact List.mem_flatMap.mpr ⟨name, isActive, List.mem_cons_self⟩
  · rw [word, Option.bind_some, ends]
    rfl

theorem withoutElements_of_not_finds {names : List String} (areActive : ∀ name ∈ names, name ∈ activeElements)
    (absent : ¬Finds afterActiveTag? cs) : withoutElements names cs = cs := by
  refine withoutElements_induction (P := fun text => text = cs) (fun name member {text out} replaced same => ?_) rfl
  subst same
  refine replaced.eq_self fun finds => absent ?_
  exact finds_afterActiveTag?_of_afterElement? (areActive name member) (finds_putting.mp finds)

theorem withoutTags_of_not_finds (absent : ¬Finds afterActiveTag? cs) : withoutTags cs = cs := by
  have elements : withoutElements activeElements cs = cs := withoutElements_of_not_finds (fun _ => id) absent
  exact ((replaced_withoutTags cs).eq_self (elements.symm ▸ fun finds => absent (finds_putting.mp finds))).trans elements

/-- Nothing is taken out of a clean text. -/
theorem Clean.sanitized_eq (clean : Clean cs) : sanitized cs = cs := by
  rcases clean_iff.mp clean with ⟨noTags, noEvents, noAddresses⟩
  have tags := withoutTags_of_not_finds noTags
  have events : withoutEvents cs = cs :=
    ((replaced_withoutEvents cs).eq_self (tags.symm ▸ fun finds => noEvents (finds_putting.mp finds))).trans tags
  exact ((replaced_sanitized cs).eq_self (events.symm ▸ noAddresses)).trans events

theorem length_withoutElements_le (names : List String) (cs : List Char) :
    (withoutElements names cs).length ≤ cs.length :=
  withoutElements_induction (P := fun text => text.length ≤ cs.length)
    (fun name _ {_ _} replaced le => Nat.le_trans (replaced.length_le (shortens_afterElement? name)) le)
    (Nat.le_refl _)

theorem withoutElements_of_length {names : List String} (long : cs.length ≤ (withoutElements names cs).length) :
    withoutElements names cs = cs := by
  induction names generalizing cs with
  | nil => rfl
  | cons name names ih =>
      have first := replaced_substitute (shortens_afterElement? name) cs
      have behind := length_withoutElements_le names (substitute (afterElement? name) [] cs)
      have same := first.eq_self (first.not_finds_of_length (shortens_afterElement? name) (Nat.le_trans long behind))
      change withoutElements names (substitute (afterElement? name) [] cs) = cs
      change cs.length ≤ (withoutElements names (substitute (afterElement? name) [] cs)).length at long
      rw [same] at long ⊢
      exact ih long

/-- Taking out active content does not make a text longer, and makes it shorter unless it is clean. -/
theorem length_sanitized (cs : List Char) : (sanitized cs).length ≤ cs.length ∧
    (cs.length ≤ (sanitized cs).length → Clean cs) := by
  have elements := length_withoutElements_le activeElements cs
  have tags := (replaced_withoutTags cs).length_le shortens_afterActiveTag?
  have events := (replaced_withoutEvents cs).length_le shortens_afterEvent?
  have addresses := (replaced_sanitized cs).length_le shortens_scriptAddress?
  refine ⟨by omega, fun long => clean_iff.mpr ?_⟩
  have sameElements : withoutElements activeElements cs = cs := withoutElements_of_length (by omega)
  have noTags := (replaced_withoutTags cs).not_finds_of_length shortens_afterActiveTag? (by omega)
  have sameTags := ((replaced_withoutTags cs).eq_self noTags).trans sameElements
  have noEvents := (replaced_withoutEvents cs).not_finds_of_length shortens_afterEvent? (by omega)
  have sameEvents := ((replaced_withoutEvents cs).eq_self noEvents).trans sameTags
  have noAddresses := (replaced_sanitized cs).not_finds_of_length shortens_scriptAddress? (by omega)
  rw [sameElements, finds_putting] at noTags
  rw [sameTags, finds_putting] at noEvents
  rw [sameEvents] at noAddresses
  exact ⟨noTags, noEvents, noAddresses⟩

theorem sanitized_eq_self_iff : sanitized cs = cs ↔ Clean cs :=
  ⟨fun same => (length_sanitized cs).2 (Nat.le_of_eq (congrArg List.length same.symm)), Clean.sanitized_eq⟩

/-- As many passes as there are characters are enough. -/
theorem clean_iterate_sanitized {n : Nat} (enough : cs.length ≤ n) : Clean (sanitized^[n] cs) := by
  induction n generalizing cs with
  | zero =>
      have short := (length_sanitized cs).1
      exact (length_sanitized cs).2 (by omega)
  | succ n ih =>
      rw [Function.iterate_succ_apply]
      by_cases shorter : (sanitized cs).length < cs.length
      · exact ih (by omega)
      · have clean := (length_sanitized cs).2 (by omega)
        rw [clean.sanitized_eq, Function.iterate_fixed clean.sanitized_eq]
        exact clean

end Markup
end ProductGraph
