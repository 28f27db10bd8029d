import Mathlib.Data.List.Infix
import ProductGraph.Markup.Sanitize

namespace ProductGraph
namespace Markup

/-!
# Passes from left to right

A pass goes through a text once.  Where its rule finds something, the pass puts something else in the place of it and
goes on behind it; every other character is kept.  A pass whose rule finds nothing changes nothing, and one whose rule
finds something makes the text shorter, so the texts that a pass leaves alone are those in which nothing is found.

Something may be found in what a pass has made that was not there before.  It begins with a character that was kept and
goes on beyond the next place where something was replaced.
-/

/-- A property holds of a text from some place on. -/
def Somewhere (P : List Char → Prop) (cs : List Char) : Prop := ∃ s, s <:+ cs ∧ P s

/-- A rule finds something. -/
def Finds {α : Type} (rule : List Char → Option α) : List Char → Prop := Somewhere fun s => (rule s).isSome

/-- What a pass with a rule makes of a text. -/
inductive Replaced (rule : List Char → Option (List Char × List Char)) : List Char → List Char → Prop
  | nil : Replaced rule [] []
  | found {cs replacement tail out : List Char} (finds : rule cs = some (replacement, tail))
      (later : Replaced rule tail out) : Replaced rule cs (replacement ++ out)
  | kept {c : Char} {rest out : List Char} (nothing : rule (c :: rest) = none) (later : Replaced rule rest out) :
      Replaced rule (c :: rest) (c :: out)

/-- A rule leaves the end of a text and puts less in the place of what stood before it. -/
structure Shortens (rule : List Char → Option (List Char × List Char)) : Prop where
  suffix {cs replacement tail : List Char} (finds : rule cs = some (replacement, tail)) : tail <:+ cs
  length_lt {cs replacement tail : List Char} (finds : rule cs = some (replacement, tail)) :
    replacement.length + tail.length < cs.length

/-- A rule that puts one text in the place of all that it finds. -/
def putting (replacement : List Char) (rule : List Char → Option (List Char)) (cs : List Char) :
    Option (List Char × List Char) := (rule cs).map fun tail => (replacement, tail)

variable {rule : List Char → Option (List Char × List Char)} {cs out : List Char} {P : List Char → Prop}

theorem Somewhere.of_suffix {s : List Char} (somewhere : Somewhere P s) (suffix : s <:+ cs) : Somewhere P cs := by
  rcases somewhere with ⟨t, inside, holds⟩
  exact ⟨t, inside.trans suffix, holds⟩

theorem Somewhere.mono {Q : List Char → Prop} (implies : ∀ s, P s → Q s) (somewhere : Somewhere P cs) :
    Somewhere Q cs := by
  rcases somewhere with ⟨s, suffix, holds⟩
  exact ⟨s, suffix, implies s holds⟩

theorem somewhere_nil : Somewhere P [] ↔ P [] := by
  constructor
  · rintro ⟨s, suffix, holds⟩
    exact List.suffix_nil.mp suffix ▸ holds
  · exact fun holds => ⟨[], List.suffix_refl [], holds⟩

theorem somewhere_cons {c : Char} {rest : List Char} : Somewhere P (c :: rest) ↔ P (c :: rest) ∨ Somewhere P rest := by
  constructor
  · rintro ⟨s, suffix, holds⟩
    rcases List.suffix_cons_iff.mp suffix with rfl | inside
    · exact .inl holds
    · exact .inr ⟨s, inside, holds⟩
  · rintro (here | later)
    · exact ⟨_, List.suffix_refl _, here⟩
    · exact later.of_suffix (List.suffix_cons c rest)

theorem putting_eq_some {replacement put tail : List Char} {simple : List Char → Option (List Char)} :
    putting replacement simple cs = some (put, tail) ↔ put = replacement ∧ simple cs = some tail := by
  rw [putting, Option.map_eq_some_iff]
  constructor
  · rintro ⟨_, found, parts⟩
    cases parts
    exact ⟨rfl, found⟩
  · rintro ⟨rfl, found⟩
    exact ⟨tail, found, rfl⟩

theorem shortens_putting {replacement : List Char} {simple : List Char → Option (List Char)}
    (takes : ∀ {cs tail}, simple cs = some tail → tail <:+ cs ∧ replacement.length + tail.length < cs.length) :
    Shortens (putting replacement simple) := by
  constructor
  · intro cs put tail finds
    rcases putting_eq_some.mp finds with ⟨rfl, found⟩
    exact (takes found).1
  · intro cs put tail finds
    rcases putting_eq_some.mp finds with ⟨rfl, found⟩
    exact (takes found).2

theorem finds_putting {replacement : List Char} {simple : List Char → Option (List Char)} :
    Finds (putting replacement simple) cs ↔ Finds simple cs := by
  simp only [Finds, putting, Option.isSome_map]

/-- A pass takes no more steps than there are characters. -/
theorem replaced_replaceAll (shortens : Shortens rule) {steps : Nat} (enough : cs.length ≤ steps) :
    Replaced rule cs (replaceAll rule steps cs) := by
  induction steps generalizing cs with
  | zero =>
      rw [List.eq_nil_of_length_eq_zero (Nat.le_zero.mp enough)]
      exact .nil
  | succ steps ih =>
      cases cs with
      | nil => exact .nil
      | cons c rest =>
          rw [replaceAll]
          cases finds : rule (c :: rest) with
          | none => exact .kept finds (ih (Nat.le_of_succ_le_succ enough))
          | some parts =>
              rcases parts with ⟨replacement, tail⟩
              have shorter := shortens.length_lt finds
              exact .found finds (ih (by omega))

theorem replaced_substitute {replacement : List Char} {simple : List Char → Option (List Char)}
    (shortens : Shortens (putting replacement simple)) (cs : List Char) :
    Replaced (putting replacement simple) cs (substitute simple replacement cs) :=
  replaced_replaceAll shortens (Nat.le_refl _)

namespace Replaced

/-- A pass whose rule finds nothing changes nothing. -/
theorem eq_self (replaced : Replaced rule cs out) (absent : ¬Finds rule cs) : out = cs := by
  induction replaced with
  | nil => rfl
  | found finds _ => exact absurd ⟨_, List.suffix_refl _, Option.isSome_of_mem finds⟩ absent
  | kept _ _ ih => rw [ih fun later => absent (later.of_suffix (List.suffix_cons _ _))]

/-- A pass makes one thing of a text. -/
theorem unique {other : List Char} (shortens : Shortens rule) (replaced : Replaced rule cs out)
    (alsoReplaced : Replaced rule cs other) : out = other := by
  induction replaced generalizing other with
  | nil =>
      cases alsoReplaced with
      | nil => rfl
      | found finds _ => exact absurd (shortens.length_lt finds) (Nat.not_lt_zero _)
  | found finds _ ih =>
      cases alsoReplaced with
      | nil => exact absurd (shortens.length_lt finds) (Nat.not_lt_zero _)
      | found finds' later =>
          cases finds.symm.trans finds'
          rw [ih later]
      | kept nothing _ => cases nothing.symm.trans finds
  | kept nothing _ ih =>
      cases alsoReplaced with
      | found finds _ => cases nothing.symm.trans finds
      | kept _ later => rw [ih later]

/-- A pass goes through a text in which nothing begins that the rule finds. -/
theorem keeping {front : List Char} (nothing : ∀ s, s <:+ front → s ≠ [] → rule (s ++ cs) = none)
    (replaced : Replaced rule cs out) : Replaced rule (front ++ cs) (front ++ out) := by
  induction front with
  | nil => exact replaced
  | cons c front ih =>
      refine .kept (nothing _ (List.suffix_refl _) (List.cons_ne_nil c front)) (ih fun s suffix => nothing s ?_)
      exact suffix.trans (List.suffix_cons c front)

/-! ## Counting characters -/

section Count

variable {p : Char → Bool}

theorem countP_le (less : ∀ {cs replacement tail}, rule cs = some (replacement, tail) →
    replacement.countP p + tail.countP p ≤ cs.countP p) (replaced : Replaced rule cs out) :
    out.countP p ≤ cs.countP p := by
  induction replaced with
  | nil => exact Nat.le_refl _
  | found finds _ ih =>
      rw [List.countP_append]
      exact Nat.le_trans (Nat.add_le_add_left ih _) (less finds)
  | kept _ _ ih =>
      rw [List.countP_cons, List.countP_cons]
      exact Nat.add_le_add_right ih _

theorem countP_eq (same : ∀ {cs replacement tail}, rule cs = some (replacement, tail) →
    replacement.countP p + tail.countP p = cs.countP p) (replaced : Replaced rule cs out) :
    out.countP p = cs.countP p := by
  induction replaced with
  | nil => rfl
  | found finds _ ih => rw [List.countP_append, ih, same finds]
  | kept _ _ ih => rw [List.countP_cons, List.countP_cons, ih]

theorem countP_lt (less : ∀ {cs replacement tail}, rule cs = some (replacement, tail) →
    replacement.countP p + tail.countP p < cs.countP p) (replaced : Replaced rule cs out) (finds : Finds rule cs) :
    out.countP p < cs.countP p := by
  induction replaced with
  | nil =>
      rcases Option.isSome_iff_exists.mp (somewhere_nil.mp finds) with ⟨_, here⟩
      exact absurd (less here) (Nat.not_lt_zero _)
  | found here later _ =>
      have behind := later.countP_le fun finds => Nat.le_of_lt (less finds)
      rw [List.countP_append]
      exact Nat.lt_of_le_of_lt (Nat.add_le_add_left behind _) (less here)
  | kept nothing _ ih =>
      rcases somewhere_cons.mp finds with here | later
      · rw [nothing] at here
        cases here
      · rw [List.countP_cons, List.countP_cons]
        exact Nat.add_lt_add_right (ih later) _

end Count

theorem length_le (shortens : Shortens rule) (replaced : Replaced rule cs out) : out.length ≤ cs.length := by
  have counted := replaced.countP_le (p := fun _ => true) fun finds => by
    simpa only [List.countP_true] using Nat.le_of_lt (shortens.length_lt finds)
  simpa only [List.countP_true] using counted

theorem length_lt (shortens : Shortens rule) (replaced : Replaced rule cs out) (finds : Finds rule cs) :
    out.length < cs.length := by
  have counted := replaced.countP_lt (p := fun _ => true) (fun finds => by
    simpa only [List.countP_true] using shortens.length_lt finds) finds
  simpa only [List.countP_true] using counted

/-- A pass that makes a text no shorter has found nothing in it. -/
theorem not_finds_of_length (shortens : Shortens rule) (replaced : Replaced rule cs out) (long : cs.length ≤ out.length) :
    ¬Finds rule cs := fun finds => Nat.not_lt_of_le long (replaced.length_lt shortens finds)

/-- A character that rules do not put in place of what they find was there before. -/
theorem mem {c : Char} (shortens : Shortens rule)
    (kept : ∀ {cs replacement tail}, rule cs = some (replacement, tail) → c ∈ replacement → c ∈ cs)
    (replaced : Replaced rule cs out) (member : c ∈ out) : c ∈ cs := by
  induction replaced with
  | nil => exact member
  | found finds _ ih =>
      rcases List.mem_append.mp member with inside | behind
      · exact kept finds inside
      · exact (shortens.suffix finds).subset (ih behind)
  | kept _ _ ih =>
      rcases List.mem_cons.mp member with rfl | behind
      · exact List.mem_cons_self
      · exact List.mem_cons_of_mem _ (ih behind)

/-! ## Seams -/

/-- The first place where something is replaced. -/
theorem first (replaced : Replaced rule cs out) :
    out = cs ∨ ∃ p s replacement tail behind, cs = p ++ s ∧ rule s = some (replacement, tail) ∧
      Replaced rule tail behind ∧ out = p ++ (replacement ++ behind) := by
  induction replaced with
  | nil => exact .inl rfl
  | @found cs replacement tail out finds later _ => exact .inr ⟨[], cs, replacement, tail, out, rfl, finds, later, rfl⟩
  | @kept c rest out _ _ ih =>
      rcases ih with rfl | ⟨p, s, replacement, tail, behind, rfl, finds, later, rfl⟩
      · exact .inl rfl
      · exact .inr ⟨c :: p, s, replacement, tail, behind, rfl, finds, later, rfl⟩

/-- What holds somewhere in the result of a pass holds of the text at a place that was kept, unless it comes of a
replacement: it does not begin in one, and going on beyond one it would have held before. -/
theorem somewhere (shortens : Shortens rule) (replaced : Replaced rule cs out) (notEmpty : ¬P [])
    (inside : ∀ {s replacement tail behind}, rule s = some (replacement, tail) →
      ∀ d q, d :: q <:+ replacement → ¬P (d :: q ++ behind))
    (seam : ∀ {c p s replacement tail behind}, c :: p ++ s <:+ cs → rule (c :: p ++ s) = none →
      rule s = some (replacement, tail) → Replaced rule tail behind → P (c :: p ++ (replacement ++ behind)) →
        P (c :: p ++ s))
    (holds : Somewhere P out) : ∃ s, s <:+ cs ∧ rule s = none ∧ P s := by
  induction replaced with
  | nil => exact absurd (somewhere_nil.mp holds) notEmpty
  | @found cs replacement tail out finds later ih =>
      have suffix := shortens.suffix finds
      have behind : Somewhere P out := by
        rcases holds with ⟨s, ⟨t, parts⟩, here⟩
        rcases List.append_eq_append_iff.mp parts with ⟨q, rfl, rfl⟩ | ⟨q, rfl, rfl⟩
        · cases q with
          | nil => exact ⟨_, List.suffix_refl _, here⟩
          | cons d q => exact absurd here (inside finds d q (List.suffix_append t _))
        · exact ⟨s, List.suffix_append q s, here⟩
      rcases ih (fun within => seam (within.trans suffix)) behind with ⟨s, within, kept, here⟩
      exact ⟨s, within.trans suffix, kept, here⟩
  | @kept c rest out nothing later ih =>
      rcases somewhere_cons.mp holds with here | behind
      · refine ⟨_, List.suffix_refl _, nothing, ?_⟩
        rcases later.first with rfl | ⟨p, s, replacement, tail, behind, rfl, finds, goesOn, rfl⟩
        · exact here
        · exact seam (List.suffix_refl _) nothing finds goesOn here
      · rcases ih (fun within => seam (within.trans (List.suffix_cons c rest))) behind with ⟨s, within, kept, here⟩
        exact ⟨s, within.trans (List.suffix_cons c rest), kept, here⟩

end Replaced
end Markup
end ProductGraph
