import ProductGraph.Item.Validation
import ProductGraph.Proofs.Consistency.Mirror
import ProductGraph.Proofs.Consistency.Verdict
import ProductGraph.Proofs.Outcome
import ProductGraph.Proofs.Pattern.Enclosed

namespace ProductGraph

/-!
# Patterns that values have to match

A property class is accepted if its pattern is one by itself.  Values are matched in full, and for that the pattern is
put between anchors; where that gives no pattern, nothing is refused.  So a declared pattern is enforced if it is one
between anchors as well, and no value is held to any other.

All of this holds for any limit on patterns.
-/

namespace Validation

/-- The pattern of an accepted property class is a pattern. -/
theorem isPattern_of_valid [PatternLimit] {c : PropertyClass} {p : String} (valid : item (.propertyClass c) = .ok ())
    (declared : c.pattern = some p) : Pattern.isPattern p = true := by
  rcases Outcome.unit_bind_eq_ok.mp valid with ⟨_, valid⟩
  rcases Outcome.unit_bind_eq_ok.mp valid with ⟨_, valid⟩
  rcases Outcome.unit_bind_eq_ok.mp valid with ⟨_, valid⟩
  rcases Outcome.unit_bind_eq_ok.mp valid with ⟨_, valid⟩
  rcases Outcome.unit_bind_eq_ok.mp valid with ⟨readable, _⟩
  by_contra unreadable
  simp [pattern, declared, refuseIf, unreadable] at readable

end Validation

namespace Consistency

open Pattern (Anchorable)

variable {g : Graph} {p : String}

/-- A mismatch is a fault, unless the value has another one that is looked for before. -/
theorem isSome_valueCause? [PatternLimit] {v : PropertyValue} (known : (g.propertyClass? v.hasClass).isSome = true)
    (mismatch : (patternCause? g v.hasClass v.value).isSome = true) : (valueCause? g v).isSome = true := by
  unfold valueCause?
  have present : (g.propertyClass? v.hasClass).isNone = false := by
    rcases Option.isSome_iff_exists.mp known with ⟨c, found⟩
    rw [found]
    rfl
  simp only [present, Bool.false_eq_true, if_false]
  split
  · rfl
  · simp [mismatch]

/-- A pattern that a property class may declare is enforced exactly if it is a pattern between anchors too, which three
conditions decide.  Then a value is a violation if it is not matched in full; and otherwise every value passes. -/
theorem enforced_iff_anchorable [PatternLimit] {c : PropertyClass}
    (valid : Validation.item (.propertyClass c) = .ok ()) (declared : c.pattern = some p) :
    (Pattern.isPattern (Pattern.wholeText p) = true ↔ Anchorable p) ∧
      (Anchorable p → ∀ (g : Graph) (lang : String), ∀ d ∈ g.items, ∀ v ∈ valuesOf d,
        (g.propertyClass? v.hasClass).isSome = true → g.facet? v.hasClass PropertyClass.pattern = some p →
        (Pattern.ofText? p).any (fun q => q.matchesAll v.value) = false →
        (g.check (.only [.valueConstraints]) lang).isSome = true) ∧
      (¬Anchorable p → ∀ (g : Graph) (property text : String),
        g.facet? property PropertyClass.pattern = some p → patternCause? g property text = none) := by
  rcases Option.isSome_iff_exists.mp (Validation.isPattern_of_valid valid declared) with ⟨q, reads⟩
  have iff := Pattern.isPattern_wholeText_iff reads
  refine ⟨iff, ?_, ?_⟩
  · intro fits g lang d member v own known nearest apart
    have rejects : Pattern.rejects p v.value = true := by
      rw [Pattern.rejects, Pattern.ofText?_wholeText reads fits]
      rw [reads, Option.any_some, ← Pattern.matchesText_anchored] at apart
      simp only [apart, Bool.not_false]
    have mismatch : (patternCause? g v.hasClass v.value).isSome = true := by
      rw [patternCause?, nearest, Option.bind_some, if_pos rejects]
      rfl
    rw [Graph.check_only]
    refine (isSome_valueConstraints g).trans (List.any_eq_true.mpr ⟨d, member, List.any_eq_true.mpr ⟨v, own, ?_⟩⟩)
    exact isSome_valueCause? known mismatch
  · intro unfit g property text nearest
    have noPattern : Pattern.ofText? (Pattern.wholeText p) = none :=
      Option.not_isSome_iff_eq_none.mp fun isOne => unfit (iff.mp isOne)
    rw [patternCause?, nearest, Option.bind_some, Pattern.rejects, noPattern]
    rfl

def codeClass (pattern : String) : PropertyClass :=
  ⟨⟨"ex:code", none, [], []⟩, some "pig:Property", some "xs:string", none, none, none, some pattern, none, none, none⟩

def coded (pattern text : String) : Graph where
  items := [.propertyClass (codeClass pattern), .property ⟨"ex:code", text, none⟩]

/-- The class is accepted if the pattern is one by itself. -/
theorem item_codeClass [PatternLimit] (readable : Pattern.isPattern p = true) :
    Validation.item (.propertyClass (codeClass p)) = .ok () := by
  have pattern : Validation.pattern (codeClass p) = .ok () := by
    simp [Validation.pattern, codeClass, Validation.refuseIf, readable]
  have facets : Validation.facets (codeClass p) = .ok () := by rfl
  simp only [Validation.item, Validation.propertyClass, pattern, facets]
  rfl

/-- An alternative has to be matched in full, although its first option matches the front of the text. -/
theorem enforced_iff_anchorable_alternative :
    Validation.item (.propertyClass (codeClass "a|b")) = .ok () ∧ (codeClass "a|b").pattern = some "a|b" ∧
      Anchorable "a|b" ∧ ((coded "a|b" "ac").check (.only [.valueConstraints]) "en").isSome = true := by
  have valid : Validation.item (.propertyClass (codeClass "a|b")) = .ok () := item_codeClass (by decide +kernel)
  have enforced := enforced_iff_anchorable valid rfl
  have fits : Anchorable "a|b" := enforced.1.mp (by decide +kernel)
  refine ⟨valid, rfl, fits, ?_⟩
  exact enforced.2.1 fits (coded "a|b" "ac") "en" (.property ⟨"ex:code", "ac", none⟩) (by simp [coded])
    ⟨"ex:code", "ac", none⟩ (by simp [valuesOf]) (by decide +kernel) (by decide +kernel) (by decide +kernel)

/-- A pattern that is accepted and ends in a comment is enforced on nothing: b passes where only a matches. -/
theorem exists_pattern_unenforced :
    Validation.item (.propertyClass (codeClass "(?x)a#")) = .ok () ∧
      (Pattern.ofText? "(?x)a#").any (fun q => q.matchesAll "b") = false ∧
      (coded "(?x)a#" "b").check .all "en" = none ∧ ((coded "(?x)a#\n" "b").check .all "en").isSome = true := by
  refine ⟨item_codeClass ?_, ?_, ?_, ?_⟩ <;> decide +kernel

end Consistency
end ProductGraph
