import ProductGraph.Proofs.Consistency.Cardinality
import ProductGraph.Proofs.Graph.Mirror

namespace ProductGraph

/-!
# What checks find in mirrored graphs

Each check is brought to the form that some item has some property, which leaves out what is reported and where.  What
the check asks of the graph about identifiers that are known has the same answer in a graph that mirrors it.

An individual may stand against another one here, with its values in another order; whether its class allows the same
is for the caller to say, because the class may be another.
-/

open ItemData

namespace Consistency

/-! ## Checks as conditions on some item -/

theorem isSome_classReferences (g : Graph) :
    (classReferences g).isSome = g.items.any fun d => (references d).any fun r => (referenceCause? g r).isSome := by
  simp [classReferences, List.isSome_findSome?]

theorem isSome_specializationCycles (g : Graph) :
    (specializationCycles g).isSome =
      g.items.any fun d => d.parent?.isSome && d.id?.any fun id => (g.cycle? id).isSome := by
  rw [specializationCycles, List.isSome_findSome?]
  congr 1
  funext d
  cases d.id? with
  | none => simp
  | some id => cases d.parent? <;> simp

theorem isSome_cardinality (g : Graph) (lang : String) :
    (cardinality g lang).isSome = g.individuals.any fun d => (individualCardinality g lang d).isSome := by
  simp [cardinality, List.isSome_findSome?]

theorem isSome_linkTargets (g : Graph) :
    (linkTargets g).isSome = g.items.any fun d => (linksOf d).any fun link => (targetCause? g link).isSome := by
  simp [linkTargets, List.isSome_findSome?]

/-- Whether some of the classes neither is nor specializes one that is allowed. -/
def hasForeign (g : Graph) (allowed : Option (List String)) (classes : List String) : Bool :=
  allowed.any fun allowed => classes.any fun c => !allowed.any fun a => g.isA c a

theorem isSome_foreign? (g : Graph) (allowed : List String) (classes : List String) :
    (foreign? g allowed classes).isSome = classes.any fun c => !allowed.any fun a => g.isA c a := by
  rw [foreign?, List.isSome_find?]

theorem isSome_eligibleProperties (g : Graph) :
    (eligibleProperties g).isSome =
      g.individuals.any fun d => hasForeign g (g.properties? (d.hasClass.getD "")) (d.properties.map (·.hasClass)) := by
  rw [eligibleProperties, List.isSome_findSome?]
  congr 1
  funext d
  cases allowed : g.properties? (d.hasClass.getD "") with
  | none => simp [hasForeign, allowed]
  | some list => simp [hasForeign, allowed, isSome_foreign?]

theorem isSome_eligibleLinks (g : Graph) :
    (eligibleLinks g).isSome =
      g.individuals.any fun d =>
        (allowedLinks g d).any fun role => hasForeign g role.2.1 (role.2.2.map (·.hasClass)) := by
  rw [eligibleLinks, List.isSome_findSome?]
  congr 1
  funext d
  rw [List.isSome_findSome?]
  congr 1
  funext role
  rcases role with ⟨side, allowed, links⟩
  cases allowed with
  | none => rfl
  | some list => simp [hasForeign, isSome_foreign?]

theorem isSome_valueConstraints [PatternLimit] (g : Graph) :
    (valueConstraints g).isSome = g.items.any fun d => (valuesOf d).any fun v => (valueCause? g v).isSome := by
  simp [valueConstraints, List.isSome_findSome?]

theorem isSome_targetCause? (g : Graph) (link : LinkValue) :
    (targetCause? g link).isSome =
      match g.get? link.idRef with
      | none => true
      | some target => hasForeign g (g.endpoints? link.hasClass) [classAtEnd target] := by
  rw [targetCause?]
  cases g.get? link.idRef with
  | none => rfl
  | some target =>
      cases g.endpoints? link.hasClass with
      | none => rfl
      | some endpoints =>
          by_cases eligible : endpoints.any fun e => g.isA (classAtEnd target) e <;> simp [hasForeign, eligible]

/-! ## Counts -/

theorem named_perm {α : Type} (name : α → String) (key : String) {first second : List α}
    (permuted : first.Perm second) : (named name key first).Perm (named name key second) :=
  permuted.filter _

/-- Whether so many values are too many or too few does not depend on their order. -/
theorem isSome_occurrenceCause?_of_perm (g : Graph) (lang property : String) {first second : List PropertyValue}
    (permuted : first.Perm second) :
    (occurrenceCause? g lang property second).isSome = (occurrenceCause? g lang property first).isSome := by
  have none_iff : occurrenceCause? g lang property second = none ↔ occurrenceCause? g lang property first = none := by
    simp only [occurrenceCause?_eq_none_iff, permuted.mem_iff, permuted.countP_eq, permuted.length_eq]
  rw [Bool.eq_iff_iff, ← Option.ne_none_iff_isSome, ← Option.ne_none_iff_isSome]
  exact not_congr none_iff

/-- A property of an individual occurs too often or not often enough if the values of one of its properties do, or if a
property is absent that its class lists. -/
theorem isSome_individualCardinality (g : Graph) (lang : String) (d : ItemData) :
    (individualCardinality g lang d).isSome =
      ((d.properties.any fun v =>
          (occurrenceCause? g lang v.hasClass (named PropertyValue.hasClass v.hasClass d.properties)).isSome) ||
        ((d.hasClass.bind g.properties?).getD []).any fun property =>
          (!d.properties.any fun v => g.isA v.hasClass property) && (absenceCause? g lang property).isSome) := by
  rw [individualCardinality, Option.isSome_or]
  congr 1
  · rw [Bool.eq_iff_iff, findSome?_groupedBy_isSome_iff, List.any_eq_true]
    simp only [Option.isSome_map]
  · simp only [List.isSome_findSome?, List.any_filter, Option.isSome_map, any_groups_isA]

end Consistency

namespace Graph

/-- The check for repeated identifiers finds something exactly if one is repeated. -/
theorem isSome_duplicateIds (g : Graph) (lang : String) :
    (g.violation? lang .duplicateIds).isSome = true ↔ ¬ g.ids.Nodup := by
  rw [violation?, Consistency.duplicateIds, Option.isSome_map, ← duplicates_eq_nil_iff]
  cases g.duplicates <;> simp

namespace Mirrors

open Consistency

variable {known : String → Prop} {g h : Graph}

/-! ## Mirrored graphs agree -/

theorem isSome_referenceCause? (mirrors : Mirrors known g h) {r : Reference} (isKnown : known r.target) :
    (referenceCause? h r).isSome = (referenceCause? g r).isSome := by
  rw [referenceCause?, referenceCause?]
  rcases mirrors.found r.target isKnown with ⟨here, there⟩ | ⟨d, e, here, there, related⟩ <;> rw [here, there]
  simp only [related.kind_eq]

/-- Where a link leads is right in both, provided that what counts there may be at the end of it alike. -/
theorem isSome_targetCause? (mirrors : Mirrors known g h) {link : LinkValue} (isKnown : known link.idRef)
    (classKnown : known link.hasClass)
    (ends : ∀ d e, g.get? link.idRef = some d → h.get? link.idRef = some e →
      hasForeign h (g.endpoints? link.hasClass) [classAtEnd e] =
        hasForeign g (g.endpoints? link.hasClass) [classAtEnd d]) :
    (targetCause? h link).isSome = (targetCause? g link).isSome := by
  rw [Consistency.isSome_targetCause?, Consistency.isSome_targetCause?, mirrors.endpoints?_eq classKnown]
  rcases mirrors.found link.idRef isKnown with ⟨here, there⟩ | ⟨d, e, here, there, _⟩ <;> rw [here, there]
  exact ends d e here there

theorem hasForeign_eq (mirrors : Mirrors known g h) (allowed : Option (List String)) {first second : List String}
    (permuted : first.Perm second) (isKnown : ∀ c ∈ first, known c) :
    hasForeign h allowed second = hasForeign g allowed first := by
  rw [hasForeign, hasForeign]
  congr 1
  funext list
  rw [permuted.symm.any_eq]
  exact any_eq_of_mem fun c member => by simp only [mirrors.isA_eq (isKnown c member)]

theorem valueCause?_eq [PatternLimit] (mirrors : Mirrors known g h) {v : PropertyValue} (isKnown : known v.hasClass) :
    valueCause? h v = valueCause? g v := by
  simp only [valueCause?, lengthCause?, patternCause?, boundCause?, mirrors.propertyClass?_eq isKnown,
    mirrors.datatype?_eq isKnown, mirrors.facet?_eq isKnown]

theorem occurrenceCause?_eq (mirrors : Mirrors known g h) {property : String} (isKnown : known property) (lang : String)
    (values : List PropertyValue) :
    occurrenceCause? h lang property values = occurrenceCause? g lang property values := by
  simp only [occurrenceCause?, mirrors.propertyClass?_eq isKnown, mirrors.isText_eq isKnown,
    mirrors.minCount_eq isKnown, mirrors.maxCount_eq isKnown]

theorem absenceCause?_eq (mirrors : Mirrors known g h) {property : String} (isKnown : known property) (lang : String) :
    absenceCause? h lang property = absenceCause? g lang property := by
  simp only [absenceCause?, mirrors.propertyClass?_eq isKnown, mirrors.isText_eq isKnown, mirrors.minCount_eq isKnown]

/-- Individuals with the same values, whose classes list the same properties, have too many or too few values alike:
their values fall into the same groups. -/
theorem isSome_individualCardinality (mirrors : Mirrors known g h) (lang : String) {d e : ItemData}
    (permuted : d.properties.Perm e.properties) (valuesKnown : ∀ v ∈ d.properties, known v.hasClass)
    (listed : e.hasClass.bind h.properties? = d.hasClass.bind g.properties?)
    (listedKnown : ∀ p ∈ (d.hasClass.bind g.properties?).getD [], known p) :
    (individualCardinality h lang e).isSome = (individualCardinality g lang d).isSome := by
  rw [Consistency.isSome_individualCardinality, Consistency.isSome_individualCardinality, listed,
    permuted.symm.any_eq]
  congr 1
  · refine any_eq_of_mem fun v member => ?_
    rw [mirrors.occurrenceCause?_eq (valuesKnown v member),
      isSome_occurrenceCause?_of_perm g lang v.hasClass (named_perm _ _ permuted)]
  · refine any_eq_of_mem fun p member => ?_
    rw [mirrors.absenceCause?_eq (listedKnown p member), permuted.symm.any_eq]
    congr 2
    exact any_eq_of_mem fun v known => mirrors.isA_eq (valuesKnown v known) p

end Mirrors
end Graph
end ProductGraph
