import ProductGraph.Proofs.Consistency.Mirror
import ProductGraph.Proofs.Graph.Rearrangement

namespace ProductGraph

/-!
# The verdict does not depend on order

Every check stops at the first thing it finds, so the violation that is reported depends on the order of the items.
Whether there is one, and which check reports it, does not.  Each check is brought to the form that some item has
some property; the property is one that alike graphs agree on.

The order does matter where an identifier is used twice, since the first item with it is the one that is found.  So
the identifiers have to be distinct, or else the check that they are has to be among those asked for: it comes first,
and finds the repetition in either order.
-/

open ItemData

namespace Consistency

/-! ## What the checks look at in a single item -/

theorem references_perm {d e : ItemData} (h : Rearranged d e) : (references d).Perm (references e) := by
  rw [references, references, h.resembles.kind_eq, h.resembles.parent?_eq, h.hasClass_eq]
  cases d.kind.isClass with
  | true => exact .refl _
  | false =>
      refine ((List.Perm.refl _).append (h.properties_perm.map _)).append ?_
      exact (h.sourceLinks_perm.append h.targetLinks_perm).map _

theorem linksOf_perm {d e : ItemData} (h : Rearranged d e) : (linksOf d).Perm (linksOf e) := by
  cases h with
  | same => exact .refl _
  | entity _ _ targets => exact (List.Perm.refl []).append targets
  | relationship _ _ sources targets => exact sources.append targets

theorem valuesOf_perm {d e : ItemData} (h : Rearranged d e) : (valuesOf d).Perm (valuesOf e) := by
  cases h with
  | same => exact .refl _
  | entity _ permuted => exact permuted
  | relationship _ permuted => exact permuted

end Consistency

namespace Graph
namespace Alike

open Consistency

variable {g h : Graph}

/-! ## Alike graphs agree -/

/-- Alike graphs agree on whether some item has a property on which counterparts agree. -/
theorem any_items (alike : Alike g h) {test other : ItemData → Bool}
    (agree : ∀ {d e}, Rearranged d e → other e = test d) : h.items.any other = g.items.any test := by
  rw [Bool.eq_iff_iff, List.any_eq_true, List.any_eq_true]
  constructor
  · rintro ⟨e, inside, holds⟩
    rcases alike.back e inside with ⟨d, there, related⟩
    exact ⟨d, there, agree related ▸ holds⟩
  · rintro ⟨d, inside, holds⟩
    rcases alike.forth d inside with ⟨e, there, related⟩
    exact ⟨e, there, (agree related).trans holds⟩

theorem any_individuals (alike : Alike g h) {test other : ItemData → Bool}
    (agree : ∀ {d e}, Rearranged d e → other e = test d) : h.individuals.any other = g.individuals.any test := by
  rw [individuals, individuals, List.any_filter, List.any_filter]
  exact alike.any_items fun related => by rw [related.resembles.kind_eq, agree related]

theorem isSome_targetCause? (alike : Alike g h) (link : LinkValue) :
    (targetCause? h link).isSome = (targetCause? g link).isSome := by
  refine alike.mirrors.isSome_targetCause? trivial trivial fun d e here there => ?_
  rcases alike.found link.idRef with ⟨none, _⟩ | ⟨d', e', here', there', related⟩
  · exact absurd (none.symm.trans here) nofun
  · cases here.symm.trans here'
    cases there.symm.trans there'
    have sameEnd : classAtEnd e = classAtEnd d := by
      rw [classAtEnd, classAtEnd, related.resembles.kind_eq, related.resembles.label_eq, related.hasClass_eq]
    rw [sameEnd]
    exact alike.mirrors.hasForeign_eq _ (.refl _) fun _ _ => trivial

theorem hasForeign_eq (alike : Alike g h) (allowed : Option (List String)) {first second : List String}
    (permuted : first.Perm second) : hasForeign h allowed second = hasForeign g allowed first :=
  alike.mirrors.hasForeign_eq allowed permuted fun _ _ => trivial

/-- Counterparts have too many or too few values alike. -/
theorem isSome_individualCardinality (alike : Alike g h) (lang : String) {d e : ItemData} (related : Rearranged d e) :
    (individualCardinality h lang e).isSome = (individualCardinality g lang d).isSome := by
  have listed : h.properties? = g.properties? := funext fun _ => alike.mirrors.properties?_eq trivial
  exact alike.mirrors.isSome_individualCardinality lang related.properties_perm (fun _ _ => trivial)
    (by rw [related.hasClass_eq, listed]) fun _ _ => trivial

theorem isSome_allowedLinks (alike : Alike g h) {d e : ItemData} (related : Rearranged d e) :
    ((allowedLinks h e).any fun role => hasForeign h role.2.1 (role.2.2.map (·.hasClass))) =
      (allowedLinks g d).any fun role => hasForeign g role.2.1 (role.2.2.map (·.hasClass)) := by
  have unmoved : ∀ allowed (links : List LinkValue),
      hasForeign h allowed (links.map (·.hasClass)) = hasForeign g allowed (links.map (·.hasClass)) :=
    fun allowed links => alike.hasForeign_eq allowed (.refl _)
  have sources : ∀ id, h.sourceLink? id = g.sourceLink? id := fun _ => alike.mirrors.sourceLink?_eq trivial
  have targets : ∀ id, h.targetLink? id = g.targetLink? id := fun _ => alike.mirrors.targetLink?_eq trivial
  have nodeTargets : ∀ id, h.targetLinks? id = g.targetLinks? id := fun _ => alike.mirrors.targetLinks?_eq trivial
  cases related with
  | same => cases d <;> simp only [allowedLinks, List.any_cons, List.any_nil, nodeTargets, sources, targets, unmoved]
  | entity _ _ moved =>
      simp only [allowedLinks, List.any_cons, List.any_nil, nodeTargets,
        alike.hasForeign_eq _ (moved.map LinkValue.hasClass)]
  | relationship _ _ moved alsoMoved =>
      simp only [allowedLinks, List.any_cons, List.any_nil, sources, targets,
        alike.hasForeign_eq _ (moved.map LinkValue.hasClass), alike.hasForeign_eq _ (alsoMoved.map LinkValue.hasClass)]

/-- Every check but the one for repeated identifiers finds something in both of two alike graphs or in neither. -/
theorem isSome_violation? (alike : Alike g h) (lang : String) {c : Check} (other : c ≠ .duplicateIds) :
    (h.violation? lang c).isSome = (g.violation? lang c).isSome := by
  cases c with
  | duplicateIds => exact absurd rfl other
  | classReferences =>
      simp only [violation?, isSome_classReferences, alike.mirrors.isSome_referenceCause? trivial]
      exact alike.any_items fun related => (references_perm related).symm.any_eq
  | specializationCycles =>
      simp only [violation?, isSome_specializationCycles, alike.mirrors.isSome_cycle? trivial]
      exact alike.any_items fun related => by rw [related.resembles.parent?_eq, related.resembles.id?_eq]
  | cardinality =>
      simp only [violation?, Consistency.isSome_cardinality]
      exact alike.any_individuals fun related => alike.isSome_individualCardinality lang related
  | linkTargets =>
      simp only [violation?, isSome_linkTargets, alike.isSome_targetCause?]
      exact alike.any_items fun related => (linksOf_perm related).symm.any_eq
  | eligibleProperties =>
      simp only [violation?, isSome_eligibleProperties, alike.mirrors.properties?_eq trivial]
      refine alike.any_individuals fun related => ?_
      rw [related.hasClass_eq]
      exact alike.hasForeign_eq _ (related.properties_perm.map _)
  | eligibleLinks =>
      simp only [violation?, isSome_eligibleLinks]
      exact alike.any_individuals fun related => alike.isSome_allowedLinks related
  | valueConstraints =>
      simp only [violation?, isSome_valueConstraints, alike.mirrors.valueCause?_eq trivial]
      exact alike.any_items fun related => (valuesOf_perm related).symm.any_eq

end Alike

/-! ## Repeated identifiers -/

/-- Where identifiers repeat, a verdict that looks for repetitions names that check. -/
theorem check_of_repeated {g : Graph} (repeated : ¬ g.ids.Nodup) {requested : CheckSet}
    (asked : requested.contains .duplicateIds = true) (lang : String) :
    (g.check requested lang).map Violation.check = some .duplicateIds := by
  have first : requested.toList = .duplicateIds :: Check.all.tail.filter requested.contains :=
    List.filter_cons_of_pos asked
  have finds := (isSome_duplicateIds g lang).mpr repeated
  rw [map_check_check, first, List.find?_cons, finds]

/-- The check that a verdict names, or that it names none, is the same for the items in any order and for the
fragments in each individual in any order. -/
theorem check_of_rearranged {first middle last : List ItemData} (permuted : first.Perm middle)
    (rearranged : List.Forall₂ Rearranged middle last) (requested : CheckSet) (lang : String)
    (distinct : (first.filterMap ItemData.id?).Nodup ∨ requested.contains .duplicateIds = true) :
    ((⟨last⟩ : Graph).check requested lang).map Violation.check =
      ((⟨first⟩ : Graph).check requested lang).map Violation.check := by
  have sameIds : (⟨last⟩ : Graph).ids.Perm (⟨first⟩ : Graph).ids := by
    rw [ids, ids, filterMap_eq_of_related (fun related => related.resembles.id?_eq) rearranged]
    exact (permuted.filterMap ItemData.id?).symm
  by_cases unique : (⟨first⟩ : Graph).ids.Nodup
  · have alike := alike_of_perm permuted rearranged unique
    have alsoUnique : (⟨last⟩ : Graph).ids.Nodup := sameIds.nodup_iff.mpr unique
    rw [map_check_check, map_check_check]
    congr 1
    funext c
    by_cases repetition : c = .duplicateIds
    · rw [repetition, Bool.eq_iff_iff, isSome_duplicateIds, isSome_duplicateIds, sameIds.nodup_iff]
    · exact alike.isSome_violation? lang repetition
  · have asked := distinct.resolve_left unique
    have alsoRepeated : ¬ (⟨last⟩ : Graph).ids.Nodup := fun unique' => unique (sameIds.nodup_iff.mp unique')
    rw [check_of_repeated alsoRepeated asked, check_of_repeated unique asked]

/-- A car that has two colours where its class allows one, the colours in a given order. -/
def colouredCar (colours : List String) : ItemData :=
  .entity ⟨⟨"ex:car", none, [], []⟩,
    ⟨none, [], some "2025-01-01T00:00:00Z", none, colours.map fun c => ⟨"ex:colour", c, none⟩⟩, "ex:Car", []⟩

def carClasses : List ItemData :=
  [.propertyClass ⟨⟨"ex:colour", none, [⟨"Colour", none⟩], []⟩, some "pig:Property", some "xs:string", none, some 1,
      none, none, none, none, none⟩,
    .entityClass ⟨⟨"ex:Car", none, [⟨"Car", none⟩], []⟩, ⟨some ["ex:colour"], none⟩, some "pig:Entity", none⟩]

theorem check_of_rearranged_car :
    ((⟨colouredCar ["red", "blue"] :: carClasses⟩ : Graph).check .all "en").map Violation.check =
        ((⟨carClasses ++ [colouredCar ["blue", "red"]]⟩ : Graph).check .all "en").map Violation.check ∧
      ((⟨carClasses ++ [colouredCar ["blue", "red"]]⟩ : Graph).check .all "en").map Violation.check =
        some .cardinality :=
  have permuted : (carClasses ++ [colouredCar ["blue", "red"]]).Perm (colouredCar ["blue", "red"] :: carClasses) :=
    List.perm_append_singleton _ _
  ⟨check_of_rearranged permuted
    (.cons (.entity _ (List.Perm.swap _ _ []) (.refl _)) (.cons (.same _) (.cons (.same _) .nil))) .all "en"
    (.inr rfl), by decide⟩

end Graph
end ProductGraph
