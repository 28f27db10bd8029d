import ProductGraph.Proofs.Graph.Mirror

namespace ProductGraph

/-!
# Graphs in another order

The items of a graph may stand in another order, and so may the fragments inside each individual.  As long as no
identifier is used twice, everything that is looked up in such a graph is the same item up to the order of its
fragments, and nothing that classes declare or pass on depends on that order.

Such a graph mirrors the other one, so what walks find and classes declare need not be looked at again.  The relation
is between the items, not between places: it does not say which item of the one graph is which of the other, because
without identifiers nothing would.
-/

namespace ItemData

/-- The same item, the fragments of an individual in another order. -/
inductive Rearranged : ItemData → ItemData → Prop
  | same (d : ItemData) : Rearranged d d
  | entity (e : Entity) {properties : List PropertyValue} {targets : List LinkValue}
      (permuted : e.individual.hasProperty.Perm properties) (targetsPermuted : e.hasTargetLink.Perm targets) :
      Rearranged (.entity e)
        (.entity { e with individual := { e.individual with hasProperty := properties }, hasTargetLink := targets })
  | relationship (r : Relationship) {properties : List PropertyValue} {sources targets : List LinkValue}
      (permuted : r.individual.hasProperty.Perm properties) (sourcesPermuted : r.hasSourceLink.Perm sources)
      (targetsPermuted : r.hasTargetLink.Perm targets) :
      Rearranged (.relationship r)
        (.relationship { r with
          individual := { r.individual with hasProperty := properties }, hasSourceLink := sources,
          hasTargetLink := targets })

namespace Rearranged

variable {d e : ItemData}

theorem resembles (h : Rearranged d e) : Resembles d e := by
  cases h with
  | same => exact .same d
  | entity => exact .entity rfl
  | relationship => exact .relationship rfl

theorem hasClass_eq (h : Rearranged d e) : e.hasClass = d.hasClass := by
  cases h <;> rfl

theorem properties_perm (h : Rearranged d e) : d.properties.Perm e.properties := by
  cases h with
  | same => exact .refl _
  | entity _ permuted => exact permuted
  | relationship _ permuted => exact permuted

theorem sourceLinks_perm (h : Rearranged d e) : d.sourceLinks.Perm e.sourceLinks := by
  cases h with
  | same => exact .refl _
  | entity => exact .refl _
  | relationship _ _ permuted => exact permuted

theorem targetLinks_perm (h : Rearranged d e) : d.targetLinks.Perm e.targetLinks := by
  cases h with
  | same => exact .refl _
  | entity _ _ permuted => exact permuted
  | relationship _ _ _ permuted => exact permuted

end Rearranged
end ItemData

open ItemData

/-- What is related to a list has a partner for each of its items. -/
theorem exists_related_of_mem {α β : Type} {related : α → β → Prop} {first : List α} {second : List β}
    (matched : List.Forall₂ related first second) {a : α} (member : a ∈ first) : ∃ b ∈ second, related a b := by
  induction matched with
  | nil => cases member
  | cons here _ ih =>
      rcases List.mem_cons.mp member with rfl | inRest
      · exact ⟨_, List.mem_cons_self .., here⟩
      · rcases ih inRest with ⟨b, inside, partner⟩
        exact ⟨b, List.mem_cons_of_mem _ inside, partner⟩

namespace Graph

/-- Two graphs of the same items up to order: under each identifier they find the same, and each item of the one
has a counterpart in the other. -/
structure Alike (g h : Graph) : Prop where
  size : h.items.length = g.items.length
  found : ∀ id, (g.get? id = none ∧ h.get? id = none) ∨
    ∃ d e, g.get? id = some d ∧ h.get? id = some e ∧ Rearranged d e
  forth : ∀ d ∈ g.items, ∃ e ∈ h.items, Rearranged d e
  back : ∀ e ∈ h.items, ∃ d ∈ g.items, Rearranged d e

/-- Items in another order, and then the fragments in each, make a graph that is alike, provided that no identifier
is used twice. -/
theorem alike_of_perm {first middle last : List ItemData} (permuted : first.Perm middle)
    (rearranged : List.Forall₂ Rearranged middle last) (distinct : (first.filterMap ItemData.id?).Nodup) :
    Alike ⟨first⟩ ⟨last⟩ := by
  have forth : ∀ d ∈ first, ∃ e ∈ last, Rearranged d e := fun d member =>
    exists_related_of_mem rearranged (permuted.mem_iff.mp member)
  have back : ∀ e ∈ last, ∃ d ∈ first, Rearranged d e := by
    intro e member
    rcases exists_related_of_mem rearranged.flip member with ⟨d, inside, related⟩
    exact ⟨d, permuted.mem_iff.mpr inside, related⟩
  have sameIds : last.filterMap ItemData.id? = middle.filterMap ItemData.id? :=
    filterMap_eq_of_related (fun related => related.resembles.id?_eq) rearranged
  have alsoDistinct : (⟨last⟩ : Graph).ids.Nodup := by
    rw [ids, sameIds]
    exact (permuted.filterMap ItemData.id?).nodup_iff.mp distinct
  refine ⟨(permuted.length_eq.trans rearranged.length_eq).symm, fun id => ?_, forth, back⟩
  cases here : (⟨first⟩ : Graph).get? id with
  | some d =>
      rcases forth d (mem_of_get? here) with ⟨e, inside, related⟩
      have named : e.id? = some id := related.resembles.id?_eq.trans (id?_of_get? here)
      exact Or.inr ⟨d, e, rfl, get?_of_mem alsoDistinct inside named, related⟩
  | none =>
      cases there : (⟨last⟩ : Graph).get? id with
      | none => exact Or.inl ⟨rfl, rfl⟩
      | some e =>
          rcases back e (mem_of_get? there) with ⟨d, inside, related⟩
          have named : d.id? = some id := related.resembles.id?_eq.symm.trans (id?_of_get? there)
          rw [get?_of_mem (g := ⟨first⟩) distinct inside named] at here
          cases here

theorem Alike.mirrors {g h : Graph} (alike : Alike g h) : Mirrors (fun _ => True) g h where
  found id _ := (alike.found id).imp (fun none => none) fun ⟨d, e, here, there, related⟩ =>
    ⟨d, e, here, there, related.resembles⟩
  parents _ _ _ _ := trivial

end Graph
end ProductGraph
