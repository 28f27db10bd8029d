import Mathlib.Data.List.Forall2
import ProductGraph.Graph.Declaration
import ProductGraph.Proofs.Graph.Lineage

namespace ProductGraph

/-!
# Graphs that mirror each other

Two graphs may find items under the same identifiers that differ only in what individuals say beside their identity.
Then every walk from parent to parent finds the same items in both, and what classes declare, pass on and allow is the
same, because classes are never different.

This is asked for some identifiers only, those that are known to both graphs; one of them may have items of its own
under others.  Walks that start from what is known stay there, as long as no item names a parent outside.  Nothing is
asked of the number of items: a bound on the steps of a walk never cuts it short, so walks in a larger graph are no
longer.
-/

namespace ItemData

/-- Items that differ at most in what an individual says beside its identity. -/
inductive Resembles : ItemData → ItemData → Prop
  | same (d : ItemData) : Resembles d d
  | entity {e f : Entity} (identity : f.identifiable = e.identifiable) : Resembles (.entity e) (.entity f)
  | relationship {r s : Relationship} (identity : s.identifiable = r.identifiable) :
      Resembles (.relationship r) (.relationship s)

namespace Resembles

variable {d e : ItemData}

theorem kind_eq (h : Resembles d e) : e.kind = d.kind := by
  cases h <;> rfl

theorem identifiable_eq (h : Resembles d e) : e.identifiable = d.identifiable := by
  cases h with
  | same => rfl
  | entity identity => exact congrArg some identity
  | relationship identity => exact congrArg some identity

theorem id?_eq (h : Resembles d e) : e.id? = d.id? := by
  rw [id?, id?, h.identifiable_eq]

theorem parent?_eq (h : Resembles d e) : e.parent? = d.parent? := by
  rw [parent?, parent?, h.identifiable_eq]

theorem label_eq (h : Resembles d e) : e.label = d.label := by
  rw [label, label, h.id?_eq, h.kind_eq]

end Resembles

/-- Something that individuals never say. -/
structure SaidByClasses {α : Type} (f : ItemData → Option α) : Prop where
  entity : ∀ e, f (.entity e) = none
  relationship : ∀ r, f (.relationship r) = none

theorem SaidByClasses.eq {α : Type} {f : ItemData → Option α} (classes : SaidByClasses f) {d e : ItemData}
    (h : Resembles d e) : f e = f d := by
  cases h with
  | same => rfl
  | entity => rw [classes.entity, classes.entity]
  | relationship => rw [classes.relationship, classes.relationship]

end ItemData

open ItemData

section Related

variable {α β γ : Type} {related : α → β → Prop} {first : List α} {second : List β}

/-- Functions that do not see the difference find the same in related lists. -/
theorem findSome?_eq_of_related {f : α → Option γ} {f' : β → Option γ} (blind : ∀ {a b}, related a b → f' b = f a)
    (matched : List.Forall₂ related first second) : second.findSome? f' = first.findSome? f := by
  induction matched with
  | nil => rfl
  | cons here _ ih => rw [List.findSome?_cons, List.findSome?_cons, blind here, ih]

/-- Functions that do not see the difference collect the same from related lists. -/
theorem filterMap_eq_of_related {f : α → Option γ} {f' : β → Option γ} (blind : ∀ {a b}, related a b → f' b = f a)
    (matched : List.Forall₂ related first second) : second.filterMap f' = first.filterMap f := by
  induction matched with
  | nil => rfl
  | cons here _ ih => rw [List.filterMap_cons, List.filterMap_cons, blind here, ih]

/-- Tests that do not see the difference succeed on something in both of two related lists or in neither. -/
theorem any_eq_of_related {test : α → Bool} {test' : β → Bool} (blind : ∀ {a b}, related a b → test' b = test a)
    (matched : List.Forall₂ related first second) : second.any test' = first.any test := by
  induction matched with
  | nil => rfl
  | cons here _ ih => rw [List.any_cons, List.any_cons, blind here, ih]

/-- Tests that agree on what is in a list succeed on something in it or both do not. -/
theorem any_eq_of_mem {list : List α} {test test' : α → Bool} (agree : ∀ a ∈ list, test' a = test a) :
    list.any test' = list.any test :=
  any_eq_of_related (fun same => same) (List.forall₂_same.mpr agree)

end Related

namespace Graph

variable {g h : Graph}

/-- Two graphs that find resembling items under known identifiers, where known items have known parents. -/
structure Mirrors (known : String → Prop) (g h : Graph) : Prop where
  found : ∀ id, known id → (g.get? id = none ∧ h.get? id = none) ∨
    ∃ d e, g.get? id = some d ∧ h.get? id = some e ∧ Resembles d e
  parents : ∀ d ∈ g.items, ∀ parent, d.parent? = some parent → known parent

namespace Mirrors

variable {known : String → Prop} {id : String} {α : Type}

theorem parentOf?_eq (mirrors : Mirrors known g h) (isKnown : known id) : h.parentOf? id = g.parentOf? id := by
  rw [parentOf?, parentOf?]
  rcases mirrors.found id isKnown with ⟨here, there⟩ | ⟨d, e, here, there, related⟩ <;> rw [here, there]
  exact related.parent?_eq

theorem known_of_parentOf? (mirrors : Mirrors known g h) {parent : String} (named : g.parentOf? id = some parent) :
    known parent := by
  rcases Option.bind_eq_some_iff.mp named with ⟨d, found, own⟩
  exact mirrors.parents d (mem_of_get? found) parent own

/-- Walks that have passed the same known identifiers find the same. -/
theorem ancestorsFrom (mirrors : Mirrors known g h) (steps : Nat) {passed passed' : List String}
    (same : ∀ id, known id → passed'.contains id = passed.contains id) {parent : Option String}
    (isKnown : ∀ id, parent = some id → known id) :
    List.Forall₂ Resembles (g.ancestorsFrom steps passed parent) (h.ancestorsFrom steps passed' parent) := by
  induction steps generalizing passed passed' parent with
  | zero => exact .nil
  | succ steps ih =>
      cases parent with
      | none => exact .nil
      | some parent =>
          have knownHere := isKnown parent rfl
          rw [Graph.ancestorsFrom, Graph.ancestorsFrom, same parent knownHere]
          split
          · exact .nil
          · rcases mirrors.found parent knownHere with ⟨here, there⟩ | ⟨d, e, here, there, related⟩ <;>
              rw [here, there]
            · exact .nil
            · refine .cons related ?_
              rw [related.parent?_eq]
              refine ih (fun id isKnown => ?_) fun id named => mirrors.parents d (mem_of_get? here) id named
              rw [List.contains_cons, List.contains_cons, same id isKnown]

theorem line (mirrors : Mirrors known g h) (isKnown : known id) :
    List.Forall₂ Resembles (g.line id) (h.line id) := by
  have steps : g.items.length < g.items.length + h.items.length + 1 := by omega
  have alsoSteps : h.items.length < g.items.length + h.items.length + 1 := by omega
  have above : List.Forall₂ Resembles (g.ancestors id) (h.ancestors id) := by
    rw [ancestors_eq steps, ancestors_eq alsoSteps, mirrors.parentOf?_eq isKnown]
    exact mirrors.ancestorsFrom _ (fun _ _ => rfl) fun _ named => mirrors.known_of_parentOf? named
  rw [Graph.line, Graph.line]
  rcases mirrors.found id isKnown with ⟨here, there⟩ | ⟨d, e, here, there, related⟩ <;> rw [here, there]
  · exact above
  · exact .cons related above

theorem climb?_eq (mirrors : Mirrors known g h) (isKnown : known id) (n : Nat) :
    h.climb? id n = g.climb? id n ∧ ∀ x, g.climb? id n = some x → known x := by
  induction n with
  | zero => exact ⟨rfl, fun x same => Option.some.inj same ▸ isKnown⟩
  | succ n ih =>
      rw [climb?, climb?, ih.1]
      cases here : g.climb? id n with
      | none => exact ⟨rfl, fun x impossible => absurd impossible (Option.some_ne_none x).symm⟩
      | some x =>
          exact ⟨mirrors.parentOf?_eq (ih.2 x here), fun y named => mirrors.known_of_parentOf? named⟩

theorem isSome_cycle? (mirrors : Mirrors known g h) (isKnown : known id) :
    (h.cycle? id).isSome = (g.cycle? id).isSome := by
  rw [Bool.eq_iff_iff, cycle?_isSome_iff, cycle?_isSome_iff]
  simp only [(mirrors.climb?_eq isKnown _).1]

theorem isA_eq (mirrors : Mirrors known g h) (isKnown : known id) (ancestor : String) :
    h.isA id ancestor = g.isA id ancestor := by
  rw [isA, isA, lineage, lineage, filterMap_eq_of_related (fun related => related.id?_eq) (mirrors.line isKnown)]

theorem inherited_eq (mirrors : Mirrors known g h) (isKnown : known id) {f : ItemData → Option α}
    (classes : SaidByClasses f) : h.inherited id f = g.inherited id f :=
  findSome?_eq_of_related classes.eq (mirrors.line isKnown)

theorem filterMap_line_eq (mirrors : Mirrors known g h) (isKnown : known id) {f : ItemData → Option α}
    (classes : SaidByClasses f) : (h.line id).filterMap f = (g.line id).filterMap f :=
  filterMap_eq_of_related classes.eq (mirrors.line isKnown)

theorem facet?_eq (mirrors : Mirrors known g h) (isKnown : known id) (declares : PropertyClass → Option α) :
    h.facet? id declares = g.facet? id declares :=
  mirrors.inherited_eq isKnown ⟨fun _ => rfl, fun _ => rfl⟩

theorem endpoints?_eq (mirrors : Mirrors known g h) (isKnown : known id) : h.endpoints? id = g.endpoints? id :=
  mirrors.inherited_eq isKnown ⟨fun _ => rfl, fun _ => rfl⟩

theorem sourceLink?_eq (mirrors : Mirrors known g h) (isKnown : known id) : h.sourceLink? id = g.sourceLink? id :=
  mirrors.inherited_eq isKnown ⟨fun _ => rfl, fun _ => rfl⟩

theorem targetLink?_eq (mirrors : Mirrors known g h) (isKnown : known id) : h.targetLink? id = g.targetLink? id :=
  mirrors.inherited_eq isKnown ⟨fun _ => rfl, fun _ => rfl⟩

theorem properties?_eq (mirrors : Mirrors known g h) (isKnown : known id) : h.properties? id = g.properties? id := by
  rw [properties?, properties?, mirrors.filterMap_line_eq isKnown ⟨fun _ => rfl, fun _ => rfl⟩]

theorem targetLinks?_eq (mirrors : Mirrors known g h) (isKnown : known id) : h.targetLinks? id = g.targetLinks? id :=
  congrArg joined (mirrors.filterMap_line_eq isKnown ⟨fun _ => rfl, fun _ => rfl⟩)

theorem propertyClass?_eq (mirrors : Mirrors known g h) (isKnown : known id) :
    h.propertyClass? id = g.propertyClass? id := by
  rw [propertyClass?, propertyClass?]
  rcases mirrors.found id isKnown with ⟨here, there⟩ | ⟨d, e, here, there, related⟩ <;> rw [here, there]
  cases related <;> rfl

theorem datatype?_eq (mirrors : Mirrors known g h) (isKnown : known id) : h.datatype? id = g.datatype? id :=
  mirrors.facet?_eq isKnown _

theorem isText_eq (mirrors : Mirrors known g h) (isKnown : known id) : h.isText id = g.isText id := by
  rw [isText, isText, mirrors.datatype?_eq isKnown]

theorem minCount_eq (mirrors : Mirrors known g h) (isKnown : known id) : h.minCount id = g.minCount id := by
  rw [minCount, minCount, mirrors.facet?_eq isKnown]

theorem maxCount_eq (mirrors : Mirrors known g h) (isKnown : known id) : h.maxCount id = g.maxCount id := by
  rw [maxCount, maxCount, mirrors.facet?_eq isKnown]

end Mirrors
end Graph
end ProductGraph
