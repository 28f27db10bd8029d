import Mathlib.Logic.Relation
import ProductGraph.Proofs.Graph.Lineage

namespace ProductGraph
namespace Graph

/-!
# Being a class as a closure

One step of specialization leads from an item that is found to the parent that it names, and this parent has to be
found too.  Being a class or specializing it is the closure of this step, whatever the shape of the chain: it may end,
lead nowhere, close, or run into a cycle that its start is no part of.

The line upward is the chain itself, up to where it would repeat an identifier or lead nowhere.  A walk keeps what it
passed, and that no identifier stands twice in the line holds because the walk meets nothing that it passed before.
-/

open Relation (ReflTransGen TransGen)

variable {g : Graph}

/-- The item found under an identifier names a parent, and there is an item under this parent. -/
def Specializes (g : Graph) (child parent : String) : Prop :=
  g.parentOf? child = some parent ∧ (g.get? parent).isSome = true

/-! ## Steps and climbs -/

/-- Steps lead where climbs do, provided that there is an item. -/
theorem reflTransGen_specializes_iff {id ancestor : String} : ReflTransGen g.Specializes id ancestor ↔
    id = ancestor ∨ (g.get? ancestor).isSome = true ∧ ∃ n, g.climb? id n = some ancestor := by
  constructor
  · intro steps
    induction steps with
    | refl => exact .inl rfl
    | tail _ last ih =>
        rcases last with ⟨named, found⟩
        rcases ih with rfl | ⟨_, n, reached⟩
        · exact .inr ⟨found, 1, named⟩
        · refine .inr ⟨found, n + 1, ?_⟩
          rw [climb?, reached, Option.bind_some, named]
  · rintro (rfl | ⟨found, n, reached⟩)
    · exact .refl
    · -- What a climb passes has a parent, so it was found and each step of the climb is one here.
      induction n generalizing ancestor with
      | zero =>
          cases reached
          exact .refl
      | succ n ih =>
          rw [climb?] at reached
          rcases Option.bind_eq_some_iff.mp reached with ⟨middle, before, named⟩
          have passed : (g.get? middle).isSome = true :=
            Option.isSome_of_isSome_bind (Option.isSome_of_eq_some named)
          exact .tail (ih passed before) ⟨named, found⟩

theorem isA_iff_reflTransGen {id ancestor : String} :
    g.isA id ancestor = true ↔ ReflTransGen g.Specializes id ancestor := by
  rw [isA_iff, reflTransGen_specializes_iff]

/-- The line upward passes the items that steps lead to. -/
theorem mem_lineage_iff_reflTransGen {id ancestor : String} :
    ancestor ∈ g.lineage id ↔ (g.get? ancestor).isSome = true ∧ ReflTransGen g.Specializes id ancestor := by
  rw [mem_lineage_iff, reflTransGen_specializes_iff]
  refine and_congr_right fun found => ?_
  constructor
  · exact fun reached => .inr ⟨found, reached⟩
  · rintro (rfl | ⟨_, reached⟩)
    · exact ⟨0, rfl⟩
    · exact reached

/-! ## The shape of the line -/

/-- A walk meets no identifier twice, and none that it passed before. -/
theorem distinct_ancestorsFrom (g : Graph) (steps : Nat) (passed : List String) (parent : Option String) :
    ((g.ancestorsFrom steps passed parent).filterMap ItemData.id?).Nodup ∧
      ∀ id ∈ (g.ancestorsFrom steps passed parent).filterMap ItemData.id?, id ∉ passed := by
  fun_induction g.ancestorsFrom steps passed parent with
  | case1 => exact ⟨List.nodup_nil, List.forall_mem_nil _⟩
  | case2 => exact ⟨List.nodup_nil, List.forall_mem_nil _⟩
  | case3 => exact ⟨List.nodup_nil, List.forall_mem_nil _⟩
  | case4 => exact ⟨List.nodup_nil, List.forall_mem_nil _⟩
  | case5 steps passed parent fresh item found ih =>
      rcases ih with ⟨distinct, apart⟩
      rw [List.contains_iff_mem] at fresh
      rw [List.filterMap_cons_some (id?_of_get? found), List.nodup_cons, List.forall_mem_cons]
      refine ⟨⟨fun again => apart parent again List.mem_cons_self, distinct⟩, fresh, ?_⟩
      intro id member before
      exact apart id member (List.mem_cons_of_mem _ before)

/-- A walk goes on from each item to the parent that it names. -/
theorem isChain_ancestorsFrom {current : String} {steps : Nat} {passed : List String} {parent : Option String}
    (named : g.parentOf? current = parent) :
    (current :: (g.ancestorsFrom steps passed parent).filterMap ItemData.id?).IsChain
      fun child parent => g.parentOf? child = some parent := by
  fun_induction g.ancestorsFrom steps passed parent generalizing current with
  | case1 => exact .singleton current
  | case2 => exact .singleton current
  | case3 => exact .singleton current
  | case4 => exact .singleton current
  | case5 steps passed parent fresh item found ih =>
      rw [List.filterMap_cons_some (id?_of_get? found)]
      refine .cons_cons named (ih ?_)
      rw [parentOf?, found, Option.bind_some]

theorem lineage_eq_nil {id : String} (missing : g.get? id = none) : g.lineage id = [] := by
  rw [lineage, line, ancestors, missing]
  rfl

theorem lineage_eq_cons {id : String} {d : ItemData} (found : g.get? id = some d) :
    g.lineage id = id :: (g.ancestors id).filterMap ItemData.id? := by
  rw [lineage, line, found, Option.toList_some, List.singleton_append, List.filterMap_cons_some (id?_of_get? found)]

/-- A list of identifiers that starts with an identifier, if there is an item under it, leads from each identifier to
the parent named there, and repeats none. -/
structure IsLineUpward (g : Graph) (id : String) (ids : List String) : Prop where
  distinct : ids.Nodup
  eq_nil_iff : ids = [] ↔ g.get? id = none
  starts : (g.get? id).isSome = true → ids.head? = some id
  linked : ids.IsChain fun child parent => g.parentOf? child = some parent

theorem isLineUpward_lineage (g : Graph) (id : String) : g.IsLineUpward id (g.lineage id) := by
  cases found : g.get? id with
  | none =>
      rw [lineage_eq_nil found]
      exact ⟨List.nodup_nil, iff_of_true rfl found, fun isFound => absurd isFound (by rw [found]; nofun), .nil⟩
  | some d =>
      rw [lineage_eq_cons found]
      rcases distinct_ancestorsFrom g (g.items.length + 1) [id] (g.parentOf? id) with ⟨distinct, apart⟩
      constructor
      · exact List.nodup_cons.mpr ⟨fun again => apart id again List.mem_cons_self, distinct⟩
      · exact iff_of_false (List.cons_ne_nil _ _) (by rw [found]; nofun)
      · exact fun _ => rfl
      · exact isChain_ancestorsFrom rfl

/-! ## The closure -/

/-- Being a class or specializing it is the closure of the step from child to parent, and so reflexive and transitive.
The line upward lists what the steps lead to without repetition, each identifier followed by the parent named there. -/
theorem isA_closure (g : Graph) :
    (∀ id ancestor, g.isA id ancestor = true ↔ id = ancestor ∨ TransGen g.Specializes id ancestor) ∧
      (∀ id, g.isA id id = true) ∧
      (∀ id middle ancestor, g.isA id middle = true → g.isA middle ancestor = true → g.isA id ancestor = true) ∧
      ∀ id, g.IsLineUpward id (g.lineage id) := by
  simp only [isA_iff_reflTransGen]
  refine ⟨?_, fun _ => .refl, fun _ _ _ => .trans, g.isLineUpward_lineage⟩
  intro id ancestor
  rw [Relation.reflTransGen_iff_eq_or_transGen, eq_comm]

end Graph
end ProductGraph
