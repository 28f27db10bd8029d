import Mathlib.Data.List.Induction
import Mathlib.Data.List.Nodup
import ProductGraph.Consistency.Cardinality

namespace ProductGraph
namespace Consistency

/-!
# Things under their names

Grouping keeps the order in which names first appear, and that order is all that depends on how the things are
arranged.  Which names there are, and which things stand under each, is said by filtering.
-/

variable {α : Type}

def named (name : α → String) (key : String) (things : List α) : List α :=
  things.filter fun thing => name thing == key

theorem mem_named_self {name : α → String} {things : List α} {thing : α} (member : thing ∈ things) :
    thing ∈ named name (name thing) things :=
  List.mem_filter.mpr ⟨member, beq_self_eq_true _⟩

/-- A group is there once, so putting one more thing under a name changes that group and no other. -/
theorem mem_putUnder_iff {key : String} {thing : α} {groups : List (String × List α)}
    (distinct : (groups.map Prod.fst).Nodup) {other : String} {group : List α} :
    (other, group) ∈ putUnder key thing groups ↔
      (other ≠ key ∧ (other, group) ∈ groups) ∨
        (other = key ∧ ((∃ old, (key, old) ∈ groups ∧ group = old ++ [thing]) ∨
          (key ∉ groups.map Prod.fst ∧ group = [thing]))) := by
  induction groups with
  | nil =>
      simp only [putUnder, List.mem_singleton, Prod.mk.injEq, List.not_mem_nil, and_false, false_and, exists_false,
        List.map_nil, not_false_eq_true, true_and, false_or]
  | cons first rest ih =>
      rcases first with ⟨head, things⟩
      rw [List.map_cons, List.nodup_cons] at distinct
      by_cases same : head = key
      · subst same
        -- The name stands at the front, so it stands nowhere behind.
        have notBehind : ∀ old, (head, old) ∉ rest := fun old member =>
          distinct.1 (List.mem_map.mpr ⟨(head, old), member, rfl⟩)
        simp only [putUnder, if_true, List.mem_cons, Prod.mk.injEq, List.map_cons, true_or, not_true_eq_false,
          false_and, or_false, notBehind, true_and, exists_eq_left]
        constructor
        · rintro (⟨rfl, rfl⟩ | member)
          · exact Or.inr ⟨rfl, rfl⟩
          · exact Or.inl ⟨fun equal => notBehind group (equal ▸ member), Or.inr member⟩
        · rintro (⟨apart, ⟨equal, _⟩ | member⟩ | ⟨rfl, rfl⟩)
          · exact absurd equal apart
          · exact Or.inr member
          · exact Or.inl ⟨rfl, rfl⟩
      · have other_ne : key ≠ head := Ne.symm same
        simp only [putUnder, if_neg same, List.mem_cons, Prod.mk.injEq, ih distinct.2, List.map_cons, other_ne,
          false_and, false_or]
        constructor
        · rintro (⟨rfl, rfl⟩ | ⟨apart, member⟩ | new)
          · exact Or.inl ⟨same, Or.inl ⟨rfl, rfl⟩⟩
          · exact Or.inl ⟨apart, Or.inr member⟩
          · exact Or.inr new
        · rintro (⟨apart, ⟨rfl, rfl⟩ | member⟩ | new)
          · exact Or.inl ⟨rfl, rfl⟩
          · exact Or.inr (Or.inl ⟨apart, member⟩)
          · exact Or.inr (Or.inr new)

/-- Putting one more thing under a name adds that name and keeps the others. -/
theorem mem_names_putUnder_iff {key : String} {thing : α} {groups : List (String × List α)} {other : String} :
    other ∈ (putUnder key thing groups).map Prod.fst ↔ other = key ∨ other ∈ groups.map Prod.fst := by
  induction groups with
  | nil => simp [putUnder]
  | cons first rest ih =>
      by_cases same : first.1 = key
      · simp [putUnder, same]
      · simp only [putUnder, if_neg same, List.map_cons, List.mem_cons, ih]
        exact or_left_comm

theorem nodup_names_putUnder {key : String} {thing : α} {groups : List (String × List α)}
    (distinct : (groups.map Prod.fst).Nodup) : ((putUnder key thing groups).map Prod.fst).Nodup := by
  induction groups with
  | nil => simp [putUnder]
  | cons first rest ih =>
      rw [List.map_cons, List.nodup_cons] at distinct
      by_cases same : first.1 = key
      · simp only [putUnder, same, if_true, List.map_cons, List.nodup_cons]
        exact same ▸ distinct
      · simp only [putUnder, if_neg same, List.map_cons, List.nodup_cons, mem_names_putUnder_iff, not_or]
        exact ⟨⟨same, distinct.1⟩, ih distinct.2⟩

theorem groupedBy_append (name : α → String) (things : List α) (thing : α) :
    groupedBy name (things ++ [thing]) = putUnder (name thing) thing (groupedBy name things) := by
  simp [groupedBy]

theorem nodup_names_groupedBy (name : α → String) (things : List α) :
    ((groupedBy name things).map Prod.fst).Nodup := by
  induction things using List.reverseRecOn with
  | nil => exact List.nodup_nil
  | append_singleton things thing ih =>
      rw [groupedBy_append]
      exact nodup_names_putUnder ih

theorem mem_names_groupedBy_iff (name : α → String) (things : List α) {key : String} :
    key ∈ (groupedBy name things).map Prod.fst ↔ key ∈ things.map name := by
  induction things using List.reverseRecOn with
  | nil => simp [groupedBy]
  | append_singleton things thing ih =>
      rw [groupedBy_append, mem_names_putUnder_iff, ih, List.map_append, List.mem_append, List.map_singleton,
        List.mem_singleton]
      exact or_comm

/-- The groups are the names that occur, each with all things of that name. -/
theorem mem_groupedBy_iff (name : α → String) (things : List α) {key : String} {group : List α} :
    (key, group) ∈ groupedBy name things ↔ key ∈ things.map name ∧ group = named name key things := by
  induction things using List.reverseRecOn generalizing key group with
  | nil => simp [groupedBy]
  | append_singleton things thing ih =>
      have splits : named name key (things ++ [thing]) =
          named name key things ++ if name thing = key then [thing] else [] := by
        by_cases same : name thing = key <;> simp [named, same]
      rw [groupedBy_append, mem_putUnder_iff (nodup_names_groupedBy name things), splits, List.map_append,
        List.mem_append, List.map_singleton, List.mem_singleton, mem_names_groupedBy_iff]
      by_cases same : key = name thing
      · subst same
        simp only [ne_eq, not_true_eq_false, false_and, false_or, true_and, or_true, if_true, ih]
        by_cases before : name thing ∈ things.map name
        · simp [before]
        · have none : named name (name thing) things = [] := by
            rw [named, List.filter_eq_nil_iff]
            intro other member equal
            exact before (List.mem_map.mpr ⟨other, member, beq_iff_eq.mp equal⟩)
          simp [before, none]
      · have apart : ¬ name thing = key := Ne.symm same
        simp [same, apart, ih]

/-- Nothing is found exactly if nothing is found in the group of any of the things. -/
theorem findSome?_groupedBy_eq_none_iff {β : Type} {name : α → String} {things : List α}
    {find : String × List α → Option β} :
    (groupedBy name things).findSome? find = none ↔
      ∀ thing ∈ things, find (name thing, named name (name thing) things) = none := by
  rw [List.findSome?_eq_none_iff]
  constructor
  · intro silent thing member
    exact silent _ ((mem_groupedBy_iff name things).mpr ⟨List.mem_map_of_mem member, rfl⟩)
  · rintro silent ⟨key, group⟩ member
    rcases (mem_groupedBy_iff name things).mp member with ⟨occurs, rfl⟩
    rcases List.mem_map.mp occurs with ⟨thing, inThings, rfl⟩
    exact silent thing inThings

/-- Something is found in a group exactly if it is found in the group of one of the things. -/
theorem findSome?_groupedBy_isSome_iff {β : Type} (name : α → String) (things : List α)
    (find : String × List α → Option β) :
    ((groupedBy name things).findSome? find).isSome ↔
      ∃ thing ∈ things, (find (name thing, named name (name thing) things)).isSome := by
  rw [← Option.ne_none_iff_isSome, ne_eq, findSome?_groupedBy_eq_none_iff]
  simp only [not_forall, exists_prop, ← Option.ne_none_iff_isSome, ne_eq]

/-- A name has a property exactly if one of the things has a name with it. -/
theorem any_groupedBy (name : α → String) (things : List α) (test : String → Bool) :
    ((groupedBy name things).any fun group => test group.1) = things.any fun thing => test (name thing) := by
  rw [Bool.eq_iff_iff, List.any_eq_true, List.any_eq_true]
  constructor
  · rintro ⟨⟨key, group⟩, member, holds⟩
    rcases (mem_groupedBy_iff name things).mp member with ⟨occurs, _⟩
    rcases List.mem_map.mp occurs with ⟨thing, inThings, rfl⟩
    exact ⟨thing, inThings, holds⟩
  · rintro ⟨thing, inThings, holds⟩
    exact ⟨_, (mem_groupedBy_iff name things).mpr ⟨List.mem_map_of_mem inThings, rfl⟩, holds⟩

end Consistency
end ProductGraph
