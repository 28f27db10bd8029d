import Mathlib.Data.List.Nodup
import ProductGraph.Graph.Basic

namespace ProductGraph
namespace Graph

/-!
# Looking up items

An item that is looked up is one of the graph, and has the identifier that was asked for.  The converse needs more:
of several items with one identifier only the first is ever found.  Where no identifier is used twice, every item
with an identifier is found under it, whatever its place.
-/

def ids (g : Graph) : List String := g.items.filterMap ItemData.id?

theorem mem_of_get? {g : Graph} {id : String} {d : ItemData} (found : g.get? id = some d) : d ∈ g.items :=
  List.mem_of_find?_eq_some found

theorem id?_of_get? {g : Graph} {id : String} {d : ItemData} (found : g.get? id = some d) :
    d.id? = some id := by
  have same := List.find?_some found
  exact beq_iff_eq.mp same

theorem mem_ids_of_mem {g : Graph} {id : String} {d : ItemData} (member : d ∈ g.items)
    (named : d.id? = some id) : id ∈ g.ids :=
  List.mem_filterMap.mpr ⟨d, member, named⟩

/-- Items of a list without repeated identifiers are told apart by them. -/
theorem eq_of_id?_eq {items : List ItemData} (distinct : (items.filterMap ItemData.id?).Nodup)
    {d e : ItemData} (here : d ∈ items) (there : e ∈ items) {id : String}
    (named : d.id? = some id) (alsoNamed : e.id? = some id) : d = e := by
  induction items with
  | nil => cases here
  | cons head rest ih =>
      -- An item with the identifier cannot stand both at the front and behind it.
      have behind : ∀ {x}, x ∈ rest → x.id? = some id → head.id? ≠ some id := by
        intro x member same headSame
        rw [List.filterMap_cons_some headSame] at distinct
        exact (List.nodup_cons.mp distinct).1 (List.mem_filterMap.mpr ⟨x, member, same⟩)
      rcases List.mem_cons.mp here with atHead | inRest
      · rcases List.mem_cons.mp there with alsoAtHead | alsoInRest
        · rw [atHead, alsoAtHead]
        · exact absurd (atHead ▸ named) (behind alsoInRest alsoNamed)
      · rcases List.mem_cons.mp there with alsoAtHead | alsoInRest
        · exact absurd (alsoAtHead ▸ alsoNamed) (behind inRest named)
        · apply ih _ inRest alsoInRest
          cases headNamed : head.id? with
          | none => rwa [List.filterMap_cons_none headNamed] at distinct
          | some other =>
              rw [List.filterMap_cons_some headNamed] at distinct
              exact (List.nodup_cons.mp distinct).2

/-- Without repeated identifiers an item is found under its own. -/
theorem get?_of_mem {g : Graph} (distinct : g.ids.Nodup) {d : ItemData} (member : d ∈ g.items)
    {id : String} (named : d.id? = some id) : g.get? id = some d := by
  cases found : g.get? id with
  | none =>
      have missed := List.find?_eq_none.mp found d member
      exact absurd (beq_iff_eq.mpr named) missed
  | some e => rw [eq_of_id?_eq distinct (mem_of_get? found) member (id?_of_get? found) named]

/-- The search for repetitions finds none exactly if the identifiers that are left neither repeat one another nor
one that was used before. -/
theorem duplicatesFrom_eq_nil_iff (seen : List (String × Nat)) (place : Nat) (items : List ItemData) :
    duplicatesFrom seen place items = [] ↔
      (items.filterMap ItemData.id?).Nodup ∧
        ∀ id ∈ items.filterMap ItemData.id?, id ∉ seen.map (·.1) := by
  induction items generalizing seen place with
  | nil => simp [duplicatesFrom]
  | cons item rest ih =>
      cases named : item.id? with
      | none => simp only [duplicatesFrom, named, List.filterMap_cons_none named, ih]
      | some id =>
          rw [List.filterMap_cons_some named]
          cases used : seen.find? (fun s => s.1 == id) with
          | some entry =>
              have before : id ∈ seen.map (·.1) := by
                have same : entry.1 = id := by simpa using List.find?_some used
                exact List.mem_map.mpr ⟨entry, List.mem_of_find?_eq_some used, same⟩
              simp only [duplicatesFrom, named, used, reduceCtorEq, false_iff, not_and]
              intro _ fresh
              exact fresh id (List.mem_cons_self ..) before
          | none =>
              have fresh : id ∉ seen.map (·.1) := by
                intro before
                rcases List.mem_map.mp before with ⟨entry, member, same⟩
                have missed := List.find?_eq_none.mp used entry member
                exact missed (beq_iff_eq.mpr same)
              simp only [duplicatesFrom, named, used, ih, List.map_append, List.map_cons, List.map_nil,
                List.mem_append, List.nodup_cons, List.mem_cons, List.not_mem_nil, or_false, not_or]
              constructor
              · rintro ⟨distinct, apart⟩
                refine ⟨⟨fun again => (apart id again).2 rfl, distinct⟩, ?_⟩
                rintro other (rfl | member)
                · exact fresh
                · exact (apart other member).1
              · rintro ⟨⟨once, distinct⟩, apart⟩
                refine ⟨distinct, fun other member => ⟨apart other (Or.inr member), ?_⟩⟩
                rintro rfl
                exact once member

/-- A graph has no duplicates exactly if no identifier is used twice. -/
theorem duplicates_eq_nil_iff (g : Graph) : g.duplicates = [] ↔ g.ids.Nodup := by
  rw [duplicates, duplicatesFrom_eq_nil_iff]
  simp [ids]

end Graph
end ProductGraph
