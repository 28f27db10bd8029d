import Mathlib.Data.Nat.Find
import ProductGraph.Graph.Index
import ProductGraph.Package.Basic
import ProductGraph.Proofs.Consistency.Verdict
import ProductGraph.Proofs.Graph.Lookup

namespace ProductGraph

/-!
# The index of identifiers

The items of a graph are indexed one by one.  An identifier that is new is noted with its place; of one that is known
already the repetition is noted instead, and the first place stays.  An item without an identifier takes up a place and
nothing else.

What is true of an index is said about places: where an identifier is first used, and where it is used again.  Each item
that is added keeps it true.  The graph itself keeps no index and looks through its items whenever it is asked, and its
answers are those of the index.  So all look-ups and all checks rest on the same first place of an identifier.
-/

/-- The identifier of the item at a place. -/
def idAt? (items : List ItemData) (place : Nat) : Option String := items[place]?.bind ItemData.id?

/-- The first of the places whose items have an identifier. -/
structure IsFirstPlace (items : List ItemData) (id : String) (place : Nat) : Prop where
  named : idAt? items place = some id
  first : ∀ earlier < place, idAt? items earlier ≠ some id

variable {items : List ItemData} {item : ItemData} {id : String} {place : Nat}

/-! ## Places -/

theorem lt_of_idAt? (named : idAt? items place = some id) : place < items.length := by
  rcases Option.bind_eq_some_iff.mp named with ⟨_, there, _⟩
  exact (List.getElem?_eq_some_iff.mp there).1

theorem idAt?_of_getElem? {d : ItemData} (there : items[place]? = some d) : idAt? items place = d.id? := by
  rw [idAt?, there, Option.bind_some]

theorem idAt?_concat : idAt? (items ++ [item]) place = some id ↔
    idAt? items place = some id ∨ place = items.length ∧ item.id? = some id := by
  by_cases before : place < items.length
  · rw [idAt?, List.getElem?_append_left before, ← idAt?]
    exact (or_iff_left fun both => absurd both.1 (Nat.ne_of_lt before)).symm
  · have notBefore : ¬idAt? items place = some id := fun named => before (lt_of_idAt? named)
    rw [or_iff_right notBefore, idAt?]
    by_cases last : place = items.length
    · simp [last]
    · have beyond : (items ++ [item])[place]? = none := by
        apply List.getElem?_eq_none
        rw [List.length_append, List.length_singleton]
        omega
      simp [beyond, last]

namespace IsFirstPlace

/-- A used identifier has a first place. -/
theorem exists_of_idAt? (named : idAt? items place = some id) : ∃ first, IsFirstPlace items id first := by
  classical
  have used : ∃ place, idAt? items place = some id := ⟨place, named⟩
  exact ⟨Nat.find used, Nat.find_spec used, fun earlier before => Nat.find_min used before⟩

/-- The item behind some items is at the first place of its identifier, unless this is used among them. -/
theorem concat_iff : IsFirstPlace (items ++ [item]) id place ↔
    IsFirstPlace items id place ∨
      (place = items.length ∧ item.id? = some id ∧ ∀ earlier, idAt? items earlier ≠ some id) := by
  constructor
  · rintro ⟨named, first⟩
    have fresh : ∀ earlier < place, idAt? items earlier ≠ some id :=
      fun earlier before known => first earlier before (idAt?_concat.mpr (.inl known))
    rcases idAt?_concat.mp named with known | ⟨rfl, own⟩
    · exact .inl ⟨known, fresh⟩
    · exact .inr ⟨rfl, own, fun earlier known => fresh earlier (lt_of_idAt? known) known⟩
  · rintro (⟨named, first⟩ | ⟨rfl, named, fresh⟩)
    · refine ⟨idAt?_concat.mpr (.inl named), fun earlier before known => ?_⟩
      have inside := lt_of_idAt? named
      rcases idAt?_concat.mp known with known | ⟨rfl, _⟩
      · exact first earlier before known
      · omega
    · refine ⟨idAt?_concat.mpr (.inr ⟨rfl, named⟩), fun earlier before known => ?_⟩
      rcases idAt?_concat.mp known with known | ⟨rfl, _⟩
      · exact fresh earlier known
      · exact Nat.lt_irrefl _ before

end IsFirstPlace

namespace Graph

/-! ## Building an index -/

namespace Index

variable (index : Index) (item : ItemData) (id : String)

theorem items_add : (index.add item).items = index.items ++ [item] := by
  rw [add]
  split
  · rfl
  · split <;> rfl

/-- A place that is noted stays, and only an identifier without one gets the place of the new item. -/
theorem place?_add : (index.add item).place? id =
    (index.place? id).or (if item.id? = some id then some index.items.length else none) := by
  cases named : item.id? with
  | none =>
      simp only [add, named, reduceCtorEq, if_false, Option.or_none]
      rfl
  | some own =>
      cases noted : index.place? own with
      | some first =>
          simp only [add, named, noted, Option.some.injEq]
          by_cases same : own = id
          · rw [← same, noted, Option.some_or]
            exact noted
          · rw [if_neg same, Option.or_none]
            rfl
      | none =>
          simp only [add, named, noted, Option.some.injEq]
          by_cases same : own = id
          · rw [← same, noted, if_pos rfl, Option.none_or, place?, List.find?_append, Option.map_eq_none_iff.mp noted]
            simp
          · have other : ((own, index.items.length).1 == id) = false := beq_eq_false_iff_ne.mpr same
            rw [if_neg same, Option.or_none, place?, List.find?_append, List.find?_singleton, other]
            simp [place?]

/-- The repetition that a new item is, if its identifier has a place already. -/
def repetition? (index : Index) (item : ItemData) : Option Duplicate :=
  item.id?.bind fun id => (index.place? id).map fun first => ⟨id, first, index.items.length⟩

theorem duplicates_add : (index.add item).duplicates = index.duplicates ++ (index.repetition? item).toList := by
  cases named : item.id? with
  | none => simp [add, repetition?, named]
  | some own => cases noted : index.place? own <;> simp [add, repetition?, named, noted]

/-- What is noted in an index is so in its items, and nothing is missing. -/
structure Faithful (index : Index) : Prop where
  place : ∀ {id place}, index.place? id = some place ↔ IsFirstPlace index.items id place
  duplicate : ∀ {d}, d ∈ index.duplicates ↔
    IsFirstPlace index.items d.id d.first ∧ d.first < d.second ∧ idAt? index.items d.second = some d.id
  ascending : index.duplicates.Pairwise fun d e => d.second < e.second

namespace Faithful

variable {index : Index} {id : String}

/-- No place is noted for an identifier that is not used. -/
theorem place?_eq_none_iff (faithful : index.Faithful) :
    index.place? id = none ↔ ∀ place, idAt? index.items place ≠ some id := by
  constructor
  · intro unnoted place named
    rcases IsFirstPlace.exists_of_idAt? named with ⟨first, isFirst⟩
    rw [faithful.place.mpr isFirst] at unnoted
    cases unnoted
  · intro unused
    apply Option.eq_none_iff_forall_ne_some.mpr
    intro place noted
    exact unused place (faithful.place.mp noted).named

theorem repetition?_eq_some_iff (faithful : index.Faithful) {item : ItemData} {d : Duplicate} :
    index.repetition? item = some d ↔
      IsFirstPlace index.items d.id d.first ∧ item.id? = some d.id ∧ d.second = index.items.length := by
  rw [repetition?, Option.bind_eq_some_iff]
  constructor
  · rintro ⟨own, named, noted⟩
    rcases Option.map_eq_some_iff.mp noted with ⟨first, known, rfl⟩
    exact ⟨faithful.place.mp known, named, rfl⟩
  · rintro ⟨isFirst, named, last⟩
    exact ⟨d.id, named, Option.map_eq_some_iff.mpr ⟨d.first, faithful.place.mpr isFirst, last ▸ rfl⟩⟩

theorem empty : Index.empty.Faithful where
  place := ⟨nofun, fun isFirst => absurd isFirst.named nofun⟩
  duplicate := ⟨nofun, fun repeated => absurd repeated.1.named nofun⟩
  ascending := .nil

/-- An item that is added keeps an index faithful. -/
theorem add (faithful : index.Faithful) (item : ItemData) : (index.add item).Faithful where
  place {id place} := by
    rw [items_add, place?_add, IsFirstPlace.concat_iff, Option.or_eq_some_iff, faithful.place,
      faithful.place?_eq_none_iff, Option.ite_none_right_eq_some, Option.some.injEq]
    constructor
    · rintro (known | ⟨fresh, named, rfl⟩)
      · exact .inl known
      · exact .inr ⟨rfl, named, fresh⟩
    · rintro (known | ⟨rfl, named, fresh⟩)
      · exact .inl known
      · exact .inr ⟨fresh, named, rfl⟩
  duplicate {d} := by
    rw [duplicates_add, List.mem_append, Option.mem_toList, faithful.duplicate,
      faithful.repetition?_eq_some_iff, items_add, IsFirstPlace.concat_iff, idAt?_concat]
    constructor
    · rintro (⟨isFirst, before, again⟩ | ⟨isFirst, own, last⟩)
      · exact ⟨.inl isFirst, before, .inl again⟩
      · exact ⟨.inl isFirst, last ▸ lt_of_idAt? isFirst.named, .inr ⟨last, own⟩⟩
    · rintro ⟨isFirst, before, again⟩
      -- The last place of all is no first place of something that is used again.
      have inside : d.second ≤ index.items.length := by
        rcases again with again | ⟨last, _⟩
        · exact Nat.le_of_lt (lt_of_idAt? again)
        · exact Nat.le_of_eq last
      have isFirst : IsFirstPlace index.items d.id d.first :=
        isFirst.resolve_right fun last => Nat.lt_irrefl _ (last.1 ▸ Nat.lt_of_lt_of_le before inside)
      rcases again with again | ⟨last, own⟩
      · exact .inl ⟨isFirst, before, again⟩
      · exact .inr ⟨isFirst, own, last⟩
  ascending := by
    rw [duplicates_add]
    refine List.pairwise_append.mpr ⟨faithful.ascending, ?_, ?_⟩
    · cases index.repetition? item with
      | none => exact .nil
      | some d => exact List.pairwise_singleton _ d
    · intro d known e new
      have inside := lt_of_idAt? (faithful.duplicate.mp known).2.2
      rw [(faithful.repetition?_eq_some_iff.mp (Option.mem_toList.mp new)).2.2]
      exact inside

theorem foldl (faithful : index.Faithful) (items : List ItemData) : (items.foldl Index.add index).Faithful := by
  induction items generalizing index with
  | nil => exact faithful
  | cons item rest ih => exact ih (faithful.add item)

end Faithful

theorem items_foldl (index : Index) (items : List ItemData) :
    (items.foldl add index).items = index.items ++ items := by
  induction items generalizing index with
  | nil => exact (List.append_nil _).symm
  | cons item rest ih => rw [List.foldl_cons, ih, items_add, List.append_assoc, List.singleton_append]

theorem items_ofItems (items : List ItemData) : (ofItems items).items = items := items_foldl empty items

/-- The index of some items is faithful. -/
theorem faithful_ofItems (items : List ItemData) : (ofItems items).Faithful := Faithful.empty.foldl items

/-! ## The answers of an index -/

/-- The search of a graph for repetitions finds those that an index notes. -/
theorem duplicates_foldl (index : Index) (items : List ItemData) : (items.foldl add index).duplicates =
    index.duplicates ++ duplicatesFrom index.places index.items.length items := by
  induction items generalizing index with
  | nil => exact (List.append_nil _).symm
  | cons item rest ih =>
      rw [List.foldl_cons, ih, items_add, List.length_append, List.length_singleton, duplicatesFrom]
      cases named : item.id? with
      | none => simp only [add, named]
      | some id =>
          cases noted : index.places.find? (fun noted => noted.1 == id) with
          | none => simp only [add, named, place?, noted, Option.map_none]
          | some entry =>
              simp only [add, named, place?, noted, Option.map_some, List.append_assoc, List.singleton_append]

theorem duplicates_ofItems (g : Graph) : (ofItems g.items).duplicates = g.duplicates :=
  duplicates_foldl empty g.items

end Index

/-- What is found under an identifier is the item at its first place. -/
theorem get?_eq_some_iff {g : Graph} {id : String} {d : ItemData} :
    g.get? id = some d ↔ ∃ place, IsFirstPlace g.items id place ∧ g.items[place]? = some d := by
  rw [get?, List.find?_eq_some_iff_getElem]
  constructor
  · rintro ⟨same, place, inside, rfl, first⟩
    have there := List.getElem?_eq_getElem inside
    refine ⟨place, ⟨(idAt?_of_getElem? there).trans (beq_iff_eq.mp same), fun earlier before named => ?_⟩, there⟩
    rw [idAt?_of_getElem? (List.getElem?_eq_getElem (Nat.lt_trans before inside))] at named
    have other := first earlier before
    rw [named, beq_self_eq_true] at other
    cases other
  · rintro ⟨place, isFirst, there⟩
    rcases List.getElem?_eq_some_iff.mp there with ⟨inside, here⟩
    refine ⟨beq_iff_eq.mpr ((idAt?_of_getElem? there).symm.trans isFirst.named), place, inside, here, ?_⟩
    intro earlier before
    have other := isFirst.first earlier before
    rw [idAt?_of_getElem? (List.getElem?_eq_getElem (Nat.lt_trans before inside))] at other
    rw [Bool.not_eq_true', beq_eq_false_iff_ne]
    exact other

/-- Nothing is found under an identifier exactly if no item has it. -/
theorem get?_eq_none_iff {g : Graph} {id : String} : g.get? id = none ↔ ∀ d ∈ g.items, d.id? ≠ some id := by
  rw [get?, List.find?_eq_none]
  exact forall₂_congr fun d _ => not_congr beq_iff_eq

/-- A graph finds what an index of its items finds. -/
theorem Index.get?_ofItems (g : Graph) (id : String) : (ofItems g.items).get? id = g.get? id := by
  have faithful := faithful_ofItems g.items
  rw [Index.get?, items_ofItems]
  apply Option.ext
  intro d
  rw [get?_eq_some_iff, Option.bind_eq_some_iff]
  apply exists_congr
  intro place
  rw [faithful.place, items_ofItems]

/-- The check finds nothing exactly if no identifier is used twice. -/
theorem check_duplicateIds_eq_none_iff (g : Graph) (lang : String) :
    g.check (.only [.duplicateIds]) lang = none ↔ g.ids.Nodup := by
  rw [check_only, ← duplicates_eq_nil_iff, violation?, Consistency.duplicateIds, Option.map_eq_none_iff,
    List.head?_eq_none_iff]

end Graph

namespace Package

/-- The item that a package finds has the content that its graph finds. -/
theorem map_data_get? (p : Package) (id : String) : (p.get? id).map (·.data) = (p.graph.get? id).map some := by
  rw [get?, Graph.get?, graph, contents]
  induction p.items with
  | nil => rfl
  | cons item rest ih =>
      cases has : item.data with
      | none =>
          have apart : (item.id? == some id) = false := by
            rw [Item.id?, has]
            rfl
          rw [List.filterMap_cons_none has, List.find?_cons, apart]
          exact ih
      | some d =>
          have own : item.id? = d.id? := by
            rw [Item.id?, has, Option.bind_some]
          rw [List.filterMap_cons_some has, List.find?_cons, List.find?_cons, own]
          split
          · rw [Option.map_some, Option.map_some, has]
          · exact ih

end Package

namespace Graph

/-- Whatever items there are, with identifiers or without, the one that is found under an identifier is the first that
has it, and nothing is found exactly if none has it.  The duplicates are the places of identifiers that are used before,
each once and in increasing order, with the first place of the identifier; there is no violation exactly if all
identifiers differ.  An index that is built item by item gives the same answers; and a package finds an item exactly if
its graph finds a content, which is that of the item. -/
theorem index_faithful (g : Graph) :
    (∀ id d, g.get? id = some d ↔ ∃ place, IsFirstPlace g.items id place ∧ g.items[place]? = some d) ∧
      (∀ id, g.get? id = none ↔ ∀ d ∈ g.items, d.id? ≠ some id) ∧
      (∀ d, d ∈ g.duplicates ↔
        IsFirstPlace g.items d.id d.first ∧ d.first < d.second ∧ idAt? g.items d.second = some d.id) ∧
      (g.duplicates.Pairwise fun d e => d.second < e.second) ∧
      (∀ lang, g.check (.only [.duplicateIds]) lang = none ↔ g.ids.Nodup) ∧
      ((∀ id, (Index.ofItems g.items).get? id = g.get? id) ∧ (Index.ofItems g.items).duplicates = g.duplicates) ∧
      ∀ (p : Package) (id : String), (p.get? id).map (·.data) = (p.graph.get? id).map some := by
  have faithful := Index.faithful_ofItems g.items
  have duplicates := Index.duplicates_ofItems g
  refine ⟨fun id d => get?_eq_some_iff, fun id => get?_eq_none_iff, fun d => ?_, duplicates ▸ faithful.ascending,
    check_duplicateIds_eq_none_iff g, ⟨Index.get?_ofItems g, duplicates⟩, Package.map_data_get?⟩
  rw [← duplicates, faithful.duplicate, Index.items_ofItems]

end Graph
end ProductGraph
