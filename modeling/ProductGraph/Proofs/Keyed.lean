import Mathlib.Data.String.Basic
import ProductGraph.Keyed

namespace ProductGraph
namespace Keyed

/-!
# Laws of values by name

What holds values by name is determined by what is found under each name.  Every operation is therefore described by
what is found after it, and two such values are shown to be equal by looking up an arbitrary name in both.
-/

variable {α β : Type}

@[simp] theorem get?_cons (e : String × α) (rest : Keyed α) (name : String) :
    get? (e :: rest) name = if e.1 = name then some e.2 else get? rest name := rfl

theorem get?_append (first second : Keyed α) (name : String) :
    get? (first ++ second) name = (get? first name).or (get? second name) := by
  induction first with
  | nil => rfl
  | cons e rest ih =>
      rw [List.cons_append, get?_cons, get?_cons, ih]
      split <;> rfl

/-- Nothing is found exactly under the names that are not there. -/
theorem get?_eq_none_iff {entries : Keyed α} {name : String} : get? entries name = none ↔ name ∉ names entries := by
  induction entries with
  | nil => simp [names]
  | cons e rest ih =>
      rw [get?_cons, names, List.map_cons, List.mem_cons, not_or]
      by_cases same : e.1 = name
      · simp [same]
      · rw [if_neg same, ih]
        exact ⟨fun absent => ⟨Ne.symm same, absent⟩, And.right⟩

theorem get?_singleton_of_ne {name other : String} (apart : name ≠ other) (v : α) : get? [(other, v)] name = none :=
  get?_eq_none_iff.mpr fun there => apart (List.mem_singleton.mp there)

theorem mem_of_get? {entries : Keyed α} {name : String} {value : α} (found : get? entries name = some value) :
    (name, value) ∈ entries := by
  induction entries with
  | nil => cases found
  | cons e rest ih =>
      rw [get?_cons] at found
      by_cases same : e.1 = name
      · rw [if_pos same] at found
        cases found
        exact same ▸ List.mem_cons_self
      · rw [if_neg same] at found
        exact List.mem_cons_of_mem _ (ih found)

theorem mem_names_of_mem {entries : Keyed α} {name : String} {value : α} (member : (name, value) ∈ entries) :
    name ∈ names entries :=
  List.mem_map.mpr ⟨(name, value), member, rfl⟩

/-- Where no name is used twice, every entry is found under its name. -/
theorem get?_of_mem {entries : Keyed α} (distinct : (names entries).Nodup) {name : String} {value : α}
    (member : (name, value) ∈ entries) : get? entries name = some value := by
  induction entries with
  | nil => cases member
  | cons e rest ih =>
      have parts := List.nodup_cons.mp distinct
      rw [get?_cons]
      rcases List.mem_cons.mp member with rfl | inRest
      · rw [if_pos rfl]
      · have other : e.1 ≠ name := by
          intro same
          apply parts.1
          change e.1 ∈ names rest
          rw [same]
          exact mem_names_of_mem inRest
        rw [if_neg other, ih parts.2 inRest]

theorem get?_reverse {entries : Keyed α} (distinct : (names entries).Nodup) (name : String) :
    get? entries.reverse name = get? entries name := by
  have reversed : (names entries.reverse).Nodup := by
    rw [names, List.map_reverse]
    exact List.pairwise_reverse.mpr (distinct.imp Ne.symm)
  ext value
  constructor
  · intro found
    exact get?_of_mem distinct (List.mem_reverse.mp (mem_of_get? found))
  · intro found
    exact get?_of_mem reversed (List.mem_reverse.mpr (mem_of_get? found))

/-! ## Changing entries without renaming them -/

theorem get?_map (entries : Keyed α) (f : String → α → β) (name : String) :
    get? (entries.map fun e => (e.1, f e.1 e.2)) name = (get? entries name).map (f name) := by
  induction entries with
  | nil => rfl
  | cons e rest ih =>
      rw [List.map_cons, get?_cons, get?_cons, ih]
      by_cases same : e.1 = name
      · simp [same]
      · simp [same]

theorem get?_filter (entries : Keyed α) (keep : String → Bool) (name : String) :
    get? (entries.filter fun e => keep e.1) name = if keep name then get? entries name else none := by
  induction entries with
  | nil => simp
  | cons e rest ih =>
      by_cases same : e.1 = name
      · by_cases kept : keep e.1
        · simp [same ▸ kept, same]
        · simp [same ▸ kept, same, ih]
      · by_cases kept : keep e.1
        · simp [kept, same, ih]
        · simp [kept, same, ih]

theorem get?_erase (entries : Keyed α) (dropped name : String) :
    get? (erase entries dropped) name = if name = dropped then none else get? entries name := by
  rw [erase, get?_filter entries (· != dropped)]
  by_cases same : name = dropped <;> simp [same]

theorem get?_filterMap {entries : Keyed α} (distinct : (names entries).Nodup) (f : String → α → Option β)
    (name : String) :
    get? (entries.filterMap fun e => (f e.1 e.2).map fun v => (e.1, v)) name = (get? entries name).bind (f name) := by
  induction entries with
  | nil => rfl
  | cons e rest ih =>
      have parts := List.nodup_cons.mp distinct
      rw [List.filterMap_cons, get?_cons]
      by_cases same : e.1 = name
      · have absent : get? rest name = none := get?_eq_none_iff.mpr (same ▸ parts.1)
        have rest_eq := ih parts.2
        rw [absent] at rest_eq
        cases made : f e.1 e.2 with
        | none => simpa [same, same ▸ made] using rest_eq
        | some value => simp [same, same ▸ made]
      · cases f e.1 e.2 with
        | none => simp [same, ih parts.2]
        | some value => simp [same, ih parts.2]

/-! ## Sorted entries -/

theorem sorted_nil : Sorted ([] : Keyed α) := List.Pairwise.nil

theorem sorted_cons {e : String × α} {rest : Keyed α} :
    Sorted (e :: rest) ↔ (∀ name ∈ names rest, e.1 < name) ∧ Sorted rest := List.pairwise_cons

theorem Sorted.nodup {entries : Keyed α} (sorted : Sorted entries) : (names entries).Nodup :=
  sorted.imp fun below => ne_of_lt below

/-- Where the same is found under a name, both have the name or neither. -/
theorem mem_names_congr {first second : Keyed α} {name : String} (same : get? first name = get? second name) :
    name ∈ names first ↔ name ∈ names second := by
  rw [← not_iff_not, ← get?_eq_none_iff, ← get?_eq_none_iff, same]

/-- Sorted entries are determined by what is found under each name. -/
theorem Sorted.ext {first second : Keyed α} (sorted : Sorted first) (alsoSorted : Sorted second)
    (same : ∀ name, get? first name = get? second name) : first = second := by
  induction first generalizing second with
  | nil =>
      cases second with
      | nil => rfl
      | cons e rest => simpa using same e.1
  | cons e rest ih =>
      cases second with
      | nil => simpa using same e.1
      | cons e' rest' =>
          have parts := sorted_cons.mp sorted
          have parts' := sorted_cons.mp alsoSorted
          -- Each first name is in the other list, so neither can be below the other.
          have here : e.1 ∈ names (e' :: rest') := (mem_names_congr (same e.1)).mp List.mem_cons_self
          have there : e'.1 ∈ names (e :: rest) := (mem_names_congr (same e'.1)).mpr List.mem_cons_self
          have key_eq : e.1 = e'.1 := by
            rcases List.mem_cons.mp here with eq | later
            · exact eq
            · rcases List.mem_cons.mp there with eq | later'
              · exact eq.symm
              · exact absurd (parts.1 _ later') (lt_asymm (parts'.1 _ later))
          have value_eq := same e.1
          simp only [get?_cons, key_eq, if_true, Option.some.injEq] at value_eq
          have rest_eq : rest = rest' := by
            apply ih parts.2 parts'.2
            intro name
            have found := same name
            by_cases first : e.1 = name
            · have absent : name ∉ names rest := fun later => lt_irrefl _ (first ▸ parts.1 _ later)
              have absent' : name ∉ names rest' :=
                fun later => lt_irrefl _ ((key_eq ▸ first) ▸ parts'.1 _ later)
              rw [get?_eq_none_iff.mpr absent, get?_eq_none_iff.mpr absent']
            · simpa [first, key_eq ▸ first] using found
          exact List.cons_eq_cons.mpr ⟨Prod.ext key_eq value_eq, rest_eq⟩

theorem Sorted.sublist {first second : Keyed α} (sorted : Sorted second) (sub : first.Sublist second) :
    Sorted first :=
  List.Pairwise.sublist (sub.map _) sorted

theorem Sorted.filter {entries : Keyed α} (sorted : Sorted entries) (keep : String × α → Bool) :
    Sorted (entries.filter keep) :=
  sorted.sublist List.filter_sublist

theorem Sorted.map {entries : Keyed α} (sorted : Sorted entries) (f : String × α → β) :
    Sorted (entries.map fun e => (e.1, f e)) := by
  rw [Sorted, names, List.map_map]
  exact sorted

theorem Sorted.filterMap {entries : Keyed α} (sorted : Sorted entries) (f : String × α → Option β) :
    Sorted (entries.filterMap fun e => (f e).map fun v => (e.1, v)) := by
  induction entries with
  | nil => exact sorted_nil
  | cons e rest ih =>
      have parts := sorted_cons.mp sorted
      rw [List.filterMap_cons]
      cases f e with
      | none => exact ih parts.2
      | some v =>
          refine sorted_cons.mpr ⟨?_, ih parts.2⟩
          intro name member
          rcases List.mem_map.mp member with ⟨made, inMade, rfl⟩
          rcases List.mem_filterMap.mp inMade with ⟨source, inRest, comes⟩
          rcases Option.map_eq_some_iff.mp comes with ⟨value, _, rfl⟩
          exact parts.1 _ (List.mem_map_of_mem inRest)

/-! ## Putting entries in their places -/

theorem insert_nil (name : String) (value : α) : insert [] name value = [(name, value)] := rfl

theorem insert_below {key name : String} (below : name < key) (old value : α) (rest : Keyed α) :
    insert ((key, old) :: rest) name value = (name, value) :: (key, old) :: rest :=
  if_pos below

theorem insert_above {key name : String} (above : key < name) (old value : α) (rest : Keyed α) :
    insert ((key, old) :: rest) name value = (key, old) :: insert rest name value := by
  rw [insert, if_neg (lt_asymm above), if_neg (ne_of_gt above)]

theorem insert_insert (entries : Keyed α) (name : String) (old value : α) :
    (entries.insert name old).insert name value = entries.insert name value := by
  induction entries with
  | nil => simp [insert]
  | cons e rest ih =>
      by_cases below : name < e.1
      · simp [insert, below]
      · by_cases same : name = e.1
        · simp [insert, same]
        · simp [insert, below, same, ih]

theorem ofList_pair {first second : String} (below : first < second) (a b : α) :
    ofList [(first, a), (second, b)] = [(first, a), (second, b)] :=
  insert_above below a b []

theorem ofList_swapped {first second : String} (below : second < first) (a b : α) :
    ofList [(first, a), (second, b)] = [(second, b), (first, a)] :=
  insert_below below a b []

theorem mem_names_insert {entries : Keyed α} {name other : String} {value : α} :
    other ∈ names (entries.insert name value) ↔ other = name ∨ other ∈ names entries := by
  by_cases same : other = name
  · subst same
    have found := get?_insert_self entries other value
    exact ⟨fun _ => Or.inl rfl, fun _ => mem_names_of_mem (mem_of_get? found)⟩
  · have unchanged := get?_insert_ne entries value same
    rw [← not_iff_not, ← get?_eq_none_iff, unchanged, get?_eq_none_iff]
    simp [same]

theorem get?_insert (entries : Keyed α) (name other : String) (value : α) :
    get? (entries.insert name value) other = if name = other then some value else get? entries other := by
  by_cases same : name = other
  · rw [if_pos same, ← same, get?_insert_self]
  · rw [if_neg same, get?_insert_ne entries value (Ne.symm same)]

theorem Sorted.insert {entries : Keyed α} (sorted : Sorted entries) (name : String) (value : α) :
    Sorted (entries.insert name value) := by
  induction entries with
  | nil => exact List.pairwise_singleton _ _
  | cons e rest ih =>
      have parts := sorted_cons.mp sorted
      rw [Keyed.insert]
      by_cases below : name < e.1
      · rw [if_pos below]
        refine sorted_cons.mpr ⟨?_, sorted⟩
        intro other member
        rcases List.mem_cons.mp member with rfl | later
        · exact below
        · exact lt_trans below (parts.1 _ later)
      · rw [if_neg below]
        by_cases same : name = e.1
        · rw [if_pos same]
          exact sorted_cons.mpr ⟨fun other later => same ▸ parts.1 other later, parts.2⟩
        · rw [if_neg same]
          refine sorted_cons.mpr ⟨?_, ih parts.2⟩
          intro other member
          rcases mem_names_insert.mp member with rfl | later
          · exact lt_of_le_of_ne (not_lt.mp below) (Ne.symm same)
          · exact parts.1 other later

theorem Sorted.insertAll {entries : Keyed α} (sorted : Sorted entries) (added : List (String × α)) :
    Sorted (entries.insertAll added) := by
  induction added generalizing entries with
  | nil => exact sorted
  | cons e rest ih => exact ih (sorted.insert e.1 e.2)

theorem sorted_ofList (pairs : List (String × α)) : Sorted (ofList pairs) := sorted_nil.insertAll pairs

/-- What is put in its place last is found, or else what was there before. -/
theorem get?_insertAll (entries : Keyed α) (added : List (String × α)) (name : String) :
    get? (entries.insertAll added) name = (get? added.reverse name).or (get? entries name) := by
  induction added generalizing entries with
  | nil => rfl
  | cons e rest ih =>
      have step : insertAll entries (e :: rest) = insertAll (entries.insert e.1 e.2) rest := rfl
      rw [step, ih, get?_insert, List.reverse_cons, get?_append, Option.or_assoc, get?_cons]
      split <;> rfl

theorem get?_insertAll_of_nodup (entries : Keyed α) {added : List (String × α)} (distinct : (names added).Nodup)
    (name : String) : get? (entries.insertAll added) name = (get? added name).or (get? entries name) := by
  rw [get?_insertAll, get?_reverse distinct]

theorem get?_ofList {pairs : List (String × α)} (distinct : (names pairs).Nodup) (name : String) :
    get? (ofList pairs) name = get? pairs name := by
  rw [ofList, get?_insertAll_of_nodup _ distinct, get?_nil, Option.or_none]

/-- Entries that are sorted already are what they give. -/
theorem ofList_of_sorted {entries : Keyed α} (sorted : Sorted entries) : ofList entries = entries :=
  (sorted_ofList entries).ext sorted (get?_ofList sorted.nodup)

theorem mem_ofList {pairs : List (String × α)} {e : String × α} (member : e ∈ ofList pairs) : e ∈ pairs := by
  have found := get?_of_mem (sorted_ofList pairs).nodup member
  rw [ofList, get?_insertAll, get?_nil, Option.or_none] at found
  exact List.mem_reverse.mp (mem_of_get? found)

end Keyed
end ProductGraph
