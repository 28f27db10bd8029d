import ProductGraph.Proofs.Document.JsonLd.Names

namespace ProductGraph

/-!
# Objects under their own names

Reading an object of linked data gives its fields their own names and sorts them anew; of fields that come to one name
the last one stays.  So a field that no other one comes to the name of can be taken out of the object, or put into it,
before or after the renaming.
-/

namespace Keyed

variable {α : Type}

/-- Entries may be picked by name before or after they are put in their places. -/
theorem ofList_filter (pairs : List (String × α)) (keep : String → Bool) :
    ofList (pairs.filter fun e => keep e.1) = (ofList pairs).filter fun e => keep e.1 := by
  apply (sorted_ofList _).ext ((sorted_ofList pairs).filter _)
  intro name
  rw [get?_filter (ofList pairs) keep, ofList, ofList, get?_insertAll, get?_insertAll, ← List.filter_reverse,
    get?_filter pairs.reverse keep, get?_nil, Option.or_none, Option.or_none]

theorem Sorted.erase {entries : Keyed α} (sorted : Sorted entries) (name : String) : Sorted (entries.erase name) :=
  sorted.filter _

theorem erase_comm (entries : Keyed α) (first second : String) :
    (entries.erase first).erase second = (entries.erase second).erase first := by
  rw [Keyed.erase, Keyed.erase, Keyed.erase, Keyed.erase, List.filter_filter, List.filter_filter]
  exact List.filter_congr fun _ _ => Bool.and_comm _ _

theorem erase_erase (entries : Keyed α) (name : String) : (entries.erase name).erase name = entries.erase name := by
  rw [Keyed.erase, Keyed.erase, List.filter_filter]
  exact List.filter_congr fun _ _ => Bool.and_self _

/-- Entries that are not kept may be put in. -/
theorem filter_insert_of_not (entries : Keyed α) (keep : String → Bool) {name : String}
    (dropped : keep name = false) (value : α) :
    ((entries.insert name value).filter fun e => keep e.1) = entries.filter fun e => keep e.1 := by
  induction entries with
  | nil => simp [Keyed.insert, dropped]
  | cons e rest ih =>
      rw [Keyed.insert]
      by_cases below : name < e.1
      · simp [below, dropped]
      · by_cases same : name = e.1
        · have alsoDropped : keep e.1 = false := same ▸ dropped
          simp [same, alsoDropped]
        · rw [if_neg below, if_neg same, List.filter_cons, List.filter_cons, ih]

/-- What is put in its place does not matter where its name is taken out. -/
theorem erase_insert_self (entries : Keyed α) (name : String) (value : α) :
    (entries.insert name value).erase name = entries.erase name :=
  filter_insert_of_not entries (fun other => other != name) (bne_self_eq_false name) value

end Keyed

namespace JsonLd

/-- The fields of an object under their own names. -/
def ownFields (given : Fields) : Fields := Keyed.ofList (given.map fun f => (ownName f.1, toFields.run f.2))

theorem toFields_eq_ownFields (given : Fields) : toFields.run (.object given) = .object (ownFields given) :=
  toFields_object given

theorem sorted_ownFields (given : Fields) : Keyed.Sorted (ownFields given) := Keyed.sorted_ofList _

/-- Every field under its own name is one that was given. -/
theorem exists_of_mem_ownFields {given : Fields} {name : String} {v : Json} (member : (name, v) ∈ ownFields given) :
    ∃ f ∈ given, ownName f.1 = name ∧ toFields.run f.2 = v := by
  rcases List.mem_map.mp (Keyed.mem_ofList member) with ⟨f, inGiven, same⟩
  exact ⟨f, inGiven, congrArg Prod.fst same, congrArg Prod.snd same⟩

/-- A field that was given has its own name. -/
theorem ownName_mem_ownFields {given : Fields} {name : String} (member : name ∈ Keyed.names given) :
    ownName name ∈ Keyed.names (ownFields given) := by
  rcases List.mem_map.mp member with ⟨f, inGiven, rfl⟩
  have placed : Keyed.get? (ownFields given) (ownName f.1) ≠ none := by
    rw [ownFields, Keyed.ofList, Keyed.get?_insertAll, Keyed.get?_nil, Option.or_none]
    intro absent
    apply Keyed.get?_eq_none_iff.mp absent
    rw [Keyed.names, List.map_reverse, List.mem_reverse, List.map_map]
    exact List.mem_map_of_mem inGiven
  exact Decidable.not_not.mp (Keyed.get?_eq_none_iff.not.mp placed)

/-- Of a field that no other one comes to the name of, the value is found under its own name. -/
theorem get?_ownFields_of_alone {given : Fields} {name : String} {v : Json} (member : (name, v) ∈ given)
    (alone : ∀ f ∈ given, ownName f.1 = ownName name → f = (name, v)) :
    (ownFields given).get? (ownName name) = some (toFields.run v) := by
  have there := ownName_mem_ownFields (Keyed.mem_names_of_mem member)
  rcases List.mem_map.mp there with ⟨⟨own, w⟩, placed, rfl⟩
  rcases exists_of_mem_ownFields placed with ⟨f, inGiven, same, rfl⟩
  rw [alone f inGiven same] at placed
  exact Keyed.get?_of_mem (sorted_ownFields given).nodup placed

/-- Taking out a field that no other one comes to the name of. -/
theorem ownFields_erase {given : Fields} {name : String}
    (alone : ∀ other ∈ Keyed.names given, ownName other = ownName name → other = name) :
    ownFields (given.erase name) = (ownFields given).erase (ownName name) := by
  rw [ownFields, ownFields, Keyed.erase, Keyed.erase, ← Keyed.ofList_filter _ fun own => own != ownName name,
    List.filter_map]
  refine congrArg (fun kept : Fields => Keyed.ofList (kept.map fun f => (ownName f.1, toFields.run f.2)))
    (List.filter_congr fun f member => ?_)
  by_cases same : f.1 = name
  · simp [same]
  · have apart : ownName f.1 ≠ ownName name := fun equal => same (alone f.1 (List.mem_map_of_mem member) equal)
    exact (bne_iff_ne.mpr same).trans (bne_iff_ne.mpr apart).symm

/-- What is found under a name depends only on the fields that come to it. -/
theorem get?_ownFields_filter (given : Fields) (own : String) :
    (ownFields given).get? own = (ownFields (given.filter fun f => ownName f.1 == own)).get? own := by
  have filtered : ownFields (given.filter fun f => ownName f.1 == own) =
      (ownFields given).filter fun f => f.1 == own := by
    rw [ownFields, ownFields, ← Keyed.ofList_filter _ fun name => name == own, List.filter_map]
    rfl
  rw [filtered, Keyed.get?_filter (ownFields given) fun name => name == own, beq_self_eq_true]
  rfl

/-- Putting in a field that is the last one of its own name. -/
theorem ownFields_insert {given : Fields} (sorted : Keyed.Sorted given) {name : String} (v : Json)
    (last : ∀ other ∈ Keyed.names given, ownName other = ownName name → other ≤ name) :
    ownFields (given.insert name v) = (ownFields given).insert (ownName name) (toFields.run v) := by
  apply (sorted_ownFields _).ext ((sorted_ownFields given).insert _ _)
  intro own
  rw [Keyed.get?_insert]
  by_cases here : ownName name = own
  · subst here
    rw [if_pos rfl]
    have put : (name, v) ∈ given.insert name v := Keyed.mem_of_get? (Keyed.get?_insert_self given name v)
    refine Keyed.get?_ofList_map_of_last (sorted.insert name v) ownName (fun f => toFields.run f.2) put ?_
    intro f member same
    rcases Keyed.mem_names_insert.mp (List.mem_map_of_mem member) with itself | inGiven
    · exact le_of_eq itself
    · exact last f.1 inGiven same
  · rw [if_neg here, get?_ownFields_filter, get?_ownFields_filter given,
      Keyed.filter_insert_of_not given (fun name => ownName name == own) (beq_false_of_ne here)]

/-- Putting in fields of different names, each the last one of its own name. -/
theorem ownFields_insertAll {given : Fields} (sorted : Keyed.Sorted given) {added : List (String × Json)}
    (distinct : (added.map fun f => ownName f.1).Nodup)
    (last : ∀ f ∈ added, ∀ other ∈ Keyed.names given, ownName other = ownName f.1 → other ≤ f.1) :
    ownFields (given.insertAll added) =
      (ownFields given).insertAll (added.map fun f => (ownName f.1, toFields.run f.2)) := by
  induction added generalizing given with
  | nil => rfl
  | cons f rest ih =>
      have parts := List.nodup_cons.mp distinct
      change ownFields ((given.insert f.1 f.2).insertAll rest) =
        ((ownFields given).insert (ownName f.1) (toFields.run f.2)).insertAll _
      rw [← ownFields_insert sorted f.2 (last f List.mem_cons_self)]
      apply ih (sorted.insert f.1 f.2) parts.2
      intro g later other member same
      rcases Keyed.mem_names_insert.mp member with rfl | inGiven
      · exact absurd (List.mem_map.mpr ⟨g, later, same.symm⟩) parts.1
      · exact last g (List.mem_cons_of_mem _ later) other inGiven same

end JsonLd
end ProductGraph
