import ProductGraph.Proofs.Document.JsonLd.Names
import ProductGraph.Proofs.Json.Part

namespace ProductGraph

/-!
# The passes over a value cancel

A value is wrapped and renamed to be written, and renamed back and unwrapped to be read.  Wrapping only adds objects that
unwrapping takes away, also within objects that are nothing but an identifier already, and renaming is undone wherever no
name of linked data stands among the own names.  Since two own names never come to the same name, no object loses a key
on the way.
-/

namespace Normal

/-- Unwrapping takes away what wrapping adds, and then what it would have taken away anyway. -/
theorem unwrapping_wrapping (v : Json) : unwrapping.run (wrapping.run v) = unwrapping.run v := by
  induction v using Json.inductionOnParts with
  | null | bool | number => rfl
  | string s => exact JsonLd.unwrapping_wrapped s
  | array list ih =>
      rw [Walk.run_array, Walk.run_array, Walk.run_array, List.map_map]
      exact congrArg Json.array (List.map_congr_left ih)
  | object fields ih =>
      rw [Walk.run_object, Walk.run_object]
      change unwrapping.run (.object _) = _
      rw [Walk.run_object, List.map_map]
      refine congrArg unwrapping.object (List.map_congr_left fun f member => ?_)
      exact Prod.ext rfl (ih f member)

end Normal

namespace JsonLd

/-- Fields in their order, none of them under a name of linked data. -/
structure OwnNamed (fields : Fields) : Prop where
  sorted : Keyed.Sorted fields
  own : ∀ name ∈ Keyed.names fields, Vocabulary.fieldOfLinked? name = none

namespace OwnNamed

variable {fields : Fields}

theorem comesBack (own : OwnNamed fields) : ∀ name ∈ Keyed.names fields, ComesBack name := by
  intro name member
  cases known : Vocabulary.isField name with
  | true => exact comesBack_of_isField known
  | false => exact comesBack_of_none known (own.own name member)

theorem map (own : OwnNamed fields) (change : Json → Json) : OwnNamed (fields.map fun f => (f.1, change f.2)) := by
  refine ⟨own.sorted.map fun f => change f.2, ?_⟩
  have same : Keyed.names (fields.map fun f => (f.1, change f.2)) = Keyed.names fields := by
    rw [Keyed.names, List.map_map]
    rfl
  rw [same]
  exact own.own

end OwnNamed

/-- Renaming is undone throughout a value. -/
theorem stays_of_ownNamed {v : Json} (named : v.Throughout OwnNamed) : Stays v := by
  induction v using Json.inductionOnParts with
  | null | bool | number | string => rfl
  | array list ih => exact stays_array fun v member => ih v member (Json.throughout_array.mp named v member)
  | object fields ih =>
      rcases Json.throughout_object.mp named with ⟨own, each⟩
      exact stays_of_comesBack own.sorted own.comesBack fun f member => ih f member (each f member)

/-- Wrapping adds no name but that of the identifier. -/
theorem ownNamed_wrapping {v : Json} (named : v.Throughout OwnNamed) :
    (Normal.wrapping.run v).Throughout OwnNamed := by
  induction v using Json.inductionOnParts with
  | null | bool | number => exact named
  | string s =>
      change (Normal.wrapped (.string s)).Throughout OwnNamed
      rw [Normal.wrapped]
      split
      · have identifier : OwnNamed [("id", .string s)] :=
          ⟨List.pairwise_singleton _ _, List.forall_mem_singleton.mpr rfl⟩
        exact Json.throughout_object.mpr ⟨identifier, List.forall_mem_singleton.mpr (Json.throughout_string s)⟩
      · exact named
  | array list ih =>
      rw [Walk.run_array, Json.throughout_array]
      exact List.forall_mem_map.mpr fun v member => ih v member (Json.throughout_array.mp named v member)
  | object fields ih =>
      rcases Json.throughout_object.mp named with ⟨own, each⟩
      rw [Walk.run_object]
      refine Json.throughout_object.mpr ⟨own.map Normal.wrapping.run, ?_⟩
      exact List.forall_mem_map.mpr fun f member => ih f member (each f member)

/-! ## Objects that keep their size -/

/-- Renaming gives an object its fields under their names in linked data, in another order. -/
theorem exists_toLinked_object {fields : Fields} (own : OwnNamed fields) :
    ∃ renamed, toLinked.run (.object fields) = .object renamed ∧
      renamed.Perm (fields.map fun f => (linkedName f.1, toLinked.run f.2)) :=
  ⟨_, toLinked_object fields, Keyed.ofList_perm (nodup_linkedNames own.sorted own.comesBack)⟩

/-- What is part of a value is renamed where it stands. -/
theorem isPart_toLinked {part v : Json} (within : Json.IsPart part v) (named : v.Throughout OwnNamed) :
    Json.IsPart (toLinked.run part) (toLinked.run v) := by
  induction within with
  | self => exact .self
  | item member _ ih =>
      rw [Walk.run_array]
      exact .item (List.mem_map_of_mem member) (ih (Json.throughout_array.mp named _ member))
  | field member _ ih =>
      rcases Json.throughout_object.mp named with ⟨own, each⟩
      rcases exists_toLinked_object own with ⟨renamed, same, permuted⟩
      rw [same]
      have there := permuted.mem_iff.mpr (List.mem_map_of_mem member)
      exact .field there (ih (each _ member))

/-- The passes cancel on every value without names of linked data, whatever is nested in it: wrapping, renaming, renaming
back and unwrapping gives what unwrapping alone gives, and renaming back undoes renaming.  Every object in the value is
an object with as many keys in the renamed value, and it is got back from that.  Its fields are in order, as they are in
every value that is read. -/
theorem passes_cancel {v : Json} (sorted : v.Throughout Keyed.Sorted)
    (own : v.Throughout fun fields => ∀ name ∈ Keyed.names fields, Vocabulary.fieldOfLinked? name = none) :
    Normal.unwrapping.run (toFields.run (toLinked.run (Normal.wrapping.run v))) = Normal.unwrapping.run v ∧
      toFields.run (toLinked.run v) = v ∧
      ∀ fields, Json.IsPart (.object fields) v →
        ∃ renamed, toLinked.run (.object fields) = .object renamed ∧
          Json.IsPart (.object renamed) (toLinked.run v) ∧ renamed.length = fields.length ∧
          (Keyed.names renamed).Perm ((Keyed.names fields).map linkedName) ∧
          toFields.run (.object renamed) = .object fields := by
  have named : v.Throughout OwnNamed := fun fields part => ⟨sorted fields part, own fields part⟩
  refine ⟨?_, stays_of_ownNamed named, ?_⟩
  · have back : toFields.run (toLinked.run (Normal.wrapping.run v)) = Normal.wrapping.run v :=
      stays_of_ownNamed (ownNamed_wrapping named)
    rw [back, Normal.unwrapping_wrapping]
  · intro fields part
    rcases exists_toLinked_object (named fields part) with ⟨renamed, same, permuted⟩
    have within := isPart_toLinked part named
    have names_perm : (Keyed.names renamed).Perm ((Keyed.names fields).map linkedName) := by
      have mapped := permuted.map (·.1)
      rw [List.map_map] at mapped
      rwa [Keyed.names, Keyed.names, List.map_map]
    have stays : Stays (.object fields) := stays_of_ownNamed fun inner deeper => named inner (part.trans deeper)
    rw [Stays, same] at stays
    rw [same] at within
    refine ⟨renamed, same, within, ?_, names_perm, stays⟩
    rw [permuted.length_eq, List.length_map]

/-- References that are wrapped already, once and twice, beside bare ones. -/
def wrappedReferences : Json :=
  .object [("creator", .object [("id", .string "o:Pump")]),
    ("hasProperty", .array [.object [("o:Custom", .null), ("value", .string "o:Red")],
      .array [.object [("id", .object [("id", .string "o:Valve")])]]]),
    ("id", .string "d:pump")]

theorem passes_cancel_wrappedReferences :
    wrappedReferences.Throughout Keyed.Sorted ∧
      (wrappedReferences.Throughout fun fields =>
        ∀ name ∈ Keyed.names fields, Vocabulary.fieldOfLinked? name = none) ∧
      Normal.unwrapping.run (toFields.run (toLinked.run (Normal.wrapping.run wrappedReferences))) =
        Normal.unwrapping.run wrappedReferences ∧
      toFields.run (toLinked.run wrappedReferences) = wrappedReferences ∧
      ∃ renamed, toLinked.run wrappedReferences = .object renamed ∧ renamed.length = 3 := by
  have sorted : wrappedReferences.Throughout Keyed.Sorted := by decide +kernel
  have own : wrappedReferences.Throughout fun fields =>
      ∀ name ∈ Keyed.names fields, Vocabulary.fieldOfLinked? name = none := by decide +kernel
  rcases passes_cancel sorted own with ⟨cancel, back, parts⟩
  rcases parts _ .self with ⟨renamed, same, _, size, _⟩
  exact ⟨sorted, own, cancel, back, renamed, same, size⟩

end JsonLd
end ProductGraph
