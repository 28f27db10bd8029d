import Mathlib.Data.List.Basic
import ProductGraph.Json.Reader
import ProductGraph.Proofs.Keyed

namespace ProductGraph

/-!
# Parts of values

A value is made of its parts, at any depth.  What is known of the parts is known of the value by induction, and what is
asked of every object in a value can be decided.

One thing holds of every object in every value that is read: its fields are sorted by name, whatever order they were
written in.
-/

instance {α : Type} (entries : Keyed α) : Decidable (Keyed.Sorted entries) :=
  inferInstanceAs (Decidable ((Keyed.names entries).Pairwise (· < ·)))

namespace Json

/-- Induction over values: what holds of the parts of a value holds of the value. -/
@[elab_as_elim]
theorem inductionOnParts {motive : Json → Prop} (null : motive .null) (bool : ∀ b, motive (.bool b))
    (number : ∀ n, motive (.number n)) (string : ∀ s, motive (.string s))
    (array : ∀ list, (∀ v ∈ list, motive v) → motive (.array list))
    (object : ∀ fields, (∀ f ∈ fields, motive f.2) → motive (.object fields)) : ∀ v, motive v
  | .null => null
  | .bool b => bool b
  | .number n => number n
  | .string s => string s
  | .array list => array list fun v _ => inductionOnParts null bool number string array object v
  | .object fields => object fields fun f _ => inductionOnParts null bool number string array object f.2
termination_by v => sizeOf v
decreasing_by
  · rename_i member
    have smaller := List.sizeOf_lt_of_mem member
    simp only [Json.array.sizeOf_spec]
    omega
  · rename_i member
    have smaller := List.sizeOf_lt_of_mem member
    have inner : sizeOf f.2 < sizeOf f := by
      rcases f with ⟨name, v⟩
      simp only [Prod.mk.sizeOf_spec]
      omega
    simp only [Json.object.sizeOf_spec]
    omega

/-- A value is part of another if it is that value or stands within it, at any depth. -/
inductive IsPart (part : Json) : Json → Prop
  | self : IsPart part part
  | item {list : List Json} {v : Json} (member : v ∈ list) (within : IsPart part v) : IsPart part (.array list)
  | field {fields : Fields} {f : String × Json} (member : f ∈ fields) (within : IsPart part f.2) :
      IsPart part (.object fields)

theorem IsPart.trans {inner part v : Json} (within : IsPart part v) (deeper : IsPart inner part) : IsPart inner v := by
  induction within with
  | self => exact deeper
  | item member _ ih => exact .item member ih
  | field member _ ih => exact .field member ih

/-- What is known of the fields of every object that is part of a value. -/
def Throughout (p : Fields → Prop) (v : Json) : Prop := ∀ fields, IsPart (.object fields) v → p fields

section

variable {p : Fields → Prop}

theorem throughout_string (s : String) : Throughout p (.string s) := by
  intro fields part
  cases part

theorem throughout_array {list : List Json} : Throughout p (.array list) ↔ ∀ v ∈ list, Throughout p v := by
  refine ⟨fun all v member fields part => all fields (.item member part), fun each fields part => ?_⟩
  cases part with
  | item member within => exact each _ member fields within

theorem throughout_object {fields : Fields} :
    Throughout p (.object fields) ↔ p fields ∧ ∀ f ∈ fields, Throughout p f.2 := by
  constructor
  · exact fun all => ⟨all fields .self, fun f member inner part => all inner (.field member part)⟩
  · rintro ⟨own, each⟩ inner part
    cases part with
    | self => exact own
    | field member within => exact each _ member inner within

variable [DecidablePred p]

mutual

/-- Whether something is so of every object in a value. -/
def decidableThroughout : (v : Json) → Decidable (Throughout p v)
  | .null | .bool _ | .number _ | .string _ => .isTrue nofun
  | .array list => @decidable_of_iff _ _ throughout_array.symm (decidableItems list)
  | .object fields => @decidable_of_iff _ _ throughout_object.symm (@instDecidableAnd _ _ _ (decidableFields fields))

/-- Whether something is so of every object in some items. -/
def decidableItems : (list : List Json) → Decidable (∀ v ∈ list, Throughout p v)
  | [] => .isTrue (List.forall_mem_nil _)
  | v :: rest =>
    @decidable_of_iff _ _ List.forall_mem_cons.symm
      (@instDecidableAnd _ _ (decidableThroughout v) (decidableItems rest))

/-- Whether something is so of every object in the values of some fields. -/
def decidableFields : (fields : List (String × Json)) → Decidable (∀ f ∈ fields, Throughout p f.2)
  | [] => .isTrue (List.forall_mem_nil _)
  | (_, v) :: rest =>
    @decidable_of_iff _ _ List.forall_mem_cons.symm
      (@instDecidableAnd _ _ (decidableThroughout v) (decidableFields rest))

end

instance (v : Json) : Decidable (Throughout p v) := decidableThroughout v

end

/-! ## Values that are read -/

/-- Whatever is read in so many steps is sorted throughout. -/
structure ReadsSorted (steps : Nat) : Prop where
  value : ∀ {depth cs v rest}, readValue steps depth cs = some (v, rest) → v.Throughout Keyed.Sorted
  items : ∀ {depth cs list rest}, readItems steps depth cs = some (list, rest) → ∀ v ∈ list, v.Throughout Keyed.Sorted
  fields : ∀ {depth cs pairs rest}, readFields steps depth cs = some (pairs, rest) →
    ∀ f ∈ pairs, f.2.Throughout Keyed.Sorted

/-- The fields of an object are put in their places, in whatever order they were written. -/
theorem throughout_ofFields {pairs : List (String × Json)} (each : ∀ f ∈ pairs, f.2.Throughout Keyed.Sorted) :
    (ofFields pairs).Throughout Keyed.Sorted :=
  throughout_object.mpr ⟨Keyed.sorted_ofList pairs, fun f member => each f (Keyed.mem_ofList member)⟩

namespace ReadsSorted

variable {steps depth : Nat} {cs rest : List Char}

theorem value_succ (before : ReadsSorted steps) {v : Json} (reads : readValue (steps + 1) depth cs = some (v, rest)) :
    v.Throughout Keyed.Sorted := by
  rw [readValue.eq_def] at reads
  dsimp only at reads
  split at reads
  · cases reads
  · rcases Option.map_eq_some_iff.mp reads with ⟨_, _, same⟩
    cases same
    exact throughout_string _
  · split at reads
    · cases reads
    · split at reads
      · cases reads
        exact throughout_array.mpr (List.forall_mem_nil _)
      · rcases Option.map_eq_some_iff.mp reads with ⟨_, inner, same⟩
        cases same
        exact throughout_array.mpr (before.items inner)
  · split at reads
    · cases reads
    · split at reads
      · cases reads
        exact throughout_ofFields (List.forall_mem_nil _)
      · rcases Option.map_eq_some_iff.mp reads with ⟨_, inner, same⟩
        cases same
        exact throughout_ofFields (before.fields inner)
  -- what is left are words and numbers, which have no parts
  all_goals
    rcases Option.map_eq_some_iff.mp reads with ⟨_, _, same⟩
    cases same
    intro fields part
    cases part

theorem items_succ (before : ReadsSorted steps) {list : List Json}
    (reads : readItems (steps + 1) depth cs = some (list, rest)) : ∀ v ∈ list, v.Throughout Keyed.Sorted := by
  rw [readItems] at reads
  split at reads
  · cases reads
  · rename_i first
    have sorted := before.value first
    split at reads
    · cases reads
      exact List.forall_mem_singleton.mpr sorted
    · rcases Option.map_eq_some_iff.mp reads with ⟨_, others, same⟩
      cases same
      exact List.forall_mem_cons.mpr ⟨sorted, before.items others⟩
    · cases reads

theorem fields_succ (before : ReadsSorted steps) {pairs : List (String × Json)}
    (reads : readFields (steps + 1) depth cs = some (pairs, rest)) :
    ∀ f ∈ pairs, f.2.Throughout Keyed.Sorted := by
  rw [readFields] at reads
  split at reads
  · split at reads
    · cases reads
    · split at reads
      · split at reads
        · cases reads
        · rename_i first
          have sorted := before.value first
          split at reads
          · cases reads
            exact List.forall_mem_singleton.mpr sorted
          · rcases Option.map_eq_some_iff.mp reads with ⟨_, others, same⟩
            cases same
            exact List.forall_mem_cons.mpr ⟨sorted, before.fields others⟩
          · cases reads
      · cases reads
  · cases reads

end ReadsSorted

theorem readsSorted (steps : Nat) : ReadsSorted steps := by
  induction steps with
  | zero => refine ⟨fun reads => ?_, fun reads => ?_, fun reads => ?_⟩ <;> cases reads
  | succ steps before => exact ⟨before.value_succ, before.items_succ, before.fields_succ⟩

/-- Every object in a value that is read has its fields in order, each name once. -/
theorem throughout_sorted_of_ofText? {s : String} {v : Json} (reads : ofText? s = some v) :
    v.Throughout Keyed.Sorted := by
  rw [ofText?] at reads
  split at reads
  · rename_i found
    split at reads
    · cases reads
      exact (readsSorted _).value found
    · cases reads
  · cases reads

end Json
end ProductGraph
