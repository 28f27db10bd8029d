import Mathlib.Data.List.Nodup
import ProductGraph.Document.JsonLd.Reader
import ProductGraph.Document.JsonLd.Writer
import ProductGraph.Proofs.Document.Normal

namespace ProductGraph

/-!
# Names of linked data and back

Fields get the names of linked data when they are written and their own names when they are read.  This is undone
exactly where no name of linked data stands among the names that are written, since such a name would be taken for
that of the field.  Renaming sorts the fields anew both times; the order that comes out is that of the own names again.
-/

namespace Keyed

variable {α : Type}

theorem nodup_of_nodup_names {entries : Keyed α} (distinct : (names entries).Nodup) : entries.Nodup :=
  List.Nodup.of_map _ distinct

theorem mem_ofList_iff {pairs : List (String × α)} (distinct : (names pairs).Nodup) {e : String × α} :
    e ∈ ofList pairs ↔ e ∈ pairs := by
  refine ⟨mem_ofList, fun member => mem_of_get? ?_⟩
  rw [get?_ofList distinct]
  exact get?_of_mem distinct member

/-- Where no name is used twice, sorting only brings entries into another order. -/
theorem ofList_perm {pairs : List (String × α)} (distinct : (names pairs).Nodup) : (ofList pairs).Perm pairs :=
  (List.perm_ext_iff_of_nodup (nodup_of_nodup_names (sorted_ofList pairs).nodup) (nodup_of_nodup_names distinct)).mpr
    fun _ => mem_ofList_iff distinct

/-- Sorting the entries of what is sorted gives it back, whatever order they are in. -/
theorem ofList_of_perm {pairs : List (String × α)} {entries : Keyed α} (sorted : Sorted entries)
    (permuted : pairs.Perm entries) : ofList pairs = entries := by
  have distinct : (names pairs).Nodup := ((permuted.map _).nodup_iff).mpr sorted.nodup
  apply (sorted_ofList pairs).ext sorted
  intro name
  rw [get?_ofList distinct]
  ext value
  constructor
  · intro found
    exact get?_of_mem sorted.nodup (permuted.mem_iff.mp (mem_of_get? found))
  · intro found
    exact get?_of_mem distinct (permuted.mem_iff.mpr (mem_of_get? found))

/-- Of sorted entries that are renamed, the last one of a name is found under it. -/
theorem get?_ofList_map_of_last {β : Type} {entries : Keyed α} (sorted : Sorted entries)
    (rename : String → String) (f : String × α → β) {name : String} {value : α} (there : (name, value) ∈ entries)
    (last : ∀ e ∈ entries, rename e.1 = rename name → e.1 ≤ name) :
    get? (ofList (entries.map fun e => (rename e.1, f e))) (rename name) = some (f (name, value)) := by
  rcases List.append_of_mem there with ⟨before, after, rfl⟩
  have above : ∀ e ∈ after, name < e.1 := by
    rw [Sorted, names, List.map_append, List.pairwise_append, List.map_cons, List.pairwise_cons] at sorted
    exact fun e member => sorted.2.1.1 e.1 (List.mem_map_of_mem member)
  have notAfter : get? (after.map fun e => (rename e.1, f e)).reverse (rename name) = none := by
    rw [get?_eq_none_iff, names, List.map_reverse, List.mem_reverse, List.map_map, List.mem_map]
    rintro ⟨e, member, same⟩
    have notAbove := last e (List.mem_append_right _ (List.mem_cons_of_mem _ member)) same
    exact absurd (above e member) (not_lt_of_ge notAbove)
  rw [ofList, get?_insertAll, List.map_append, List.map_cons, List.reverse_append, List.reverse_cons, get?_append,
    get?_append, notAfter, get?_cons, if_pos rfl]
  rfl

end Keyed

namespace JsonLd

/-- The name of a field in linked data; other names stand for themselves. -/
def linkedName (name : String) : String := (Vocabulary.linkedOfField? name).getD name

/-- The field that a name of linked data stands for; other names stand for themselves. -/
def ownName (name : String) : String := (Vocabulary.fieldOfLinked? name).getD name

theorem toLinked_object (fields : Fields) :
    toLinked.run (.object fields) = .ofFields (fields.map fun f => (linkedName f.1, toLinked.run f.2)) := by
  rw [Walk.run_object]
  change Json.object (Keyed.ofList ((fields.map _).map _)) = _
  rw [List.map_map]
  rfl

theorem toFields_object (fields : Fields) :
    toFields.run (.object fields) = .ofFields (fields.map fun f => (ownName f.1, toFields.run f.2)) := by
  rw [Walk.run_object]
  change Json.object (Keyed.ofList ((fields.map _).map _)) = _
  rw [List.map_map]
  rfl

/-! ## Names that come back -/

/-- A name that stands for itself again after it was written and read. -/
def ComesBack (name : String) : Prop := ownName (linkedName name) = name

/-- The name of a field is that of a term. -/
theorem exists_term_of_isField {name : String} (known : Vocabulary.isField name = true) :
    ∃ t ∈ Vocabulary.terms, t.field = name := by
  rcases Option.isSome_iff_exists.mp known with ⟨t, found⟩
  exact ⟨t, List.mem_of_find?_eq_some found, by simpa using List.find?_some found⟩

/-- The name of a field comes back. -/
theorem comesBack_of_isField {name : String} (known : Vocabulary.isField name = true) : ComesBack name := by
  have all : ∀ t ∈ Vocabulary.terms, ownName (linkedName t.field) = t.field := by decide
  rcases exists_term_of_isField known with ⟨t, member, rfl⟩
  exact all t member

/-- Two fields have different names in linked data. -/
theorem eq_of_linkedName_eq {first second : String} (known : Vocabulary.isField first = true)
    (alsoKnown : Vocabulary.isField second = true) (same : linkedName first = linkedName second) : first = second :=
  (comesBack_of_isField known).symm.trans ((congrArg ownName same).trans (comesBack_of_isField alsoKnown))

/-- A name that is not that of a field stands for itself. -/
theorem linkedName_of_not_isField {name : String} (noField : Vocabulary.isField name = false) :
    linkedName name = name := by
  rw [linkedName, Vocabulary.linkedOfField?, Option.isSome_eq_false_iff.mp noField |> Option.isNone_iff_eq_none.mp]
  rfl

/-- A name that is neither that of a field nor one of linked data comes back. -/
theorem comesBack_of_none {name : String} (noField : Vocabulary.isField name = false)
    (notLinked : Vocabulary.fieldOfLinked? name = none) : ComesBack name := by
  rw [ComesBack, linkedName_of_not_isField noField, ownName, notLinked]
  rfl

/-- Names that come back differ when they are written. -/
theorem nodup_linkedNames {fields : Fields} (sorted : Keyed.Sorted fields)
    (back : ∀ name ∈ Keyed.names fields, ComesBack name) :
    (Keyed.names (fields.map fun f => (linkedName f.1, toLinked.run f.2))).Nodup := by
  have names_eq : Keyed.names (fields.map fun f => (linkedName f.1, toLinked.run f.2)) =
      (Keyed.names fields).map linkedName := by
    rw [Keyed.names, Keyed.names, List.map_map, List.map_map]
    rfl
  rw [names_eq]
  refine List.Nodup.map_on ?_ sorted.nodup
  intro a inFields b alsoInFields same
  exact (back a inFields).symm.trans ((congrArg ownName same).trans (back b alsoInFields))

/-- An object whose names all come back is read with its own names, its values read one by one. -/
theorem toFields_toLinked_object {fields : Fields} (sorted : Keyed.Sorted fields)
    (back : ∀ name ∈ Keyed.names fields, ComesBack name) :
    toFields.run (toLinked.run (.object fields)) =
      .object (fields.map fun f => (f.1, toFields.run (toLinked.run f.2))) := by
  have distinct := nodup_linkedNames sorted back
  rw [toLinked_object, Json.ofFields, toFields_object, Json.ofFields]
  refine congrArg Json.object (Keyed.ofList_of_perm (sorted.map fun f => toFields.run (toLinked.run f.2)) ?_)
  refine ((Keyed.ofList_perm distinct).map _).trans ?_
  rw [List.map_map]
  refine List.Perm.of_eq (List.map_congr_left fun f member => ?_)
  exact Prod.ext (back f.1 (List.mem_map_of_mem member)) rfl

/-! ## Values that come back -/

/-- A value that is the same after it was written and read. -/
def Stays (v : Json) : Prop := toFields.run (toLinked.run v) = v

theorem stays_string (s : String) : Stays (.string s) := rfl

theorem stays_array {list : List Json} (each : ∀ v ∈ list, Stays v) : Stays (.array list) := by
  rw [Stays, Walk.run_array, Walk.run_array, List.map_map]
  exact congrArg Json.array ((List.map_congr_left each).trans (List.map_id list))

/-- An object stays if its names come back and its values stay. -/
theorem stays_of_comesBack {fields : Fields} (sorted : Keyed.Sorted fields)
    (back : ∀ name ∈ Keyed.names fields, ComesBack name) (each : ∀ f ∈ fields, Stays f.2) :
    Stays (.object fields) := by
  rw [Stays, toFields_toLinked_object sorted back]
  refine congrArg Json.object ((List.map_congr_left fun f member => ?_).trans (List.map_id fields))
  exact Prod.ext rfl (each f member)

/-- An object of fields whose values stay stays. -/
theorem stays_object {fields : Fields} (sorted : Keyed.Sorted fields)
    (known : ∀ f ∈ fields, Vocabulary.isField f.1 = true ∧ Stays f.2) : Stays (.object fields) := by
  refine stays_of_comesBack sorted ?_ fun f member => (known f member).2
  intro name member
  rcases List.mem_map.mp member with ⟨f, inFields, rfl⟩
  exact comesBack_of_isField (known f inFields).1

theorem stays_languageText (t : LanguageText) : Stays (Writing.languageText t) := by
  refine stays_object (Writing.sorted_fieldsOf _) ?_
  intro f member
  have inEntries := Writing.mem_fieldsOf member
  simp only [List.mem_cons, Prod.mk.injEq, List.not_mem_nil, or_false] at inEntries
  rcases inEntries with ⟨name, value⟩ | ⟨name, value⟩
  · rw [name, Option.some.inj value]
    exact ⟨rfl, stays_string _⟩
  · rcases Option.map_eq_some_iff.mp value.symm with ⟨lang, _, value⟩
    rw [name, ← value]
    exact ⟨rfl, stays_string _⟩

/-- A wrapped reference stays. -/
theorem stays_wrapped (s : String) : Stays (Normal.wrapped (.string s)) := by
  rw [Normal.wrapped]
  split
  · rfl
  · rfl

theorem unwrapping_wrapped (s : String) : Normal.unwrapping.run (Normal.wrapped (.string s)) = .string s := by
  rw [Normal.wrapped]
  split
  · rfl
  · rfl

theorem wrapping_texts (list : List String) :
    Normal.wrapping.run (Writing.texts list) = .array (list.map fun s => Normal.wrapped (.string s)) := by
  rw [Writing.texts, Walk.run_array, List.map_map]
  rfl

theorem unwrapping_wrapping_texts (list : List String) :
    Normal.unwrapping.run (Normal.wrapping.run (Writing.texts list)) = Writing.texts list := by
  rw [wrapping_texts, Walk.run_array, List.map_map]
  exact congrArg Json.array (List.map_congr_left fun s _ => unwrapping_wrapped s)

theorem stays_wrapping_texts (list : List String) : Stays (Normal.wrapping.run (Writing.texts list)) := by
  rw [wrapping_texts]
  refine stays_array fun v member => ?_
  rcases List.mem_map.mp member with ⟨s, _, rfl⟩
  exact stays_wrapped s

/-! ## Fields as they are written -/

/-- The value of a field as it is written: its references are wrapped where they are. -/
def spelled (name : String) (v : Json) : Json := if isWrapped name then Normal.wrapping.run v else v

/-- What stands under a name that is not that of a field is written as it is. -/
theorem spelled_of_not_isField {name : String} (noField : Vocabulary.isField name = false) (v : Json) :
    spelled name v = v := by
  have notWrapped : isWrapped name = false := by rw [isWrapped, noField, Bool.and_false]
  rw [spelled, notWrapped]
  rfl

theorem stays_written {shape : Shape} {v : Json} (written : shape.Written v) (notProperties : shape ≠ .properties)
    (notLinks : shape ≠ .links) : Stays v := by
  cases written with
  | identifier | text | count | number | exactly => rfl
  | identifiers | textList =>
      refine stays_array fun v member => ?_
      rcases List.mem_map.mp member with ⟨s, _, rfl⟩
      exact stays_string s
  | texts =>
      refine stays_array fun v member => ?_
      rcases List.mem_map.mp member with ⟨t, _, rfl⟩
      exact stays_languageText t
  | properties => exact absurd rfl notProperties
  | links => exact absurd rfl notLinks

/-- Wrapped references stay, and they are unwrapped to what they were. -/
theorem stays_wrapping_written {shape : Shape} {v : Json} (written : shape.Written v) (notTexts : shape ≠ .texts)
    (notProperties : shape ≠ .properties) (notLinks : shape ≠ .links) :
    Stays (Normal.wrapping.run v) ∧ Normal.unwrapping.run (Normal.wrapping.run v) = v := by
  cases written with
  | identifier | text | exactly => exact ⟨stays_wrapped _, unwrapping_wrapped _⟩
  | count | number => exact ⟨rfl, rfl⟩
  | identifiers | textList => exact ⟨stays_wrapping_texts _, unwrapping_wrapping_texts _⟩
  | texts => exact absurd rfl notTexts
  | properties => exact absurd rfl notProperties
  | links => exact absurd rfl notLinks

/-- What is written for a field other than fragments stays, and it is read as what was written. -/
theorem spelled_written (kind : Option Kind) (options : ReadingOptions) {name : String} {shape : Shape} {v : Json}
    (fits : Normal.suits name shape = true) (written : shape.Written v) (settled : Normal.Settled name v)
    (noFragments : (Vocabulary.fragmentFields.map (·.1)).contains name = false) :
    Stays (spelled name v) ∧ Normal.field? options kind name (spelled name v) = some v := by
  have facts := fits
  simp only [Normal.suits, Bool.and_eq_true, beq_iff_eq, noFragments] at facts
  rcases facts with ⟨⟨⟨⟨⟨_, isText⟩, shapes⟩, _⟩, _⟩, _⟩
  rw [eq_comm, Bool.or_eq_false_iff, beq_eq_false_iff_ne, beq_eq_false_iff_ne] at shapes
  by_cases texts : shape = .texts
  · have asItIs : spelled name v = v := by
      have notWrapped : isWrapped name = false := by
        rw [isWrapped, isText, texts]
        simp
      rw [spelled, notWrapped]
      rfl
    rw [asItIs]
    exact ⟨stays_written written shapes.1 shapes.2, Normal.field?_written fits written settled (.inl ⟨texts, rfl⟩)⟩
  · rw [spelled]
    split
    · have wrapped := stays_wrapping_written written texts shapes.1 shapes.2
      exact ⟨wrapped.1, Normal.field?_written fits written settled (.inr ⟨texts, wrapped.2⟩)⟩
    · exact ⟨stays_written written shapes.1 shapes.2,
        Normal.field?_written fits written settled (.inr ⟨texts, Normal.unwrapping_written written texts⟩)⟩

end JsonLd
end ProductGraph
