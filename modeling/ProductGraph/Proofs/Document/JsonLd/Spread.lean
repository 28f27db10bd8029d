import ProductGraph.Proofs.Document.JsonLd.Names
import ProductGraph.Proofs.Item.Order

namespace ProductGraph

/-!
# Fragments under the names of their classes

Writing an individual takes its fragments out of their fields and puts them under the names of their classes, the
fragments of all fields together; reading it finds the field of each fragment again from what is written.  Classes are
read in the order of their names and the fragments of one class in the order in which they stand, so what comes back
in each field is sorted by class.
-/

/-! ## Fragments of all fields -/

/-- A fragment of an individual with the field that holds it. -/
inductive Piece where
  | property (p : PropertyValue)
  | source (l : LinkValue)
  | target (l : LinkValue)

namespace Piece

def field : Piece → String
  | property _ => "hasProperty"
  | source _ => "hasSourceLink"
  | target _ => "hasTargetLink"

def hasClass : Piece → String
  | property p => p.hasClass
  | source l => l.hasClass
  | target l => l.hasClass

/-- The fragment as it stands in its field. -/
def own : Piece → Json
  | property p => Writing.embeddedProperty p
  | source l => Writing.embeddedLink l
  | target l => Writing.embeddedLink l

/-- The fragment as it stands under its class. -/
def entry : Piece → Json
  | property p => JsonLd.entry .propertyValue (Writing.embeddedProperty p)
  | source l => JsonLd.entry .sourceLinkValue (Writing.embeddedLink l)
  | target l => JsonLd.entry .targetLinkValue (Writing.embeddedLink l)

end Piece

namespace ItemData

/-- The fragments of an individual, field by field. -/
def pieces (d : ItemData) : List Piece :=
  d.properties.map .property ++ d.sourceLinks.map .source ++ d.targetLinks.map .target

end ItemData

namespace JsonLd

open ItemData

/-- The entries under the classes are those of all fragments. -/
theorem entries_fields (d : ItemData) : entries d.fields = d.pieces.map fun q => (q.hasClass, q.entry) := by
  have class_property : ∀ p, (Writing.embeddedProperty p).textField? "hasClass" = some p.hasClass := by
    intro p
    rw [Writing.embeddedProperty_eq]
    rfl
  have class_link : ∀ l, (Writing.embeddedLink l).textField? "hasClass" = some l.hasClass := by
    intro l
    rw [Writing.embeddedLink_eq]
    rfl
  simp only [entries, Vocabulary.fragmentFields, List.flatMap_cons, List.flatMap_nil, List.append_nil,
    get?_hasProperty, get?_hasSourceLink, get?_hasTargetLink, Writing.items?_unlessEmpty, List.filterMap_map, pieces,
    List.map_append, List.map_map, ← List.append_assoc]
  congr 1
  · congr 1
    · refine List.filterMap_eq_map_iff_forall_eq_some.mpr fun p _ => ?_
      simp only [Function.comp_apply, class_property]
      rfl
    · refine List.filterMap_eq_map_iff_forall_eq_some.mpr fun l _ => ?_
      simp only [Function.comp_apply, class_link]
      rfl
  · refine List.filterMap_eq_map_iff_forall_eq_some.mpr fun l _ => ?_
    simp only [Function.comp_apply, class_link]
    rfl

/-! ## Groups by class -/

namespace Groups

theorem get?_add (groups : Groups) (hasClass : String) (e : Json) (name : String) :
    Keyed.get? (groups.add hasClass e) name =
      if hasClass = name then some ((Keyed.get? groups name).getD [] ++ [e]) else Keyed.get? groups name := by
  induction groups with
  | nil => rfl
  | cons g rest ih =>
      rw [add]
      by_cases here : g.1 = hasClass
      · rw [if_pos here, Keyed.get?_cons, Keyed.get?_cons, here]
        split <;> rfl
      · rw [if_neg here, Keyed.get?_cons, Keyed.get?_cons, ih]
        by_cases other : g.1 = name
        · have apart : hasClass ≠ name := fun same => here (other.trans same.symm)
          rw [if_pos other, if_neg apart, if_pos other]
        · rw [if_neg other, if_neg other]

theorem mem_names_add_iff {groups : Groups} {hasClass : String} {e : Json} {name : String} :
    name ∈ Keyed.names (groups.add hasClass e) ↔ name = hasClass ∨ name ∈ Keyed.names groups := by
  by_cases here : hasClass = name
  · have found : Keyed.get? (groups.add hasClass e) name ≠ none := by
      rw [get?_add, if_pos here]
      exact nofun
    exact ⟨fun _ => .inl here.symm, fun _ => Decidable.not_not.mp (Keyed.get?_eq_none_iff.not.mp found)⟩
  · have same : Keyed.get? (groups.add hasClass e) name = Keyed.get? groups name := by
      rw [get?_add, if_neg here]
    have absent : Keyed.get? (groups.add hasClass e) name = none ↔ _ := Keyed.get?_eq_none_iff
    rw [same, Keyed.get?_eq_none_iff] at absent
    rw [← not_iff_not, not_or, ← absent]
    exact ⟨fun gone => ⟨fun same => here same.symm, gone⟩, And.right⟩

theorem nodup_names_add {groups : Groups} (distinct : (Keyed.names groups).Nodup) (hasClass : String) (e : Json) :
    (Keyed.names (groups.add hasClass e)).Nodup := by
  induction groups with
  | nil => exact List.nodup_singleton hasClass
  | cons g rest ih =>
      have parts := List.nodup_cons.mp distinct
      rw [add]
      by_cases here : g.1 = hasClass
      · rw [if_pos here]
        exact distinct
      · rw [if_neg here]
        refine List.nodup_cons.mpr ⟨fun member => ?_, ih parts.2⟩
        rcases mem_names_add_iff.mp member with same | later
        · exact here same
        · exact parts.1 later

def ofEntries (start : Groups) (entries : List (String × Json)) : Groups :=
  entries.foldl (fun acc e => acc.add e.1 e.2) start

theorem nodup_names_ofEntries {start : Groups} (distinct : (Keyed.names start).Nodup)
    (entries : List (String × Json)) : (Keyed.names (ofEntries start entries)).Nodup := by
  induction entries generalizing start with
  | nil => exact distinct
  | cons e rest ih => exact ih (nodup_names_add distinct e.1 e.2)

/-- Under a class stand the entries of that class, in the order in which they stood. -/
theorem get?_ofEntries (start : Groups) (entries : List (String × Json)) (name : String) :
    Keyed.get? (ofEntries start entries) name =
      if (entries.filter fun e => e.1 == name) = [] then Keyed.get? start name
      else some ((Keyed.get? start name).getD [] ++ (entries.filter fun e => e.1 == name).map (·.2)) := by
  induction entries generalizing start with
  | nil => rfl
  | cons e rest ih =>
      have step := ih (start.add e.1 e.2)
      rw [get?_add] at step
      rw [List.filter_cons]
      by_cases here : e.1 = name
      · rw [if_pos here] at step
        rw [if_pos (beq_iff_eq.mpr here), if_neg (List.cons_ne_nil _ _)]
        refine step.trans ?_
        split
        · rename_i noneBehind
          rw [noneBehind]
          rfl
        · rw [Option.getD_some, List.map_cons, List.append_assoc]
          rfl
      · rw [if_neg here] at step
        rw [if_neg (fun same => here (beq_iff_eq.mp same))]
        exact step

end Groups

/-! ## Individuals with their fragments spread -/

abbrev isFragmentField (name : String) : Bool := (Vocabulary.fragmentFields.map (·.1)).contains name

/-- The fragments of a class, among those of all fields. -/
def ofClass (pieces : List Piece) (name : String) : List Piece := pieces.filter fun q => q.hasClass == name

theorem sorted_spread (fields : Fields) (sorted : Keyed.Sorted fields) : Keyed.Sorted (spread fields) :=
  (sorted.filter _).insertAll _

/-- Under a class stand its fragments; of the fields, those for fragments are gone. -/
theorem get?_spread (d : ItemData) (name : String) :
    Keyed.get? (spread d.fields) name =
      (Writing.unlessEmpty Piece.entry (ofClass d.pieces name)).or
        (if isFragmentField name then none else d.fields.get? name) := by
  have distinct : (Keyed.names (Groups.ofEntries [] (entries d.fields))).Nodup :=
    Groups.nodup_names_ofEntries (show (Keyed.names ([] : Groups)).Nodup from List.nodup_nil) _
  have asArrays : ∀ groups : Groups, Keyed.names (groups.map fun g => (g.1, Json.array g.2)) = Keyed.names groups := by
    intro groups
    rw [Keyed.names, Keyed.names, List.map_map]
    rfl
  have of_class : ((entries d.fields).filter fun e => e.1 == name) =
      (ofClass d.pieces name).map fun q => (q.hasClass, q.entry) := by
    rw [entries_fields, List.filter_map]
    rfl
  change Keyed.get? (Keyed.insertAll (d.fields.filter fun f => !isFragmentField f.1)
    ((Groups.ofEntries [] (entries d.fields)).map fun g => (g.1, Json.array g.2))) name = _
  rw [Keyed.get?_insertAll_of_nodup _ ((asArrays _).symm ▸ distinct), Keyed.get?_map _ fun _ g => Json.array g,
    Groups.get?_ofEntries, of_class, Keyed.get?_filter d.fields fun name => !isFragmentField name]
  congr 1
  · cases ofClass d.pieces name with
    | nil => rfl
    | cons q rest =>
        rw [List.map_cons, if_neg (List.cons_ne_nil _ _), List.map_cons, List.map_map]
        rfl
  · cases isFragmentField name <;> rfl

/-! ## Fragments as they are written -/

/-- A property under its class is a literal. -/
theorem toLinked_entry_property (p : PropertyValue) :
    toLinked.run (entry .propertyValue (Writing.embeddedProperty p)) =
      .object ((p.lang.map fun lang => ("@language", Json.string lang)).toList ++ [("@value", .string p.value)]) := by
  have linked : "@language" < "@value" := by decide
  rw [entry, if_pos rfl, Writing.embeddedProperty_eq]
  rcases p with ⟨hasClass, value, _ | lang⟩
  · rfl
  · change toLinked.run (.ofFields [("@value", .string value), ("@language", .string lang)]) = _
    rw [Json.ofFields, Keyed.ofList_swapped linked, toLinked_object]
    change Json.ofFields [("@language", .string lang), ("@value", .string value)] = _
    rw [Json.ofFields, Keyed.ofList_pair linked]
    rfl

/-- A link under its class is a reference that says which kind of link it is. -/
theorem toLinked_entry_link (l : LinkValue) (kind : Kind) (isLink : kind ≠ .propertyValue) :
    toLinked.run (entry kind (Writing.embeddedLink l)) =
      .object [("@id", .string l.idRef), ("pig:itemType", .object [("@id", .string kind.tag)])] := by
  have linked : "@id" < "pig:itemType" := by decide
  rw [entry, if_neg isLink, Writing.embeddedLink_eq]
  change toLinked.run (.ofFields [("@id", .string l.idRef),
    ("pig:itemType", .object [("@id", .string kind.tag)])]) = _
  rw [Json.ofFields, Keyed.ofList_pair linked, toLinked_object]
  change Json.ofFields [("@id", .string l.idRef), ("pig:itemType", .object [("@id", .string kind.tag)])] = _
  rw [Json.ofFields, Keyed.ofList_pair linked]

/-! ## Fragments read again -/

/-- A fragment as it is read under its class. -/
def reread (q : Piece) : Json := toFields.run (toLinked.run q.entry)

theorem reread_property (p : PropertyValue) :
    reread (.property p) =
      .object ((p.lang.map fun lang => ("lang", Json.string lang)).toList ++ [("value", .string p.value)]) := by
  have linked : "@language" < "@value" := by decide
  have own : "lang" < "value" := by decide
  rw [reread, Piece.entry, toLinked_entry_property]
  rcases p with ⟨hasClass, value, _ | lang⟩
  · rfl
  · change toFields.run (.object [("@language", .string lang), ("@value", .string value)]) = _
    rw [toFields_object]
    change Json.ofFields [("lang", .string lang), ("value", .string value)] = _
    rw [Json.ofFields, Keyed.ofList_pair own]
    rfl

theorem reread_link (l : LinkValue) (kind : Kind) (isLink : kind ≠ .propertyValue) :
    toFields.run (toLinked.run (entry kind (Writing.embeddedLink l))) =
      .object [("id", .string l.idRef), ("itemType", .object [("id", .string kind.tag)])] := by
  have own : "id" < "itemType" := by decide
  rw [toLinked_entry_link l kind isLink, toFields_object]
  change Json.ofFields [("id", .string l.idRef), ("itemType", .object [("id", .string kind.tag)])] = _
  rw [Json.ofFields, Keyed.ofList_pair own]

/-- From what is read under a class, the fragment and its field are found again. -/
theorem fragment?_reread (q : Piece) : fragment? q.hasClass (reread q) = some (q.field, q.own) := by
  cases q with
  | property p =>
      rw [reread_property]
      rcases p with ⟨hasClass, value, _ | lang⟩ <;> rfl
  | source l =>
      have read : reread (.source l) = _ := reread_link l .sourceLinkValue nofun
      rw [read]
      rfl
  | target l =>
      have read : reread (.target l) = _ := reread_link l .targetLinkValue nofun
      rw [read]
      rfl

/-! ## Fragments moved to their fields -/

/-- A fragment is put behind those that its field holds already. -/
theorem get?_addFragment {fields : Fields} (field : String) (fragment : Json) {name : String} {held : List Json}
    (holds : fields.get? name = Writing.unlessEmpty id held) :
    (addFragment fields field fragment).get? name =
      Writing.unlessEmpty id (if field = name then held ++ [fragment] else held) := by
  by_cases here : field = name
  · subst here
    rw [if_pos rfl, addFragment]
    cases held with
    | nil =>
        rw [show fields.get? field = none from holds]
        exact Keyed.get?_insert_self _ _ _
    | cons first rest =>
        rw [show fields.get? field = some (.array ((first :: rest).map id)) from holds]
        simp only [Keyed.get?_insert_self, Writing.unlessEmpty]
        simp
  · have apart : name ≠ field := fun same => here same.symm
    rw [if_neg here, addFragment]
    split <;> exact (Keyed.get?_insert_ne _ _ apart).trans holds

theorem sorted_addFragment {fields : Fields} (sorted : Keyed.Sorted fields) (field : String) (fragment : Json) :
    Keyed.Sorted (addFragment fields field fragment) := by
  rw [addFragment]
  split <;> exact sorted.insert _ _

/-- The fields with all of some fragments. -/
def addFragments (fields : Fields) (added : List (String × Json)) : Fields :=
  added.foldl (fun acc f => addFragment acc f.1 f.2) fields

theorem sorted_addFragments {fields : Fields} (sorted : Keyed.Sorted fields) (added : List (String × Json)) :
    Keyed.Sorted (addFragments fields added) := by
  induction added generalizing fields with
  | nil => exact sorted
  | cons f rest ih => exact ih (sorted_addFragment sorted f.1 f.2)

/-- A field holds what it held, and behind it the fragments that belong to it, in their order. -/
theorem get?_addFragments {fields : Fields} {name : String} {held : List Json}
    (holds : fields.get? name = Writing.unlessEmpty id held) (added : List (String × Json)) :
    (addFragments fields added).get? name =
      Writing.unlessEmpty id (held ++ (added.filter fun f => f.1 == name).map (·.2)) := by
  induction added generalizing fields held with
  | nil => simpa [addFragments] using holds
  | cons f rest ih =>
      have step := ih (get?_addFragment f.1 f.2 holds)
      refine step.trans (congrArg (Writing.unlessEmpty id) ?_)
      rw [List.filter_cons]
      by_cases here : f.1 = name
      · rw [if_pos here, if_pos (beq_iff_eq.mpr here), List.map_cons, List.append_assoc]
        rfl
      · rw [if_neg here, if_neg (fun same => here (beq_iff_eq.mp same))]

/-- Fields that no fragment belongs to stay as they are. -/
theorem get?_addFragments_of_ne {name : String} {added : List (String × Json)} (apart : ∀ f ∈ added, f.1 ≠ name)
    (fields : Fields) : (addFragments fields added).get? name = fields.get? name := by
  induction added generalizing fields with
  | nil => rfl
  | cons f rest ih =>
      have front := apart f List.mem_cons_self
      refine (ih (fun g later => apart g (List.mem_cons_of_mem _ later)) _).trans ?_
      change (addFragment fields f.1 f.2).get? name = _
      rw [addFragment]
      split <;> exact Keyed.get?_insert_ne _ _ front.symm

end JsonLd
end ProductGraph
