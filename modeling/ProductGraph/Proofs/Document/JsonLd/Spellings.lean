import ProductGraph.Proofs.Document.JsonLd.Carried
import ProductGraph.Proofs.Document.JsonLd.Null

namespace ProductGraph

/-!
# Two spellings of fragments

Linked data may hold the fragments of an individual under the names of their classes, or in the three fields that
items have for them, each with a reference to its class.  The two go different ways: what stands under a class is made a
fragment before anything is brought to normal form, what stands in a field is a fragment already, with other names and
its references wrapped.  They come to the same fragments.  Only the order may differ, since classes are read in the order
of their names and the fields as they stand.
-/

open JsonLd (isFragmentField isFragmentClass ownName ownFields toFields linkedName)

/-- An identifier is no bare name. -/
theorem isBareName_of_isIdentifier {s : String} (names : isIdentifier s = true) : isBareName s = false := by
  apply Normal.isBareName_of_colon
  rw [isIdentifier, Bool.or_eq_true] at names
  rcases names with term | uri
  · cases spelled : s.toList with
    | nil =>
        rw [spelled] at term
        cases term
    | cons c rest =>
        rw [spelled, Identifier.isTerm, Bool.and_eq_true] at term
        have after := term.2
        split at after
        · rename_i found
          have colon : ':' ∈ rest.dropWhile Identifier.isNameChar := found ▸ List.mem_cons_self
          exact List.mem_cons_of_mem _ ((List.dropWhile_sublist _).mem colon)
        · cases after
  · cases spelled : s.toList with
    | nil =>
        rw [spelled] at uri
        cases uri
    | cons c rest =>
        rw [spelled, Identifier.isUri, Bool.and_eq_true] at uri
        have after := uri.2
        split at after
        · rename_i found
          have colon : ':' ∈ rest.dropWhile Identifier.isSchemeChar := found ▸ List.mem_cons_self
          exact List.mem_cons_of_mem _ ((List.dropWhile_sublist _).mem colon)
        · cases after

/-! ## Spellings of one fragment -/

namespace Piece

/-- A reference as linked data wraps it. -/
def reference (s : String) : Json := .object [("@id", .string s)]

def languageField (lang : Option String) : Fields := (lang.map fun lang => ("@language", Json.string lang)).toList

/-- How a fragment may stand under the name of its class.  The value of a property is a text, a number or a truth value
and stands for itself or in a literal; a link that says nothing of its kind leads to a target. -/
inductive UnderClass : Piece → Json → Prop
  | bare (hasClass : String) {value : Json} {text : String} (is : value.scalarText? = some text) :
      UnderClass (.property ⟨hasClass, text, none⟩) value
  | literal (hasClass : String) {value : Json} {text : String} (is : value.scalarText? = some text)
      (lang : Option String) :
      UnderClass (.property ⟨hasClass, text, lang⟩) (.object (languageField lang ++ [("@value", value)]))
  | source (hasClass target : String) :
      UnderClass (.source ⟨hasClass, target⟩)
        (.object [("@id", .string target), ("pig:itemType", reference Kind.sourceLinkValue.tag)])
  | target (hasClass target : String) :
      UnderClass (.target ⟨hasClass, target⟩)
        (.object [("@id", .string target), ("pig:itemType", reference Kind.targetLinkValue.tag)])
  | plainTarget (hasClass target : String) :
      UnderClass (.target ⟨hasClass, target⟩) (.object [("@id", .string target)])

/-- Where a link leads, wrapped or as it is. -/
inductive Leads (target : String) : Json → Prop
  | wrapped : Leads target (reference target)
  | asItIs : Leads target (.string target)

/-- How a fragment may stand in the field for fragments of its sort. -/
inductive InField : Piece → Json → Prop
  | property (hasClass : String) {value : Json} {text : String} (is : value.scalarText? = some text)
      (lang : Option String) :
      InField (.property ⟨hasClass, text, lang⟩)
        (.object (languageField lang ++ [("@value", value), ("pig:hasClass", reference hasClass)]))
  | source (hasClass : String) {target : String} {spelled : Json} (leads : Leads target spelled) :
      InField (.source ⟨hasClass, target⟩) (.object [("pig:hasClass", reference hasClass), ("pig:idRef", spelled)])
  | target (hasClass : String) {target : String} {spelled : Json} (leads : Leads target spelled) :
      InField (.target ⟨hasClass, target⟩) (.object [("pig:hasClass", reference hasClass), ("pig:idRef", spelled)])

end Piece

/-- A fragment with its two spellings.  Its class can stand as a name in linked data. -/
structure Spelling where
  piece : Piece
  entry : Json
  own : Json
  underClass : piece.UnderClass entry
  inField : piece.InField own
  names : isIdentifier piece.hasClass = true
  free : Vocabulary.fieldOfLinked? piece.hasClass = none

namespace Spelling

def hasClass (s : Spelling) : String := s.piece.hasClass

def field (s : Spelling) : String := s.piece.field

def normal (options : ReadingOptions) (s : Spelling) : Json := Normal.fragment options s.piece.own

theorem isFragmentClass_hasClass (s : Spelling) : isFragmentClass s.hasClass = true := by
  rw [isFragmentClass, hasClass, JsonLd.isField_of_isIdentifier s.names, s.names]
  rfl

theorem ownName_hasClass (s : Spelling) : ownName s.hasClass = s.hasClass := by
  rw [ownName, hasClass, s.free]
  rfl

/-! ## Spellings read -/

/-- Walks that change objects alone leave texts, numbers and truth values alone. -/
theorem run_of_scalarText? {w : Walk} (same : ∀ v, w.scalar v = v) {value : Json} {text : String}
    (is : value.scalarText? = some text) : w.run value = value := by
  cases value with
  | null | array | object => cases is
  | bool | number | string => exact same _

theorem toFields_of_scalarText? {value : Json} {text : String} (is : value.scalarText? = some text) :
    toFields.run value = value := run_of_scalarText? (fun _ => rfl) is

theorem unwrapping_of_scalarText? {value : Json} {text : String} (is : value.scalarText? = some text) :
    Normal.unwrapping.run value = value := run_of_scalarText? (fun _ => rfl) is

/-- A literal is read with its own names. -/
theorem toFields_literal {value : Json} {text : String} (is : value.scalarText? = some text) (lang : Option String) :
    toFields.run (.object (Piece.languageField lang ++ [("@value", value)])) =
      .object ((lang.map fun lang => ("lang", Json.string lang)).toList ++ [("value", value)]) := by
  have order : "lang" < "value" := by decide
  rw [JsonLd.toFields_object]
  cases lang with
  | none =>
      change Json.ofFields [("value", toFields.run value)] = _
      rw [toFields_of_scalarText? is]
      rfl
  | some lang =>
      change Json.ofFields [("lang", .string lang), ("value", toFields.run value)] = _
      rw [toFields_of_scalarText? is, Json.ofFields, Keyed.ofList_pair order]
      rfl

theorem toFields_property {hasClass text : String} {value : Json} (is : value.scalarText? = some text)
    (lang : Option String) :
    toFields.run (.object (Piece.languageField lang ++
        [("@value", value), ("pig:hasClass", Piece.reference hasClass)])) =
      .object (("hasClass", .object [("id", .string hasClass)]) ::
        ((lang.map fun lang => ("lang", Json.string lang)).toList ++ [("value", value)])) := by
  have first : "hasClass" < "value" := by decide
  have second : "hasClass" < "lang" := by decide
  have third : "lang" < "value" := by decide
  rw [JsonLd.toFields_object]
  cases lang with
  | none =>
      change Json.ofFields [("value", toFields.run value), ("hasClass", .object [("id", .string hasClass)])] = _
      rw [toFields_of_scalarText? is, Json.ofFields, Keyed.ofList_swapped first]
      rfl
  | some lang =>
      change Json.ofFields [("lang", .string lang), ("value", toFields.run value),
        ("hasClass", .object [("id", .string hasClass)])] = _
      rw [toFields_of_scalarText? is, Json.ofFields]
      simp [Keyed.ofList, Keyed.insertAll, Keyed.insert_nil, Keyed.insert_above third, Keyed.insert_below second]

theorem toFields_link {hasClass : String} (spelled : Json) :
    toFields.run (.object [("pig:hasClass", Piece.reference hasClass), ("pig:idRef", spelled)]) =
      .object [("hasClass", .object [("id", .string hasClass)]), ("idRef", toFields.run spelled)] := by
  have order : "hasClass" < "idRef" := by decide
  rw [JsonLd.toFields_object]
  change Json.ofFields [("hasClass", .object [("id", .string hasClass)]), ("idRef", toFields.run spelled)] = _
  rw [Json.ofFields, Keyed.ofList_pair order]

theorem toFields_target (target tag : String) :
    toFields.run (.object [("@id", .string target), ("pig:itemType", Piece.reference tag)]) =
      .object [("id", .string target), ("itemType", .object [("id", .string tag)])] := by
  have order : "id" < "itemType" := by decide
  rw [JsonLd.toFields_object]
  change Json.ofFields [("id", .string target), ("itemType", .object [("id", .string tag)])] = _
  rw [Json.ofFields, Keyed.ofList_pair order]

/-- What stands under a class is read as the fragment. -/
theorem fragment?_entry (s : Spelling) :
    JsonLd.fragment? s.hasClass (toFields.run s.entry) = some (s.field, s.piece.own) := by
  rcases s with ⟨piece, entry, own, underClass, _, _, _⟩
  cases underClass with
  | @bare hasClass _ text is =>
      rw [toFields_of_scalarText? is]
      cases entry with
      | null | array | object => cases is
      | bool | number | string =>
          cases is
          rfl
  | @literal hasClass value text is lang =>
      rw [toFields_literal is]
      change JsonLd.fragment? hasClass _ = some ("hasProperty", Writing.embeddedProperty ⟨hasClass, text, lang⟩)
      rcases lang with _ | lang <;>
        simp only [JsonLd.fragment?, JsonLd.literalFields, Option.map_none, Option.map_some, Option.toList_none,
          Option.toList_some, List.nil_append, List.singleton_append] <;>
        simp [Keyed.get?, is, Json.text?] <;> rfl
  | source hasClass target =>
      rw [toFields_target]
      rfl
  | target hasClass target =>
      rw [toFields_target]
      rfl
  | plainTarget hasClass target => rfl

theorem unwrapping_of_leads {target : String} {spelled : Json} (leads : Piece.Leads target spelled) :
    Normal.unwrapping.run (toFields.run spelled) = .string target := by
  cases leads with
  | wrapped => rfl
  | asItIs => rfl

theorem unwrapping_own (s : Spelling) : Normal.unwrapping.run s.piece.own = s.piece.own := by
  cases s.piece with
  | property p => exact Normal.unwrapping_embeddedProperty p
  | source l => exact Normal.unwrapping_embeddedLink l
  | target l => exact Normal.unwrapping_embeddedLink l

/-- What stands in a field comes to the same normal form. -/
theorem fragment_own (options : ReadingOptions) (s : Spelling) :
    Normal.fragment options (Normal.unwrapping.run (toFields.run s.own)) = s.normal options := by
  rcases s with ⟨piece, entry, own, _, inField, _, _⟩
  cases inField with
  | @property hasClass value text is lang =>
      change Normal.fragment options _ = Normal.fragment options (Writing.embeddedProperty ⟨hasClass, text, lang⟩)
      rw [toFields_property is, Walk.run_object, Writing.embeddedProperty_eq]
      have value_eq := unwrapping_of_scalarText? is
      have own_eq : Json.scalarText? (.string text) = some text := rfl
      rcases lang with _ | lang
      · change Normal.fragment options (.object [("hasClass", .string hasClass), ("value", Normal.unwrapping.run value)]) = _
        rw [value_eq]
        simp [Normal.fragment, Normal.fragmentField?, is, own_eq]
      · change Normal.fragment options (.object [("hasClass", .string hasClass), ("lang", .string lang),
          ("value", Normal.unwrapping.run value)]) = _
        rw [value_eq]
        simp [Normal.fragment, Normal.fragmentField?, is, own_eq]
  | @source hasClass target spelled leads =>
      change Normal.fragment options _ = Normal.fragment options (Writing.embeddedLink ⟨hasClass, target⟩)
      rw [toFields_link, Walk.run_object, Writing.embeddedLink_eq, List.map_cons, List.map_cons, unwrapping_of_leads leads]
      rfl
  | @target hasClass target spelled leads =>
      change Normal.fragment options _ = Normal.fragment options (Writing.embeddedLink ⟨hasClass, target⟩)
      rw [toFields_link, Walk.run_object, Writing.embeddedLink_eq, List.map_cons, List.map_cons, unwrapping_of_leads leads]
      rfl

/-- The class of a fragment in normal form is the one that it had. -/
theorem textField?_normal (options : ReadingOptions) (s : Spelling) :
    (s.normal options).textField? "hasClass" = some s.hasClass := by
  have same : Normal.inNamespace options.classNamespace s.hasClass = s.hasClass := by
    rw [Normal.inNamespace, hasClass, isBareName_of_isIdentifier s.names]
    rfl
  rcases s with ⟨piece, entry, own, _, _, _, _⟩
  have class_eq : Normal.onTexts (Normal.inNamespace options.classNamespace) (Normal.plain (.string piece.hasClass)) =
      .string piece.hasClass := congrArg Json.string same
  cases piece with
  | property p =>
      rcases p with ⟨c, value, _ | lang⟩ <;>
        simp only [normal, Piece.own, Writing.embeddedProperty_eq] <;> exact congrArg Json.text? class_eq
  | source l =>
      simp only [normal, Piece.own, Writing.embeddedLink_eq]
      exact congrArg Json.text? class_eq
  | target l =>
      simp only [normal, Piece.own, Writing.embeddedLink_eq]
      exact congrArg Json.text? class_eq

end Spelling

/-! ## Individuals in both spellings -/

namespace JsonLd

/-- Fragments in groups: for each key that some of them have, an array of what is written for them in their order. -/
def grouped (keys : List String) (named : String → String) (key : Spelling → String) (write : Spelling → Json)
    (list : List Spelling) : List (String × Json) :=
  keys.filterMap fun k => (Writing.unlessEmpty write (list.filter fun s => key s == k)).map fun v => (named k, v)

/-- An individual with fragments under the names of their classes. -/
def underClasses (given : Fields) (list : List Spelling) : Fields :=
  given.insertAll (grouped (list.map Spelling.hasClass).dedup id Spelling.hasClass Spelling.entry list)

/-- An individual with fragments in the fields for fragments of their sorts. -/
def inFields (given : Fields) (list : List Spelling) : Fields :=
  given.insertAll (grouped (Vocabulary.fragmentFields.map (·.1)) linkedName Spelling.field Spelling.own list)

/-- An individual of linked data that says of which kind it is and holds no fragments. -/
structure Unfilled (kind : Kind) (given : Fields) : Prop where
  sorted : Keyed.Sorted given
  individual : kind.isIndividual = true
  declares : given.get? "pig:itemType" = some (Piece.reference kind.tag)
  emptyFields : ∀ f ∈ given, isFragmentField (ownName f.1) = true → f.2 = .array []
  emptyClasses : ∀ f ∈ given, isFragmentClass (ownName f.1) = true → ∀ v ∈ Normal.itemsOf f.2, v = .null

/-- The class that a fragment in normal form names. -/
def classOf (v : Json) : String := (v.textField? "hasClass").getD ""

/-- The items of an array in the order of their classes. -/
def sortedByClass (v : Json) : Json :=
  match v with
  | .array list => .array (byName classOf list)
  | _ => v

/-- An item with its fragments in the order of their classes. -/
def inClassOrder (v : Json) : Json :=
  match v with
  | .object fields => .object (fields.map fun f => (f.1, if isFragmentField f.1 then sortedByClass f.2 else f.2))
  | _ => v

/-! ## Groups -/

section Groups

variable {keys : List String} {named : String → String} {key : Spelling → String} {write : Spelling → Json}
  {list : List Spelling}

/-- What is written for the fragments of a key is found under it. -/
theorem get?_grouped (covered : ∀ s ∈ list, key s ∈ keys) (name : String) :
    Keyed.get? (grouped keys id key write list) name =
      Writing.unlessEmpty write (list.filter fun s => key s == name) := by
  have inKeys : Keyed.get? (grouped keys id key write list) name =
      if name ∈ keys then Writing.unlessEmpty write (list.filter fun s => key s == name) else none := by
    clear covered
    induction keys with
    | nil => rfl
    | cons k rest ih =>
        simp only [grouped, id_eq] at ih ⊢
        rw [List.filterMap_cons]
        by_cases here : k = name
        · subst here
          cases made : Writing.unlessEmpty write (list.filter fun s => key s == k) with
          | none => simp [ih, made]
          | some v => simp
        · have same : name ∈ k :: rest ↔ name ∈ rest := by
            rw [List.mem_cons]
            exact ⟨fun either => either.resolve_left (Ne.symm here), Or.inr⟩
          cases Writing.unlessEmpty write (list.filter fun s => key s == k) with
          | none => simp [ih, same]
          | some v => simp [here, ih, same]
  rw [inKeys]
  split
  · rfl
  · rename_i outside
    have nobody : (list.filter fun s => key s == name) = [] :=
      List.filter_eq_nil_iff.mpr fun s member same => outside (beq_iff_eq.mp same ▸ covered s member)
    rw [nobody]
    rfl

theorem names_grouped_sublist : (Keyed.names (grouped keys id key write list)).Sublist keys := by
  induction keys with
  | nil => exact List.Sublist.refl _
  | cons k rest ih =>
      rw [grouped] at ih ⊢
      rw [List.filterMap_cons]
      cases Writing.unlessEmpty write (list.filter fun s => key s == k) with
      | none => exact ih.cons k
      | some v => exact ih.cons_cons k

/-- Groups under their own names. -/
theorem map_grouped (own : ∀ k ∈ keys, ownName (named k) = k) :
    (grouped keys named key write list).map (fun f => (ownName f.1, toFields.run f.2)) =
      grouped keys id key (fun s => toFields.run (write s)) list := by
  rw [grouped, grouped, List.map_filterMap]
  refine List.filterMap_congr fun k member => ?_
  cases list.filter fun s => key s == k with
  | nil => rfl
  | cons s rest =>
      simp only [Writing.unlessEmpty, List.isEmpty_cons, Bool.false_eq_true, if_false, Option.map_some, own k member,
        Walk.run_array, List.map_map]
      rfl

/-- An object with groups put into it holds under each key what is written for its fragments, or what it held
before. -/
theorem get?_ownFields_grouped {given : Fields} (sorted : Keyed.Sorted given) (distinct : keys.Nodup)
    (own : ∀ k ∈ keys, ownName (named k) = k)
    (last : ∀ k ∈ keys, ∀ other, ownName other = k → other ≤ named k) (covered : ∀ s ∈ list, key s ∈ keys)
    (name : String) :
    (ownFields (given.insertAll (grouped keys named key write list))).get? name =
      (Writing.unlessEmpty (fun s => toFields.run (write s)) (list.filter fun s => key s == name)).or
        ((ownFields given).get? name) := by
  have renamed : (grouped keys named key write list).map (fun f => (ownName f.1, toFields.run f.2)) =
      grouped keys id key (fun s => toFields.run (write s)) list := map_grouped own
  have sameNames : (grouped keys named key write list).map (fun f => ownName f.1) =
      Keyed.names (grouped keys id key (fun s => toFields.run (write s)) list) := by
    rw [← renamed, Keyed.names, List.map_map]
    rfl
  have nodup : (Keyed.names (grouped keys id key (fun s => toFields.run (write s)) list)).Nodup :=
    distinct.sublist names_grouped_sublist
  rw [ownFields_insertAll sorted (sameNames ▸ nodup), renamed, Keyed.get?_insertAll_of_nodup _ nodup,
    get?_grouped covered]
  intro f member other _ same
  rcases List.mem_filterMap.mp member with ⟨k, isKey, made⟩
  rcases Option.map_eq_some_iff.mp made with ⟨_, _, rfl⟩
  exact last k isKey other (same.trans (own k isKey))

end Groups

/-! ## Individuals read -/

variable {kind : Kind} {given : Fields} {list : List Spelling} {name : String}

/-- A name stands for itself, or for the field that it names in linked data. -/
theorem ownName_eq_or (name : String) :
    ownName name = name ∨ ∃ t ∈ Vocabulary.terms, t.linked = name ∧ t.field = ownName name := by
  cases found : Vocabulary.terms.find? fun t => t.linked == name with
  | none => exact .inl (by rw [ownName, Vocabulary.fieldOfLinked?, found]; rfl)
  | some t =>
      refine .inr ⟨t, List.mem_of_find?_eq_some found, by simpa using List.find?_some found, ?_⟩
      rw [ownName, Vocabulary.fieldOfLinked?, found]
      rfl

/-- Only the class itself comes to the name of a class. -/
theorem eq_of_ownName_eq_hasClass (s : Spelling) {other : String} (same : ownName other = s.hasClass) :
    other = s.hasClass := by
  rcases ownName_eq_or other with itself | ⟨t, member, _, field⟩
  · exact itself.symm.trans same
  · have known : Vocabulary.isField s.hasClass = true := by
      have all : ∀ t ∈ Vocabulary.terms, Vocabulary.isField t.field = true := by decide
      rw [← same, ← field]
      exact all t member
    rw [Spelling.hasClass, isField_of_isIdentifier s.names] at known
    cases known

/-- Of the names that come to a field, its own and that of linked data, the latter comes last. -/
theorem le_linkedName {field : String} (isOne : field ∈ ["itemType", "hasProperty", "hasSourceLink", "hasTargetLink"])
    {other : String} (same : ownName other = field) : other ≤ linkedName field := by
  have own : ∀ field ∈ ["itemType", "hasProperty", "hasSourceLink", "hasTargetLink"], field ≤ linkedName field := by
    decide
  have linked : ∀ t ∈ Vocabulary.terms, t.linked = linkedName t.field := by decide
  rcases ownName_eq_or other with itself | ⟨t, member, rfl, is⟩
  · rw [← itself, same]
    exact own field isOne
  · rw [linked t member, is, same]

theorem get?_ownFields_underClasses (unfilled : Unfilled kind given) (name : String) :
    (ownFields (underClasses given list)).get? name =
      (Writing.unlessEmpty (fun s => toFields.run s.entry) (list.filter fun s => s.hasClass == name)).or
        ((ownFields given).get? name) := by
  refine get?_ownFields_grouped unfilled.sorted (List.nodup_dedup _) ?_ ?_ ?_ name
  · intro k isKey
    rcases List.mem_map.mp (List.mem_dedup.mp isKey) with ⟨s, _, rfl⟩
    exact s.ownName_hasClass
  · intro k isKey other same
    rcases List.mem_map.mp (List.mem_dedup.mp isKey) with ⟨s, _, rfl⟩
    exact le_of_eq (eq_of_ownName_eq_hasClass s same)
  · exact fun s member => List.mem_dedup.mpr (List.mem_map_of_mem member)

theorem isFragmentField_field (s : Spelling) : isFragmentField s.field = true := by
  rcases s with ⟨_ | _ | _, _, _, _, _, _, _⟩ <;> rfl

theorem get?_ownFields_inFields (unfilled : Unfilled kind given) (name : String) :
    (ownFields (inFields given list)).get? name =
      (Writing.unlessEmpty (fun s => toFields.run s.own) (list.filter fun s => s.field == name)).or
        ((ownFields given).get? name) := by
  refine get?_ownFields_grouped unfilled.sorted (by decide) (by decide) ?_ ?_ name
  · exact fun field isField other same => le_linkedName (List.mem_cons_of_mem _ isField) same
  · exact fun s _ => List.contains_iff_mem.mp (isFragmentField_field s)

namespace Unfilled

/-- A field for fragments is missing or empty. -/
theorem get?_of_isFragmentField (unfilled : Unfilled kind given) (isFragments : isFragmentField name = true) :
    (ownFields given).get? name = none ∨ (ownFields given).get? name = some (.array []) := by
  cases found : (ownFields given).get? name with
  | none => exact .inl rfl
  | some v =>
      rcases exists_of_mem_ownFields (Keyed.mem_of_get? found) with ⟨f, inGiven, rfl, rfl⟩
      rw [unfilled.emptyFields f inGiven isFragments]
      exact .inr rfl

/-- Nothing but nulls stands under classes. -/
theorem nulls_of_isFragmentClass (unfilled : Unfilled kind given) (isClass : isFragmentClass name = true) {v : Json}
    (found : (ownFields given).get? name = some v) : ∀ item ∈ Normal.itemsOf v, item = .null := by
  rcases exists_of_mem_ownFields (Keyed.mem_of_get? found) with ⟨f, inGiven, rfl, rfl⟩
  rw [itemsOf_run (fun _ => rfl) fun _ => rfl]
  intro item member
  rcases List.mem_map.mp member with ⟨v, inItems, rfl⟩
  rw [unfilled.emptyClasses f inGiven isClass v inItems]
  rfl

/-- The kind is the one that is declared under the name of linked data. -/
theorem get?_itemType (unfilled : Unfilled kind given) :
    (ownFields given).get? "itemType" = some (.object [("id", .string kind.tag)]) :=
  Keyed.get?_ofList_map_of_last unfilled.sorted ownName (fun f => toFields.run f.2)
    (Keyed.mem_of_get? unfilled.declares) fun _ _ same => le_linkedName List.mem_cons_self same

end Unfilled

/-! ## Fragments gathered -/

/-- Where nothing but nulls stands under classes, there are no fragments. -/
theorem filterMap_fragment?_of_nulls {hasClass : String} {items : List Json} (nulls : ∀ v ∈ items, v = .null) :
    items.filterMap (fragment? hasClass) = [] := by
  rw [List.filterMap_eq_nil_iff]
  intro v member
  rw [nulls v member]
  rfl

/-- No fragment of a list has a class that is no class of fragments. -/
theorem filter_hasClass_eq_nil (noClass : isFragmentClass name = false) :
    (list.filter fun s => s.hasClass == name) = [] := by
  rw [List.filter_eq_nil_iff]
  intro s _ same
  rw [← beq_iff_eq.mp same, s.isFragmentClass_hasClass] at noClass
  cases noClass

/-- No fragment of a list belongs to another field. -/
theorem filter_field_eq_nil (noFragments : isFragmentField name = false) :
    (list.filter fun s => s.field == name) = [] := by
  rw [List.filter_eq_nil_iff]
  intro s _ same
  rw [← beq_iff_eq.mp same, isFragmentField_field s] at noFragments
  cases noFragments

/-- The fragments under classes are read class by class. -/
theorem fragments_underClasses (unfilled : Unfilled kind given) :
    fragments (ownFields (underClasses given list)) =
      (Keyed.names ((ownFields (underClasses given list)).filter fun f => isFragmentClass f.1)).flatMap fun name =>
        (list.filter fun s => s.hasClass == name).map fun s => (s.field, s.piece.own) := by
  rw [fragments, Keyed.names, List.flatMap_map]
  refine List.flatMap_congr fun f member => ?_
  rcases List.mem_filter.mp member with ⟨inFields, isClass⟩
  have found := Keyed.get?_of_mem (sorted_ownFields _).nodup inFields
  rw [get?_ownFields_underClasses unfilled] at found
  have each : ∀ s ∈ list.filter fun s => s.hasClass == f.1,
      (fragment? f.1 ∘ fun s => toFields.run s.entry) s = some (s.field, s.piece.own) := by
    intro s inClass
    rw [Function.comp_apply, ← beq_iff_eq.mp (List.mem_filter.mp inClass).2]
    exact s.fragment?_entry
  cases ofClass : list.filter fun s => s.hasClass == f.1 with
  | nil =>
      rw [ofClass] at found
      exact filterMap_fragment?_of_nulls (unfilled.nulls_of_isFragmentClass isClass found)
  | cons s rest =>
      have value : f.2 = .array ((s :: rest).map fun s => toFields.run s.entry) := by
        rw [ofClass] at found
        exact (Option.some.inj found).symm
      rw [value, Normal.itemsOf, List.filterMap_map, ← ofClass, List.filterMap_congr each, List.filterMap_eq_map']

/-- The fragments of a field come in the order of their classes. -/
theorem filter_fragments_underClasses (unfilled : Unfilled kind given) (field : String) :
    ((fragments (ownFields (underClasses given list))).filter fun f => f.1 == field).map (·.2) =
      (byName Spelling.hasClass (list.filter fun s => s.field == field)).map fun s => s.piece.own := by
  have ordered := (sorted_ownFields (underClasses given list)).filter fun f => isFragmentClass f.1
  have covered : ∀ s ∈ list.filter fun s => s.field == field,
      s.hasClass ∈ Keyed.names ((ownFields (underClasses given list)).filter fun f => isFragmentClass f.1) := by
    intro s member
    have inClass : s ∈ list.filter fun other => other.hasClass == s.hasClass :=
      List.mem_filter.mpr ⟨List.mem_of_mem_filter member, beq_self_eq_true _⟩
    have found : (ownFields (underClasses given list)).get? s.hasClass = _ :=
      get?_ownFields_underClasses unfilled s.hasClass
    rw [Writing.unlessEmpty_of_mem _ inClass] at found
    exact List.mem_map.mpr ⟨_, List.mem_filter.mpr ⟨Keyed.mem_of_get? found, s.isFragmentClass_hasClass⟩, rfl⟩
  rw [fragments_underClasses unfilled, List.filter_flatMap, List.map_flatMap,
    ← flatMap_filter_eq_byName ordered covered, List.map_flatMap]
  refine List.flatMap_congr fun name _ => ?_
  rw [List.filter_map, List.map_map, List.filter_filter, List.filter_filter]
  exact congrArg₂ List.map rfl (List.filter_congr fun s _ => Bool.and_comm _ _)

/-- An array has the fragments that belong to its field behind it. -/
theorem get?_addFragments_of_array {fields : Fields} {held : List Json} (holds : fields.get? name = some (.array held))
    (added : List (String × Json)) :
    (addFragments fields added).get? name =
      some (.array (held ++ (added.filter fun f => f.1 == name).map (·.2))) := by
  induction added generalizing fields held with
  | nil => simpa [addFragments] using holds
  | cons f rest ih =>
      by_cases here : f.1 = name
      · have step : (addFragment fields f.1 f.2).get? name = some (.array (held ++ [f.2])) := by
          rw [addFragment, here, holds]
          exact Keyed.get?_insert_self _ _ _
        refine (ih step).trans ?_
        rw [List.filter_cons, if_pos (beq_iff_eq.mpr here), List.map_cons, List.append_assoc, List.singleton_append]
      · have step : (addFragment fields f.1 f.2).get? name = some (.array held) := by
          rw [addFragment]
          split <;> exact (Keyed.get?_insert_ne _ _ (Ne.symm here)).trans holds
        refine (ih step).trans ?_
        rw [List.filter_cons, if_neg fun same => here (beq_iff_eq.mp same)]

/-- Fragments are put into a field that is missing or empty. -/
theorem get?_addFragments_of_empty {fields : Fields}
    (empty : fields.get? name = none ∨ fields.get? name = some (.array [])) (added : List (String × Json)) :
    (addFragments fields added).get? name =
      (Writing.unlessEmpty id ((added.filter fun f => f.1 == name).map (·.2))).or (fields.get? name) := by
  rcases empty with missing | empty
  · have holds : fields.get? name = Writing.unlessEmpty id [] := missing
    rw [get?_addFragments holds, missing, Option.or_none, List.nil_append]
  · rw [get?_addFragments_of_array empty, empty, List.nil_append]
    cases (added.filter fun f => f.1 == name).map (·.2) with
    | nil => rfl
    | cons v rest =>
        simp [Writing.unlessEmpty]

theorem isFragmentClass_of_isFragmentField (isFragments : isFragmentField name = true) :
    isFragmentClass name = false := by
  rw [isFragmentClass, isField_of_isFragmentField isFragments]
  rfl

/-- The fields for fragments hold those that stood under classes, in the order of these. -/
theorem get?_gathered_underClasses (unfilled : Unfilled kind given) (name : String) :
    (gathered (ownFields (underClasses given list))).get? name =
      if isFragmentClass name then none
      else (Writing.unlessEmpty (fun s => s.piece.own)
        (byName Spelling.hasClass (list.filter fun s => s.field == name))).or ((ownFields given).get? name) := by
  have before : Keyed.get? ((ownFields (underClasses given list)).filter fun f => !isFragmentClass f.1) name =
      if isFragmentClass name then none else (ownFields given).get? name := by
    rw [Keyed.get?_filter _ fun name => !isFragmentClass name, get?_ownFields_underClasses unfilled]
    cases noClass : isFragmentClass name with
    | false =>
        rw [filter_hasClass_eq_nil noClass]
        rfl
    | true => rfl
  cases isFragments : isFragmentField name with
  | true =>
      have noClass := isFragmentClass_of_isFragmentField isFragments
      rw [noClass, if_neg Bool.false_ne_true] at before ⊢
      have empty := before.symm ▸ unfilled.get?_of_isFragmentField isFragments
      refine (get?_addFragments_of_empty empty _).trans ?_
      rw [before, filter_fragments_underClasses unfilled, Writing.unlessEmpty_map]
      rfl
  | false =>
      refine (get?_addFragments_of_ne (ne_of_mem_fragments isFragments _) _).trans ?_
      rw [before, filter_field_eq_nil isFragments, byName_nil]
      rfl

/-- What stands in the fields for fragments stays there. -/
theorem get?_gathered_inFields (unfilled : Unfilled kind given) (name : String) :
    (gathered (ownFields (inFields given list))).get? name =
      if isFragmentClass name then none
      else (Writing.unlessEmpty (fun s => toFields.run s.own) (list.filter fun s => s.field == name)).or
        ((ownFields given).get? name) := by
  have nothing : fragments (ownFields (inFields given list)) = [] := by
    rw [fragments, List.flatMap_eq_nil_iff]
    intro f member
    rcases List.mem_filter.mp member with ⟨inThem, isClass⟩
    have noFragments : isFragmentField f.1 = false := by
      rw [Bool.eq_false_iff]
      intro isFragments
      rw [isFragmentClass_of_isFragmentField isFragments] at isClass
      cases isClass
    have found := Keyed.get?_of_mem (sorted_ownFields _).nodup inThem
    rw [get?_ownFields_inFields unfilled, filter_field_eq_nil noFragments] at found
    exact filterMap_fragment?_of_nulls (unfilled.nulls_of_isFragmentClass isClass found)
  rw [gathered, nothing, List.foldl_nil, Keyed.get?_filter _ fun name => !isFragmentClass name,
    get?_ownFields_inFields unfilled]
  cases isFragmentClass name <;> rfl

/-! ## Normal forms -/

/-- A field for fragments comes to the normal forms of the fragments that are written into it. -/
theorem bind_field?_unlessEmpty {options : ReadingOptions} (isFragments : isFragmentField name = true)
    {write : Spelling → Json}
    (reads : ∀ s, Normal.fragment options (Normal.unwrapping.run (write s)) = s.normal options)
    {held : Option Json} (empty : held = none ∨ held = some (.array [])) (list : List Spelling) :
    ((Writing.unlessEmpty write list).or held).bind (Normal.field? options (some kind) name) =
      (Writing.unlessEmpty (Spelling.normal options) list).or held := by
  cases list with
  | nil =>
      rcases empty with rfl | rfl
      · rfl
      · exact field?_fragments isFragments _
  | cons s rest =>
      have each : (Normal.fragment options ∘ Normal.unwrapping.run) ∘ write = Spelling.normal options := funext reads
      refine (field?_fragments isFragments _).trans ?_
      rw [Walk.run_array, Normal.itemsOf, List.map_map, List.map_map, each]
      rfl

/-- A list of fragments in normal form is put in the order of their classes. -/
theorem map_sortedByClass (options : ReadingOptions) {held : Option Json}
    (empty : held = none ∨ held = some (.array [])) (list : List Spelling) :
    ((Writing.unlessEmpty (Spelling.normal options) list).or held).map sortedByClass =
      (Writing.unlessEmpty (Spelling.normal options) (byName Spelling.hasClass list)).or held := by
  have classes : ∀ s : Spelling, classOf (s.normal options) = s.hasClass := by
    intro s
    rw [classOf, s.textField?_normal]
    rfl
  cases list with
  | nil =>
      rcases empty with rfl | rfl
      · rw [byName_nil]
        rfl
      · rw [byName_nil]
        exact congrArg (fun list => some (Json.array list)) (byName_nil classOf)
  | cons s rest =>
      have inOrder : s ∈ byName Spelling.hasClass (s :: rest) := (byName_perm _ _).mem_iff.mpr List.mem_cons_self
      rw [Writing.unlessEmpty_of_mem _ inOrder]
      change some (Json.array (byName classOf ((s :: rest).map (Spelling.normal options)))) = _
      rw [byName_map classes]
      rfl

/-- The value of an individual whose fragments stand under classes is the one of it with its fragments in their fields,
put in the order of their classes. -/
theorem fields_underClasses (options : ReadingOptions) (unfilled : Unfilled kind given) (list : List Spelling) :
    Json.object (Normal.fields options (some kind) (gathered (ownFields (underClasses given list)))) =
      inClassOrder (.object (Normal.fields options (some kind) (gathered (ownFields (inFields given list))))) := by
  have sortedUnder := sorted_gathered (sorted_ownFields (underClasses given list))
  have sortedIn := sorted_gathered (sorted_ownFields (inFields given list))
  refine congrArg Json.object ((sortedUnder.filterMap fun f => Normal.field? options (some kind) f.1 f.2).ext
    ((sortedIn.filterMap fun f => Normal.field? options (some kind) f.1 f.2).map _) fun name => ?_)
  refine (Normal.get?_fields_of_sorted sortedUnder name).trans ?_
  refine Eq.trans ?_ (Keyed.get?_map (Normal.fields options (some kind) (gathered (ownFields (inFields given list))))
    (fun name v => if isFragmentField name then sortedByClass v else v) name).symm
  rw [Normal.get?_fields_of_sorted sortedIn, get?_gathered_underClasses unfilled, get?_gathered_inFields unfilled]
  cases isFragments : isFragmentField name with
  | true =>
      have empty := unfilled.get?_of_isFragmentField isFragments
      have ofPiece : ∀ s : Spelling, Normal.fragment options (Normal.unwrapping.run s.piece.own) = s.normal options :=
        fun s => congrArg (Normal.fragment options) s.unwrapping_own
      rw [isFragmentClass_of_isFragmentField isFragments, if_neg Bool.false_ne_true, if_neg Bool.false_ne_true,
        bind_field?_unlessEmpty isFragments ofPiece empty,
        bind_field?_unlessEmpty isFragments (Spelling.fragment_own options) empty]
      exact (map_sortedByClass options empty _).symm
  | false =>
      rw [filter_field_eq_nil isFragments, byName_nil]
      exact Option.map_id'.symm

/-- The order of fragments does not matter to what an item says of its kind. -/
theorem ofJson_inClassOrder (v : Json) :
    DocumentItem.ofJson (inClassOrder v) = { DocumentItem.ofJson v with value := inClassOrder v } := by
  have declared : (inClassOrder v).textField? "itemType" = v.textField? "itemType" := by
    cases v with
    | object fields =>
        have found : (inClassOrder (.object fields)).field? "itemType" = (Keyed.get? fields "itemType").map id :=
          Keyed.get?_map fields (fun name v => if isFragmentField name then sortedByClass v else v) "itemType"
        rw [Json.textField?, found, Option.map_id]
        rfl
    | _ => rfl
  rw [DocumentItem.ofJson, declared]
  rfl

/-- An individual in which the kind is found is read as one of this kind. -/
theorem item_of_get?_itemType {options : ReadingOptions} {fields : Fields} (individual : kind.isIndividual = true)
    (declares : (ownFields fields).get? "itemType" = some (.object [("id", .string kind.tag)])) :
    item options (.object fields) =
      .ofJson (.object (Normal.fields options (some kind) (gathered (ownFields fields)))) := by
  have kind_eq : kindOf? (ownFields fields) = some kind := by
    rw [kindOf?, declares]
    exact Kind.ofTag?_tag kind
  rw [item_object, kind_eq, keptFields, Option.any_some, if_pos individual]

/-- An individual is read as the same whether its fragments stand under their classes or in the fields for them, except
that those under classes come in the order of these. -/
theorem item_underClasses (options : ReadingOptions) (unfilled : Unfilled kind given) (list : List Spelling) :
    (item options (.object (underClasses given list))).kind = some kind ∧
      (item options (.object (inFields given list))).kind = some kind ∧
      (item options (.object (underClasses given list))).value =
        inClassOrder (item options (.object (inFields given list))).value ∧
      ∀ field, isFragmentField field = true →
        (((item options (.object (inFields given list))).value.field? field).bind Json.items?).getD [] =
          (list.filter fun s => s.field == field).map (Spelling.normal options) := by
  have under : (ownFields (underClasses given list)).get? "itemType" = some (.object [("id", .string kind.tag)]) := by
    rw [get?_ownFields_underClasses unfilled, filter_hasClass_eq_nil rfl]
    exact unfilled.get?_itemType
  have inThem : (ownFields (inFields given list)).get? "itemType" = some (.object [("id", .string kind.tag)]) := by
    rw [get?_ownFields_inFields unfilled, filter_field_eq_nil rfl]
    exact unfilled.get?_itemType
  have sorted := sorted_gathered (sorted_ownFields (inFields given list))
  have isKind : (DocumentItem.ofJson
      (.object (Normal.fields options (some kind) (gathered (ownFields (inFields given list)))))).kind = some kind := by
    have kept : (gathered (ownFields (inFields given list))).get? "itemType" =
        some (.object [("id", .string kind.tag)]) :=
      (Document.Source.get?_gathered rfl rfl _).trans inThem
    have declared := Document.Source.declared_ofJson options (some kind) sorted fun declared inner found unwrapped => by
      cases kept.symm.trans found
      cases unwrapped
    rw [kept] at declared
    exact (congrArg (Option.bind · Kind.ofTag?) declared).trans (Kind.ofTag?_tag kind)
  rw [item_of_get?_itemType unfilled.individual under, item_of_get?_itemType unfilled.individual inThem,
    fields_underClasses options unfilled list, ofJson_inClassOrder]
  refine ⟨isKind, isKind, rfl, fun field isFragments => ?_⟩
  have empty := unfilled.get?_of_isFragmentField isFragments
  have found : (Json.object (Normal.fields options (some kind) (gathered (ownFields (inFields given list))))).field? field
      = (Writing.unlessEmpty (Spelling.normal options) (list.filter fun s => s.field == field)).or
        ((ownFields given).get? field) := by
    refine (Normal.get?_fields_of_sorted sorted field).trans ?_
    rw [get?_gathered_inFields unfilled, isFragmentClass_of_isFragmentField isFragments,
      if_neg Bool.false_ne_true, bind_field?_unlessEmpty isFragments (Spelling.fragment_own options) empty]
  refine (congrArg (fun v => (Option.bind v Json.items?).getD []) found).trans ?_
  cases list.filter fun s => s.field == field with
  | nil => rcases empty with missing | empty <;> simp [Writing.unlessEmpty, Json.items?, *]
  | cons s rest => rfl

/-! ## A relationship in both spellings -/

/-- A relationship that holds nothing yet. -/
def drives : Fields := [("@id", .string "d:drives"), ("pig:itemType", Piece.reference "pig:aRelationship")]

/-- A note in English, whether it holds, and where it leads from and to.  One class is that of a property and of a
link. -/
def driveSpellings : List Spelling :=
  [⟨.property ⟨"o:note", "slowly", some "en"⟩,
    .object [("@language", .string "en"), ("@value", .string "slowly")],
    .object [("@language", .string "en"), ("@value", .string "slowly"), ("pig:hasClass", Piece.reference "o:note")],
    .literal "o:note" rfl (some "en"), .property "o:note" rfl (some "en"), by decide, by decide⟩,
   ⟨.property ⟨"o:holds", "true", none⟩, .bool true,
    .object [("@value", .bool true), ("pig:hasClass", Piece.reference "o:holds")],
    .bare "o:holds" rfl, .property "o:holds" rfl none, by decide, by decide⟩,
   ⟨.source ⟨"o:holds", "pump"⟩,
    .object [("@id", .string "pump"), ("pig:itemType", Piece.reference "pig:aSourceLink")],
    .object [("pig:hasClass", Piece.reference "o:holds"), ("pig:idRef", .string "pump")],
    .source "o:holds" "pump", .source "o:holds" .asItIs, by decide, by decide⟩,
   ⟨.target ⟨"o:to", "d:wheel"⟩, .object [("@id", .string "d:wheel")],
    .object [("pig:hasClass", Piece.reference "o:to"), ("pig:idRef", Piece.reference "d:wheel")],
    .plainTarget "o:to" "d:wheel", .target "o:to" .wrapped, by decide, by decide⟩]

theorem unfilled_drives : Unfilled .relationshipInstance drives := by
  have plain : ∀ f ∈ drives, isFragmentField (ownName f.1) = false ∧ isFragmentClass (ownName f.1) = false := by decide
  have sorted : (Keyed.names drives).Pairwise (· < ·) := by decide
  refine ⟨sorted, rfl, rfl, fun f member isFragments => ?_, fun f member isClass => ?_⟩
  · rw [(plain f member).1] at isFragments
    cases isFragments
  · rw [(plain f member).2] at isClass
    cases isClass

/-- The drive has both properties and both links in both spellings. -/
theorem item_underClasses_drives :
    Unfilled .relationshipInstance drives ∧
      (item .standard (.object (underClasses drives driveSpellings))).kind = some .relationshipInstance ∧
      (item .standard (.object (underClasses drives driveSpellings))).value =
        inClassOrder (item .standard (.object (inFields drives driveSpellings))).value ∧
      ((((item .standard (.object (inFields drives driveSpellings))).value.field? "hasProperty").bind
        Json.items?).getD []).map classOf = ["o:note", "o:holds"] ∧
      ((((item .standard (.object (inFields drives driveSpellings))).value.field? "hasSourceLink").bind
        Json.items?).getD []).map (·.textField? "idRef") = [some "d:pump"] := by
  rcases item_underClasses .standard unfilled_drives driveSpellings with ⟨kind_eq, _, value_eq, items⟩
  refine ⟨unfilled_drives, kind_eq, value_eq, ?_, ?_⟩
  · rw [items "hasProperty" rfl]
    decide +kernel
  · rw [items "hasSourceLink" rfl]
    decide +kernel

end JsonLd
end ProductGraph
