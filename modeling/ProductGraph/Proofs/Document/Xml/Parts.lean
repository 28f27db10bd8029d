import ProductGraph.Proofs.Document.Xml.Children

namespace ProductGraph
namespace Xml

/-!
# Attributes, restrictions and fragments

Identifiers, references and the tag of a language are attributes.  What a property class says about the values of its
properties is a restriction, whose attributes and facets are texts.  Fragments are elements of their own kinds, and a
property value has its text inside its element.
-/

open Markup (Element Token ReadAs IsPlainName AttributesPlain standing)

section Scalars

variable {kind : Kind} {fields : Fields}

/-- Fields whose values are written as texts, wherever they stand. -/
def scalarFields : List String :=
  ["id", "hasClass", "specializes", "idRef", "lang", "datatype", "minCount", "maxCount", "maxLength", "pattern",
   "minInclusive", "maxInclusive"]

theorem scalar_of_get?_shapes {name : String} (member : name ∈ scalarFields) {shape : Shape}
    (named : kind.shapes.get? name = some shape) : shape ∈ [Shape.identifier, .text, .count, .number] := by
  have all : ∀ kind ∈ Kind.all, ∀ name ∈ scalarFields,
      (kind.shapes.get? name).all ([Shape.identifier, .text, .count, .number].contains ·) = true := by
    decide
  have here := all kind kind.mem_all name member
  rw [named] at here
  exact List.contains_iff_mem.mp here

theorem isVerbatim_of_scalarFields {name : String} (member : name ∈ scalarFields) : isVerbatim name = true := by
  have all : ∀ name ∈ scalarFields, isVerbatim name = true := by decide
  exact all name member

/-- The text of such a field is what is to be read; the greatest count has a spelling of its own. -/
theorem textOf?_eq (presents : Presents kind fields) {name : String} (member : name ∈ scalarFields)
    (other : name ≠ "maxCount") : (textOf? fields name).map .string = target fields name := by
  rw [textOf?, target]
  cases found : fields.get? name with
  | none => rfl
  | some v =>
      rcases presents.written _ (Keyed.mem_of_get? found) with ⟨shape, named, written⟩
      have scalar := scalar_of_get?_shapes member named
      cases written with
      | identifier | text =>
          exact (heard_string (isVerbatim_of_scalarFields member) _).symm
      | count | number =>
          simp only [Option.bind_some, Option.map_some, Json.scalarText?, heard, spelled, if_neg other]
      | identifiers | texts | textList | exactly | properties | links => exact absurd scalar (by simp)

theorem maxOccurs_eq (presents : Presents kind fields) :
    ((fields.get? "maxCount").map maxOccurs).map .string = target fields "maxCount" := by
  rw [target]
  cases found : fields.get? "maxCount" with
  | none => rfl
  | some v =>
      rcases presents.written _ (Keyed.mem_of_get? found) with ⟨shape, named, written⟩
      have scalar := scalar_of_get?_shapes (show "maxCount" ∈ scalarFields by decide) named
      cases written with
      | identifier | text | count | number => rfl
      | identifiers | texts | textList | exactly | properties | links => exact absurd scalar (by simp)

end Scalars

/-! ## Attributes -/

/-- The fields that attributes carry, with the names of these. -/
def attributeFields : List (String × String) :=
  [("id", "id"), ("hasClass", "hasClass"), ("specializes", "specializes"), ("idRef", "idRef"), ("lang", "xml:lang")]

theorem attributes_eq (fields : Fields) :
    attributes fields = attributeFields.filterMap fun a => (textOf? fields a.1).map fun value => (a.2, value) := rfl

theorem attributesPlain_of_sublist {attributes : List (String × String)} {names : List String}
    (used : (Keyed.names attributes).Sublist names) (plain : ∀ name ∈ names, IsPlainName name)
    (distinct : names.Nodup) : AttributesPlain attributes :=
  ⟨fun _ member => (plain _ (used.subset (List.mem_map_of_mem member))).isAttributeName, distinct.sublist used⟩

theorem attributesPlain_attributes (fields : Fields) : AttributesPlain (attributes fields) := by
  have used : (Keyed.names (attributes fields)).Sublist (attributeFields.map (·.2)) :=
    names_filterMap Prod.snd (fun a : String × String => textOf? fields a.1) attributeFields
  exact attributesPlain_of_sublist used (by decide) (by decide)

/-- No field is written under a name that declares a namespace. -/
theorem isDeclaration_attributes (fields : Fields) : ∀ a ∈ attributes fields, isDeclaration a.1 = false := by
  have names : ∀ a ∈ attributeFields, isDeclaration a.2 = false := by decide
  intro a member
  rcases List.mem_filterMap.mp (attributes_eq fields ▸ member) with ⟨b, inFields, made⟩
  rcases Option.map_eq_some_iff.mp made with ⟨value, _, rfl⟩
  exact names b inFields

/-- Of the attributes of an element, those that declare no namespaces are fields. -/
theorem withAttributes_append {e : Element} {declaring attributes : List (String × String)}
    (declare : ∀ a ∈ declaring, isDeclaration a.1 = true) (own : ∀ a ∈ attributes, isDeclaration a.1 = false)
    (written : e.attributes = declaring ++ attributes) (before : Fields) :
    withAttributes before e = before.insertAll (attributes.map fun a => (fieldOf a.1, Json.string a.2)) := by
  have dropped : declaring.filter (fun a => !isDeclaration a.1) = [] := by
    rw [List.filter_eq_nil_iff]
    intro a member
    rw [declare a member]
    exact Bool.false_ne_true
  have kept : attributes.filter (fun a => !isDeclaration a.1) = attributes := by
    rw [List.filter_eq_self]
    intro a member
    rw [own a member]
    rfl
  rw [withAttributes, written, List.filter_append, dropped, List.nil_append, kept]

/-- Attributes are read as the fields that they carry, each with its text. -/
theorem withAttributes_eq (fields : Fields) {e : Element} {declaring : List (String × String)}
    (declare : ∀ a ∈ declaring, isDeclaration a.1 = true) (written : e.attributes = declaring ++ attributes fields)
    (before : Fields) :
    withAttributes before e =
      before.insertAll (given (fun name => (textOf? fields name).map .string) (attributeFields.map (·.1))) := by
  have facts : ∀ a ∈ attributeFields, fieldOf a.2 = a.1 := by decide
  have pairs : (attributes fields).map (fun a => (fieldOf a.1, Json.string a.2)) =
      given (fun name => (textOf? fields name).map .string) (attributeFields.map (·.1)) := by
    rw [attributes_eq, List.map_filterMap, given, List.filterMap_map]
    refine List.filterMap_congr fun a member => ?_
    rw [Function.comp_apply, Option.map_map, Option.map_map]
    exact congrArg (Option.map · _) (funext fun value => congrArg (·, Json.string value) (facts a member))
  rw [withAttributes_append declare (isDeclaration_attributes fields) written, pairs]

theorem fills_texts (fields : Fields) {e : Element} {declaring : List (String × String)}
    (declare : ∀ a ∈ declaring, isDeclaration a.1 = true) (written : e.attributes = declaring ++ attributes fields) :
    Fills (fun name => (textOf? fields name).map .string) (attributeFields.map (·.1)) (withAttributes · e) :=
  (fills_insertAll _ (by decide)).congr fun before _ => withAttributes_eq fields declare written before

theorem fills_attributes {kind : Kind} {fields : Fields} (presents : Presents kind fields) {e : Element}
    {declaring : List (String × String)} (declare : ∀ a ∈ declaring, isDeclaration a.1 = true)
    (written : e.attributes = declaring ++ attributes fields) :
    Fills (target fields) (attributeFields.map (·.1)) (withAttributes · e) := by
  have facts : ∀ name ∈ attributeFields.map (·.1), name ∈ scalarFields ∧ name ≠ "maxCount" := by decide
  refine (fills_texts fields declare written).retarget fun name member => ?_
  exact textOf?_eq presents (facts name member).1 (facts name member).2

/-! ## Restrictions -/

theorem given_append (target : String → Option Json) (names others : List String) :
    given target (names ++ others) = given target names ++ given target others := List.filterMap_append

theorem insertAll_append (fields : Fields) (first second : List (String × Json)) :
    Keyed.insertAll fields (first ++ second) = (Keyed.insertAll fields first).insertAll second := List.foldl_append

def facetChildren (fields : Fields) (list : List (String × String)) : List Element :=
  list.filterMap fun f => (textOf? fields f.2).map fun value => .mk f.1 [("value", value)] [] ""

theorem readAs_facets (fields : Fields) {list : List (String × String)} (known : ∀ f ∈ list, f ∈ facets) :
    ReadAs Vocabulary.isRichElement
      (list.filterMap fun f => (textOf? fields f.2).map fun value => Token.single f.1 [("value", value)])
      (facetChildren fields list) := by
  have plain : ∀ f ∈ facets, IsPlainName f.1 := by decide
  induction list with
  | nil => exact .nil
  | cons f rest ih =>
      have behind := ih fun g later => known g (List.mem_cons_of_mem _ later)
      rw [facetChildren, List.filterMap_cons, List.filterMap_cons]
      cases textOf? fields f.2 with
      | none => exact behind
      | some value =>
          have here := plain f (known f List.mem_cons_self)
          exact (ReadAs.single here (attributesPlain_singleton (by decide) value)).append behind

theorem foldl_withFacet {kind : Kind} {fields : Fields} (presents : Presents kind fields)
    {list : List (String × String)}
    (known : ∀ f ∈ list, f ∈ facets) (before : Fields) :
    (facetChildren fields list).foldl withFacet before =
      before.insertAll (given (target fields) (list.map (·.2))) := by
  have facts : ∀ f ∈ facets, facets.find? (fun g => g.1 == f.1) = some f ∧ f.2 ∈ scalarFields ∧ f.2 ≠ "maxCount" := by
    decide
  induction list generalizing before with
  | nil => rfl
  | cons f rest ih =>
      rcases facts f (known f List.mem_cons_self) with ⟨found, scalar, other⟩
      have value := textOf?_eq presents scalar other
      have behind := ih fun g later => known g (List.mem_cons_of_mem _ later)
      rw [facetChildren] at behind ⊢
      rw [List.filterMap_cons, List.map_cons, given, List.filterMap_cons, ← value]
      cases textOf? fields f.2 with
      | none => exact behind before
      | some text =>
          have step : withFacet before (.mk f.1 [("value", text)] [] "") = before.insert f.2 (.string text) := by
            simp only [withFacet, Element.name, found]
            rfl
          simp only [Option.map_some, List.foldl_cons, step]
          exact behind _

theorem withValueOf_eq {e : Element} {name field : String} {target : String → Option Json}
    (value : (e.attribute? name).map .string = target field) (before : Fields) :
    withValueOf name field e before = before.insertAll (given target [field]) := by
  rw [withValueOf, given, List.filterMap_cons, ← value]
  cases e.attribute? name <;> rfl

def restrictionFields : List String := ["datatype"] ++ ["minCount"] ++ ["maxCount"] ++ facets.map (·.2)

def restrictionOf (fields : Fields) : Element :=
  .mk restrictionElement (restrictionAttributes fields) (facetChildren fields facets) ""

theorem attribute?_restrictionOf (fields : Fields) :
    (restrictionOf fields).attribute? "base" = textOf? fields "datatype" ∧
      (restrictionOf fields).attribute? "minOccurs" = textOf? fields "minCount" ∧
      (restrictionOf fields).attribute? "maxOccurs" = (fields.get? "maxCount").map maxOccurs := by
  rw [restrictionOf, restrictionAttributes]
  cases textOf? fields "datatype" <;> cases textOf? fields "minCount" <;> cases fields.get? "maxCount" <;>
    exact ⟨rfl, rfl, rfl⟩

theorem attributesPlain_restriction (fields : Fields) : AttributesPlain (restrictionAttributes fields) := by
  have one : ∀ (name : String) (value : Option String),
      (Keyed.names (value.map fun v => (name, v)).toList).Sublist [name] := by
    intro name value
    cases value with
    | none => exact List.nil_sublist _
    | some v => exact .refl _
  have most : (fields.get? "maxCount").map (fun v => ("maxOccurs", maxOccurs v)) =
      ((fields.get? "maxCount").map maxOccurs).map fun v => ("maxOccurs", v) := by
    rw [Option.map_map]
    rfl
  have used : (Keyed.names (restrictionAttributes fields)).Sublist (["base"] ++ ["minOccurs"] ++ ["maxOccurs"]) := by
    rw [restrictionAttributes, most, Keyed.names, List.map_append, List.map_append]
    exact ((one _ _).append (one _ _)).append (one _ _)
  exact attributesPlain_of_sublist used (by decide) (by decide)

theorem withRestriction_restrictionOf {kind : Kind} {fields : Fields} (presents : Presents kind fields)
    (before : Fields) :
    withRestriction before (restrictionOf fields) = before.insertAll (given (target fields) restrictionFields) := by
  rcases attribute?_restrictionOf fields with ⟨base, least, most⟩
  have datatype := textOf?_eq presents (show "datatype" ∈ scalarFields by decide) (by decide)
  have minCount := textOf?_eq presents (show "minCount" ∈ scalarFields by decide) (by decide)
  have maxCount := maxOccurs_eq presents
  rw [← base] at datatype
  rw [← least] at minCount
  rw [← most] at maxCount
  have named : (restrictionOf fields).name == restrictionElement := rfl
  rw [withRestriction, if_pos named, withOccurrences, withValueOf_eq datatype, withValueOf_eq minCount,
    withValueOf_eq maxCount, ← insertAll_append, ← insertAll_append, ← given_append, ← given_append]
  have allFacets := foldl_withFacet presents (fun f member => member)
    (before.insertAll (given (target fields) (["datatype"] ++ ["minCount"] ++ ["maxCount"])))
  rw [← insertAll_append, ← given_append] at allFacets
  exact allFacets

theorem target_eq_none {fields : Fields} {name : String} (absent : fields.has name = false) :
    target fields name = none := by
  rw [Keyed.has, Option.isSome_eq_false_iff, Option.isNone_iff_eq_none] at absent
  exact target_of_get? absent

def hasRestriction (fields : Fields) : Bool :=
  (facets.any fun f => fields.has f.2) || ["datatype", "minCount", "maxCount"].any fields.has

theorem restriction_eq_nil {fields : Fields} (unrestricted : hasRestriction fields = false) : restriction fields = [] :=
  if_neg (Bool.not_eq_true _ ▸ unrestricted)

theorem facetChildren_eq_nil {fields : Fields} (noFacets : (facets.any fun f => fields.has f.2) = false) :
    facetChildren fields facets = [] := by
  rw [facetChildren, List.filterMap_eq_nil_iff]
  intro f member
  have absent : fields.has f.2 = false := Bool.not_eq_true _ ▸ List.any_eq_false.mp noFacets f member
  rw [Keyed.has, Option.isSome_eq_false_iff, Option.isNone_iff_eq_none] at absent
  rw [textOf?, absent]
  rfl

/-- A restriction is written as an element of its own, with its facets inside it. -/
theorem readAs_restriction {fields : Fields} (there : hasRestriction fields = true) :
    ReadAs Vocabulary.isRichElement (restriction fields) [.mk typeElement [] [restrictionOf fields] ""] := by
  have tokens : restriction fields = .opening typeElement [] ::
      ((if facets.any fun f => fields.has f.2 then
          .opening restrictionElement (restrictionAttributes fields) ::
            (facetElements fields ++ [.closing restrictionElement])
        else [.single restrictionElement (restrictionAttributes fields)]) ++ [.closing typeElement]) := if_pos there
  rw [tokens]
  refine .nested (by decide) attributesPlain_nil (by decide) ?_
  split
  · exact .nested (by decide) (attributesPlain_restriction fields) (by decide)
      (readAs_facets fields fun f member => member)
  · rename_i noFacets
    rw [restrictionOf, facetChildren_eq_nil (Bool.not_eq_true _ ▸ noFacets)]
    exact .single (by decide) (attributesPlain_restriction fields)

/-- What is written as a restriction tells the fields that it carries. -/
theorem tells_restriction {kind : Kind} {fields : Fields} (presents : Presents kind fields) (ofKind : Option Kind) :
    Tells (withPart ofKind) (fun _ => True) (target fields) restrictionFields (restriction fields) := by
  cases there : hasRestriction fields with
  | true =>
      refine ⟨_, readAs_restriction there, fun _ _ => trivial, ?_⟩
      refine (fills_insertAll (target fields) (by decide)).congr fun before _ => ?_
      have read : withPart ofKind before (.mk typeElement [] [restrictionOf fields] "") =
          withRestriction before (restrictionOf fields) := rfl
      rw [List.foldl_cons, List.foldl_nil, read, withRestriction_restrictionOf presents]
  | false =>
      rw [restriction_eq_nil there]
      refine .nothing fun name member => target_eq_none ?_
      rw [hasRestriction, Bool.or_eq_false_iff, List.any_eq_false, List.any_eq_false] at there
      rcases there with ⟨noFacets, noBounds⟩
      rcases List.mem_append.mp (show name ∈ ["datatype", "minCount", "maxCount"] ++ facets.map (·.2) from member) with
        own | ofFacet
      · exact Bool.not_eq_true _ ▸ noBounds name own
      · rcases List.mem_map.mp ofFacet with ⟨f, inFacets, rfl⟩
        exact Bool.not_eq_true _ ▸ noFacets f inFacets

/-! ## Fragments -/

def propertyElement (p : PropertyValue) : Element :=
  .mk Kind.propertyValue.tag (("hasClass", p.hasClass) :: (p.lang.map fun lang => ("xml:lang", lang)).toList) [] p.value

def linkElement (kind : Kind) (l : LinkValue) : Element :=
  .mk kind.tag [("hasClass", l.hasClass), ("idRef", l.idRef)] [] ""

theorem fragmentOfElement_propertyElement (p : PropertyValue) :
    fragmentOfElement (propertyElement p) = Writing.embeddedProperty p := by
  have first : "hasClass" < "value" := by decide
  have second : "hasClass" < "lang" := by decide
  have third : "lang" < "value" := by decide
  have own : isDeclaration "hasClass" = false ∧ isDeclaration "xml:lang" = false := by decide
  have carried : fieldOf "hasClass" = "hasClass" ∧ fieldOf "xml:lang" = "lang" := by decide
  have noDeclaration : ∀ a ∈ (propertyElement p).attributes, isDeclaration a.1 = false := by
    rcases p with ⟨hasClass, value, _ | lang⟩ <;> simp [propertyElement, Element.attributes, own]
  have read := withAttributes_append (e := propertyElement p) (List.forall_mem_nil _) noDeclaration rfl []
  rw [Writing.embeddedProperty_eq, fragmentOfElement, read]
  rcases p with ⟨hasClass, value, _ | lang⟩ <;>
    simp [propertyElement, withText, Element.name, Element.text, Element.attributes, carried, Keyed.insertAll,
      Keyed.insert_nil, Keyed.insert_above first, Keyed.insert_above second, Keyed.insert_above third]

theorem fragmentOfElement_linkElement {kind : Kind} (isLink : kind ∈ [Kind.sourceLinkValue, .targetLinkValue])
    (l : LinkValue) : fragmentOfElement (linkElement kind l) = Writing.embeddedLink l := by
  have order : "hasClass" < "idRef" := by decide
  have noText : ∀ kind ∈ [Kind.sourceLinkValue, .targetLinkValue], (kind.tag == Kind.propertyValue.tag) = false := by
    decide
  have own : ∀ a ∈ (linkElement kind l).attributes, isDeclaration a.1 = false := by
    have each : ∀ name ∈ ["hasClass", "idRef"], isDeclaration name = false := by decide
    simpa [linkElement, Element.attributes] using each
  have carried : fieldOf "hasClass" = "hasClass" ∧ fieldOf "idRef" = "idRef" := by decide
  have read := withAttributes_append (e := linkElement kind l) (List.forall_mem_nil _) own rfl []
  rw [Writing.embeddedLink_eq, fragmentOfElement, read]
  simp [linkElement, withText, Element.name, Element.attributes, noText kind isLink, carried, Keyed.insertAll,
    Keyed.insert_nil, Keyed.insert_above order]

theorem fragmentTokens_embeddedProperty (p : PropertyValue) :
    fragmentTokens .propertyValue (Writing.embeddedProperty p) =
      textElement Kind.propertyValue.tag (propertyElement p).attributes (.plain p.value) := by
  rw [Writing.embeddedProperty_eq]
  rcases p with ⟨hasClass, value, _ | lang⟩ <;> rfl

theorem fragmentTokens_embeddedLink {kind : Kind} (isLink : kind ∈ [Kind.sourceLinkValue, .targetLinkValue])
    (l : LinkValue) :
    fragmentTokens kind (Writing.embeddedLink l) = [.single kind.tag (linkElement kind l).attributes] := by
  rw [Writing.embeddedLink_eq]
  rcases List.mem_pair.mp isLink with rfl | rfl <;> rfl

/-- The text of a property value is read as an element keeps it. -/
theorem readAs_property (p : PropertyValue) :
    ReadAs Vocabulary.isRichElement (fragmentTokens .propertyValue (Writing.embeddedProperty p))
      [propertyElement { p with value := standing p.value }] := by
  have used : (Keyed.names (propertyElement p).attributes).Sublist ["hasClass", "xml:lang"] := by
    rcases p with ⟨hasClass, value, _ | lang⟩
    · exact (List.nil_sublist _).cons_cons _
    · exact .refl _
  rw [fragmentTokens_embeddedProperty]
  exact readAs_textElement (by decide) (attributesPlain_of_sublist used (by decide) (by decide)) (by decide) p.value

theorem readAs_link {kind : Kind} (isLink : kind ∈ [Kind.sourceLinkValue, .targetLinkValue]) (l : LinkValue) :
    ReadAs Vocabulary.isRichElement (fragmentTokens kind (Writing.embeddedLink l)) [linkElement kind l] := by
  have plain : ∀ kind ∈ [Kind.sourceLinkValue, .targetLinkValue], IsPlainName kind.tag := by decide
  have used : (Keyed.names (linkElement kind l).attributes).Sublist ["hasClass", "idRef"] := .refl _
  rw [fragmentTokens_embeddedLink isLink]
  exact .single (plain kind isLink) (attributesPlain_of_sublist used (by decide) (by decide))

/-- A fragment is put at the end of the list of its field. -/
theorem collects_fragment {ofKind : Option Kind} {e : Element} {field : String}
    (notType : (e.name == typeElement) = false)
    (known : Vocabulary.fragmentField? e.name = some field) :
    Collects (withPart ofKind) field e [fragmentOfElement e] := by
  intro fields list held
  simp only [withPart, notType, known, held]
  rfl

section Fragments

variable {kind : Kind} {fields : Fields}

/-- The shapes of the fields that hold fragments. -/
theorem fragment_of_get?_shapes {f : String × Kind} (member : f ∈ Vocabulary.fragmentFields) {shape : Shape}
    (named : kind.shapes.get? f.1 = some shape) :
    f = ("hasProperty", .propertyValue) ∧ shape = .properties ∨
      f.2 ∈ [Kind.sourceLinkValue, .targetLinkValue] ∧ shape = .links := by
  have all : ∀ kind ∈ Kind.all, ∀ f ∈ Vocabulary.fragmentFields, (kind.shapes.get? f.1).all (fun shape =>
      f == ("hasProperty", .propertyValue) && shape == .properties ||
        [Kind.sourceLinkValue, .targetLinkValue].contains f.2 && shape == .links) = true := by
    decide
  have here := all kind kind.mem_all f member
  rw [named] at here
  simpa using here

/-- What is written for a field of fragments tells this field. -/
theorem tells_fragment (presents : Presents kind fields) (ofKind : Option Kind) {f : String × Kind}
    (member : f ∈ Vocabulary.fragmentFields) :
    Tells (withPart ofKind) (fun _ => True) (target fields) [f.1]
      ((((fields.get? f.1).bind Json.items?).getD []).flatMap (fragmentTokens f.2)) := by
  have own : ∀ f ∈ Vocabulary.fragmentFields,
      (f.2.tag == typeElement) = false ∧ Vocabulary.fragmentField? f.2.tag = some f.1 ∧
        (f.2 ∈ [Kind.sourceLinkValue, .targetLinkValue] → isVerbatim f.1 = true) := by decide
  rcases own f member with ⟨notType, known, verbatim⟩
  cases found : fields.get? f.1 with
  | none => exact .nothing (List.forall_mem_singleton.mpr (target_of_get? found))
  | some v =>
      rcases presents.written _ (Keyed.mem_of_get? found) with ⟨shape, named, written⟩
      have wanted := target_of_found found
      rcases fragment_of_get?_shapes member named with ⟨rfl, rfl⟩ | ⟨isLink, rfl⟩
      · cases written with
        | @properties list nonempty names =>
            rw [Option.bind_some, Json.items?, Option.getD_some, List.flatMap_map]
            refine ⟨_, readAs_flatMap fun p _ => readAs_property p, fun _ _ => trivial,
              fills_mapped nonempty (fun p _ => ?_) (wanted.trans (heard_properties list))⟩
            rw [← fragmentOfElement_propertyElement]
            exact collects_fragment notType known
      · cases written with
        | @links list nonempty names =>
            rw [Option.bind_some, Json.items?, Option.getD_some, List.flatMap_map]
            refine ⟨_, readAs_flatMap fun l _ => readAs_link isLink l, fun _ _ => trivial,
              fills_mapped nonempty (fun l _ => ?_) (wanted.trans (heard_array (verbatim isLink) _))⟩
            rw [← fragmentOfElement_linkElement isLink l]
            exact collects_fragment notType known

/-- What is written as fragments tells the fields that hold them. -/
theorem tells_fragments (presents : Presents kind fields) (ofKind : Option Kind) :
    Tells (withPart ofKind) (fun _ => True) (target fields) (Vocabulary.fragmentFields.map (·.1))
      (fragments fields) :=
  .flatMap (fun _ member => tells_fragment presents ofKind member) (by decide)

end Fragments

end Xml
end ProductGraph
