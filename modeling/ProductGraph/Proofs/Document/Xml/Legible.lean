import ProductGraph.Proofs.Document.Canonical
import ProductGraph.Proofs.Document.JsonLd.RoundTrip
import ProductGraph.Proofs.Document.Kind
import ProductGraph.Proofs.Document.Xml.RoundTrip
import ProductGraph.Proofs.Item.Identity

namespace ProductGraph

/-!
# Markup that can be read, whatever its texts

Markup may lose a text that is nothing but white space, but texts do not change its structure: values of attributes and
plain texts are escaped, so the elements that are read are those that were written, with their names and attributes.
Only rich text is written as it stands.  So a package without descriptions is read back with its items in their order,
each with its identifier and its kind, and with its namespaces.

One thing else is written as it stands: the name of a namespace, as a part of the name of an attribute.  A blank in it
ends the attribute before its value, and what is written is no markup.
-/

namespace ItemData

theorem get?_id (d : ItemData) : d.fields.get? "id" = Writing.text? d.id? := by
  rw [get?_fields]
  cases d <;> rfl

/-- Contents are written as fields that their kind has, whatever they hold. -/
theorem get?_fields_of_not_mem {d : ItemData} {name : String} (other : name ∉ d.kind.contentNames ++ ["itemType"]) :
    d.fields.get? name = none := by
  rw [get?_fields, Keyed.get?_eq_none_iff.mpr (d.names_entries ▸ other)]
  rfl

end ItemData

namespace Xml

open Markup (Element Token ReadAs IsPlainName AttributesPlain)

/-- Tokens that are read as elements of expected names, whatever their texts are. -/
def Legible (expected : String → Prop) (tokens : List Token) : Prop :=
  ∃ elements, ReadAs Vocabulary.isRichElement tokens elements ∧ ∀ e ∈ elements, expected e.name

namespace Legible

variable {expected wider : String → Prop} {tokens more : List Token} {name : String}
  {attributes : List (String × String)}

theorem nil : Legible expected [] := ⟨[], .nil, nofun⟩

theorem append (first : Legible expected tokens) (second : Legible expected more) :
    Legible expected (tokens ++ more) := by
  rcases first with ⟨elements, reads, fit⟩
  rcases second with ⟨others, alsoReads, alsoFit⟩
  exact ⟨elements ++ others, reads.append alsoReads, List.forall_mem_append.mpr ⟨fit, alsoFit⟩⟩

theorem flatMap {α : Type} {list : List α} {tokensOf : α → List Token}
    (each : ∀ a ∈ list, Legible expected (tokensOf a)) : Legible expected (list.flatMap tokensOf) := by
  induction list with
  | nil => exact nil
  | cons a rest ih =>
      exact (each a List.mem_cons_self).append (ih fun b later => each b (List.mem_cons_of_mem _ later))

theorem weaken (legible : Legible expected tokens) (wide : ∀ name, expected name → wider name) :
    Legible wider tokens := by
  rcases legible with ⟨elements, reads, fit⟩
  exact ⟨elements, reads, fun e member => wide _ (fit e member)⟩

theorem single (plain : IsPlainName name) (attributesPlain : AttributesPlain attributes) (fits : expected name) :
    Legible expected [.single name attributes] :=
  ⟨_, .single plain attributesPlain, List.forall_mem_singleton.mpr fits⟩

/-- Plain text is escaped, so it does not matter which text it is. -/
theorem textElement (plain : IsPlainName name) (attributesPlain : AttributesPlain attributes)
    (notRich : Vocabulary.isRichElement name = false) (fits : expected name) (s : String) :
    Legible expected (textElement name attributes (.plain s)) :=
  ⟨_, .text plain attributesPlain notRich (Markup.not_mem_escape (.inl rfl) s.toList) (Markup.resolve?_escape s.toList),
    List.forall_mem_singleton.mpr fits⟩

end Legible

/-! ## Fields -/

section Fields

variable {fields : Fields} {term : String × String}

theorem legible_fieldValue (member : term ∈ childFields)
    (notText : Vocabulary.textFields.contains (fieldOf term.2) = false) (v : Json) :
    Legible IsChildName (fieldValue term.2 term.1 v) := by
  rcases childName member with ⟨plain, carried, rich, _⟩
  have child : IsChildName term.2 := ⟨_, member⟩
  have notRich := isRichElement_of_not_text (carried.symm ▸ rich) notText
  rw [fieldValue]
  split
  · exact .nil
  · split
    · exact .single plain (attributesPlain_singleton (by decide) _) child
    · exact .textElement plain attributesPlain_nil notRich child _

/-- The entries of any text but a rich one. -/
theorem legible_textEntries (member : term ∈ childFields) (notRich : Vocabulary.richFields.contains term.1 = false)
    (v : Json) : Legible IsChildName (textEntries term.2 term.1 v) := by
  rcases childName member with ⟨plain, _, rich, _⟩
  refine .flatMap fun entry _ => ?_
  dsimp only
  have attributesPlain : AttributesPlain ((entry.textField? "lang").map fun lang => ("xml:lang", lang)).toList := by
    cases entry.textField? "lang" with
    | none => exact attributesPlain_nil
    | some lang => exact attributesPlain_singleton (by decide) lang
  rw [notRich, Bool.false_and, if_neg Bool.false_ne_true]
  exact .textElement plain attributesPlain (rich.trans notRich) ⟨_, member⟩ _

theorem legible_childTokens (undescribed : fields.get? "description" = none) (member : term ∈ childFields) :
    Legible IsChildName (childTokens fields term) := by
  have onlyRich : ∀ term ∈ childFields, term.1 = "description" ∨ Vocabulary.richFields.contains term.1 = false := by
    decide
  rw [childTokens]
  split
  · exact .nil
  · rename_i v found
    have notRich : Vocabulary.richFields.contains term.1 = false := by
      refine (onlyRich term member).resolve_left fun isDescription => ?_
      rw [isDescription, undescribed] at found
      cases found
    split
    · exact legible_textEntries member notRich v
    · rename_i notText
      rw [Bool.not_eq_true, ← (childName member).2.1] at notText
      split
      · exact .single (childName member).1 attributesPlain_nil ⟨_, member⟩
      · exact .flatMap fun v _ => legible_fieldValue member notText v
      · exact legible_fieldValue member notText v

/-- Whatever fields hold, but for a description, their children are read. -/
theorem legible_children (undescribed : fields.get? "description" = none) :
    Legible IsChildName (children fields) := by
  rw [children_eq]
  exact .flatMap fun _ member => legible_childTokens undescribed member

theorem legible_restriction (fields : Fields) : Legible (· = typeElement) (restriction fields) := by
  cases there : hasRestriction fields with
  | true => exact ⟨_, readAs_restriction there, List.forall_mem_singleton.mpr rfl⟩
  | false => exact restriction_eq_nil there ▸ .nil

theorem legible_fragmentTokens (kind : Kind) (v : Json) : Legible (· = kind.tag) (fragmentTokens kind v) := by
  cases v with
  | object fields =>
      have attributesPlain := attributesPlain_attributes fields
      rw [fragmentTokens.eq_def]
      dsimp only
      split
      · refine .textElement (isPlainName_tag _) attributesPlain (isRichElement_tag _) ?_ _
        rfl
      · exact .single (isPlainName_tag _) attributesPlain rfl
  | _ => exact .nil

def insideNames : List String :=
  childFields.map (·.2) ++ typeElement :: Vocabulary.fragmentFields.map (·.2.tag)

theorem legible_inside (undescribed : fields.get? "description" = none) :
    Legible (· ∈ insideNames) (children fields ++ restriction fields ++ fragments fields) := by
  refine .append (.append ?_ ?_) ?_
  · refine (legible_children undescribed).weaken ?_
    rintro name ⟨field, member⟩
    exact List.mem_append_left _ (List.mem_map_of_mem member)
  · refine (legible_restriction fields).weaken ?_
    rintro name rfl
    exact List.mem_append_right _ List.mem_cons_self
  · refine .flatMap fun f member => .flatMap fun v _ => (legible_fragmentTokens f.2 v).weaken ?_
    rintro name rfl
    exact List.mem_append_right _ (List.mem_cons_of_mem _ (List.mem_map_of_mem member))

end Fields

/-! ## Items -/

/-- An element for an item: it is named for the kind, has the attributes of the item, and inside it are elements that
items have. -/
structure Frames (d : ItemData) (e : Element) : Prop where
  name : e.name = d.kind.tag
  attributes : e.attributes = Xml.attributes d.fields
  children : ∀ child ∈ e.children, child.name ∈ insideNames

section Items

variable {d : ItemData} {e : Element}

/-- An item that is written and has no description is read as an element for it. -/
theorem exists_frame (undescribed : d.fields.get? "description" = none) :
    ∃ tokens e, itemTokens d.toJson = .ok tokens ∧ ReadAs Vocabulary.isRichElement tokens [e] ∧ Frames d e := by
  have plain := isPlainName_tag d.kind
  have attributesPlain := attributesPlain_attributes d.fields
  have notRich := isRichElement_tag d.kind
  rw [ItemData.toJson_eq, itemTokens_eq d.get?_itemType]
  split
  · by_cases isProperty : d.kind = .propertyValue
    · rcases exists_value_of_kind isProperty with ⟨s, value⟩
      have others : ∀ name ∈ contentFields, name ∉ Kind.propertyValue.contentNames ++ ["itemType"] := by decide
      have absent : ∀ name ∈ contentFields, d.fields.get? name = none :=
        fun name member => ItemData.get?_fields_of_not_mem (isProperty ▸ others name member)
      have only : content d.kind.tag d.fields = [.plain s] := isProperty ▸ content_propertyValue absent value
      rw [only]
      exact ⟨_, _, rfl, .text plain attributesPlain notRich (Markup.not_mem_escape (.inl rfl) s.toList)
        (Markup.resolve?_escape s.toList), rfl, rfl, nofun⟩
    · rcases legible_inside undescribed with ⟨elements, reads, fit⟩
      rw [content_of_ne isProperty]
      exact ⟨_, _, rfl, .nested plain attributesPlain notRich reads, rfl, rfl, fit⟩
  · exact ⟨_, _, rfl, .single plain attributesPlain, rfl, rfl, nofun⟩

theorem apart_of_mem_attributes {fields : Fields} {a : String × String} (member : a ∈ attributes fields) :
    a.1 ≠ "itemType" := by
  have apart : ∀ a ∈ attributeFields, a.2 ≠ "itemType" := by decide
  rcases List.mem_filterMap.mp (attributes_eq fields ▸ member) with ⟨b, inFields, made⟩
  rcases Option.map_eq_some_iff.mp made with ⟨value, _, rfl⟩
  exact apart b inFields

/-- An element for an item declares the kind of the item. -/
theorem Frames.declared (frames : Frames d e) (options : ReadingOptions) :
    (itemOfElement options e).declared = some d.kind.tag := by
  have apart : ∀ name ∈ insideNames, name ≠ "itemType" := by decide
  have once : (Document.Source.element e).DeclaresOnce := by
    refine ⟨?_, fun child member => apart _ (frames.children child member)⟩
    rw [frames.attributes]
    exact fun a => apart_of_mem_attributes
  rw [Document.itemOfElement_eq_read, Document.Source.declared_read_element once options, frames.name]

theorem Frames.kind (frames : Frames d e) (options : ReadingOptions) : (itemOfElement options e).kind = some d.kind := by
  have ofDeclared : (itemOfElement options e).kind = (itemOfElement options e).declared.bind Kind.ofTag? := rfl
  rw [ofDeclared, frames.declared options]
  exact Kind.ofTag?_tag d.kind

/-- What an element for an item holds has the identifier of the item. -/
theorem Frames.held (frames : Frames d e) (kind : Option Kind) :
    Keyed.Sorted (held kind e) ∧ (held kind e).get? "id" = (textOf? d.fields "id").map .string := by
  let before : Fields := [("itemType", .string e.name)]
  have apart : ∀ name ∈ insideNames, fieldOf name ≠ "id" := by decide
  have others : "itemType" ∉ attributeFields.map (·.1) := by decide
  have free : ∀ name ∈ attributeFields.map (·.1), before.get? name = none :=
    fun name member => Keyed.get?_singleton_of_ne (ne_of_mem_of_not_mem member others) _
  rcases fills_texts d.fields (e := e) (List.forall_mem_nil _) frames.attributes before (List.pairwise_singleton _ _)
    free with ⟨sorted, found⟩
  have kept : Kept "id" (withAttributes before e) (Xml.held kind e) :=
    (kept_withText (by decide) _).trans
      (kept_children (by decide) (fun child member => apart _ (frames.children child member)) _)
  refine ⟨kept.sorted sorted, ?_⟩
  rw [kept.same, found, if_pos (by decide)]

/-- An element for an item is read with the identifier of the item, unless that lacks a namespace. -/
theorem Frames.id? (frames : Frames d e) (full : ∀ s, d.id? = some s → isBareName s = false)
    (options : ReadingOptions) :
    (itemOfElement options e).id? = d.id? := by
  have own : (itemOfElement options e).id? =
      ((Normal.fields options (Kind.ofTag? e.name) (Xml.held (Kind.ofTag? e.name) e)).get? "id").bind Json.text? := rfl
  rcases frames.held (Kind.ofTag? e.name) with ⟨sorted, found⟩
  rw [own, Normal.get?_fields_of_sorted sorted, found, textOf?, d.get?_id]
  cases stated : d.id? with
  | none => rfl
  | some s =>
      have same : Normal.inNamespace (Normal.identifierNamespace options (Kind.ofTag? e.name)) s = s := by
        rw [Normal.inNamespace, full s stated]
        exact if_neg Bool.false_ne_true
      have kept : Normal.field? options (Kind.ofTag? e.name) "id" (.string s) =
          some (.string (Normal.inNamespace (Normal.identifierNamespace options (Kind.ofTag? e.name)) s)) := rfl
      exact (congrArg (Option.bind · Json.text?) kept).trans (congrArg some same)

/-- An item without a description is written as an element that is read with the identifier and the kind of the item,
whatever the options. -/
theorem exists_headed (undescribed : d.fields.get? "description" = none)
    (full : ∀ s, d.id? = some s → isBareName s = false) :
    ∃ tokens e, itemTokens d.toJson = .ok tokens ∧ ReadAs Vocabulary.isRichElement tokens [e] ∧
      ∀ options, ((itemOfElement options e).id?, (itemOfElement options e).declared, (itemOfElement options e).kind) =
        (d.id?, some d.kind.tag, some d.kind) := by
  rcases exists_frame undescribed with ⟨tokens, e, written, reads, frames⟩
  refine ⟨tokens, e, written, reads, fun options => ?_⟩
  rw [frames.id? full options, frames.declared options, frames.kind options]

end Items

end Xml

/-! ## Packages -/

namespace Package

/-- A package in which nothing has a description. -/
structure Undescribed (p : Package) : Prop where
  header : p.header.description = []
  contents : ∀ d ∈ p.contents, ∀ i ∈ d.identifiable, i.description = []

theorem Undescribed.get?_toFields {p : Package} (undescribed : p.Undescribed) :
    p.header.toFields.get? "description" = none := by
  have written : p.header.toFields.get? "description" =
      Writing.unlessEmpty Writing.languageText p.header.description := Xml.get?_toFields p.header "description"
  rw [written, undescribed.header]
  rfl

theorem Undescribed.get?_fields {p : Package} (undescribed : p.Undescribed) {d : ItemData} (member : d ∈ p.contents) :
    d.fields.get? "description" = none := by
  rw [d.get?_description]
  cases has : d.identifiable with
  | none => rfl
  | some i =>
      rw [Option.map_some, Option.getD_some, undescribed.contents d member i has]
      rfl

/-! ## Tools -/

/-- A saw whose title is made of marks that mean something in markup. -/
def saw : ItemData :=
  .entity ⟨⟨"ex:saw", none, [⟨"</x> & \"y\"", none⟩], []⟩, ⟨none, [], some "2025-01-01T00:00:00Z", none, []⟩,
    "ex:Tool", []⟩

def toolPackage (namespaces : Namespaces) (tools : List ItemData) : Package :=
  ⟨⟨some "ex:tools", [], [], none, none⟩, namespaces, tools.map ItemData.restored⟩

theorem contents_toolPackage (namespaces : Namespaces) (tools : List ItemData) :
    (toolPackage namespaces tools).contents = tools := contents_restored _ _ _

theorem ofText_toolPackage (namespaces : Namespaces) {tools : List ItemData} (plain : ∀ d ∈ tools, d.Plain) :
    ∃ report, Package.ofText Schemas.library.validator .none .standard .jsonLd
      (JsonLd.ofDocument (toolPackage namespaces tools).toDocument).pretty =
        .ok ((toolPackage namespaces tools).sorted, report) := by
  have header : ∀ s ∈ (toolPackage namespaces tools).header.id.toList, Identifies s := by
    have named : Identifies "ex:tools" := by decide +kernel
    exact fun s member => List.mem_singleton.mp member ▸ named
  exact ⟨_, ofText_pretty_of_plain (p := toolPackage namespaces tools)
    ⟨⟨PackageHeader.conforms_of_identifies header, rfl, rfl⟩, nofun, nofun⟩
    ((contents_toolPackage namespaces tools).symm ▸ plain) .none .standard⟩

theorem contents_sorted_toolPackage (namespaces : Namespaces) {tools : List ItemData}
    (sorted : ∀ d ∈ tools, d.sortedFragments = d) : (toolPackage namespaces tools).sorted.contents = tools := by
  rw [contents_sorted, contents_toolPackage]
  exact (List.map_congr_left sorted).trans (List.map_id tools)

/-! ## Documents of packages -/

/-- The identifier of a content that came from a document has a namespace, whatever the schemas accept. -/
theorem isBareName_id? {schemas : Validator} {checks : CheckSet} {options : ReadingOptions} {format : Format}
    {text : String} {p : Package} {report : ImportReport}
    (made : Package.ofText schemas checks options format text = .ok (p, report)) {d : ItemData} (member : d ∈ p.contents)
    {s : String} (stated : d.id? = some s) : isBareName s = false := by
  rcases Outcome.bind_eq_ok.mp made with ⟨document, read, instantiated⟩
  have normal := Document.inNormalForm_of_ofText (Outcome.mapError_eq_ok.mp read)
  rcases exists_source_of_ofDocument instantiated member with ⟨source, inItems, kind, fields, _, value, accepted⟩
  rcases normal.items source inItems fields value with ⟨ofKind, given, rfl⟩
  rcases Option.map_eq_some_iff.mp stated with ⟨i, has, rfl⟩
  have named := (Reading.textField?_of_identifiable ((ItemData.parts_of_ofJson accepted.reads).1 i has)).1
  have same : (Json.object (Item.withKind kind (Normal.fields options ofKind given))).textField? "id" =
      (Json.object (Normal.fields options ofKind given)).textField? "id" := by
    rw [Item.withKind]
    split
    · rfl
    · exact congrArg (Option.bind · Json.text?) (Keyed.get?_insert_ne _ _ (by decide))
  rw [same] at named
  rcases Option.bind_eq_some_iff.mp named with ⟨v, found, isText⟩
  have full := (Normal.canonical_fields given _ (Keyed.mem_of_get? found)).references List.mem_cons_self
  cases v with
  | string t =>
      cases isText
      exact full _ (.inl rfl)
  | _ => cases isText

/-- A package without descriptions that came from a document in either format, under any schemas, is written as markup,
and whatever texts it holds, the markup is read, under any options: the namespaces are those declared, and there is one
item for each item with content, in the same order, with the same identifier and of the same kind.  The names of the
namespaces must be such as can stand in the name of an attribute. -/
theorem exists_ofText_text_xml {schemas : Validator} {checks : CheckSet} {options : ReadingOptions} {format : Format}
    {text : String} {p : Package} {report : ImportReport}
    (made : Package.ofText schemas checks options format text = .ok (p, report))
    (undescribed : p.Undescribed) (nameable : ∀ n ∈ p.namespaces, Xml.Nameable n.1) :
    ∃ written, p.text .xml = .ok written ∧ ∀ nextOptions, ∃ document,
      Document.ofText .xml nextOptions written = .ok document ∧
      document.namespaces = Document.declaredNamespaces p.namespaces ∧
      document.items.map (fun i => (i.id?, i.declared, i.kind)) =
        p.contents.map fun d => (d.id?, some d.kind.tag, some d.kind) := by
  rcases Xml.legible_children undescribed.get?_toFields with ⟨before, header, childNames⟩
  rcases Xml.exists_elements fun d member =>
    Xml.exists_headed (undescribed.get?_fields member) fun _ => isBareName_id? made member with
    ⟨lists, elements, tokensOf, graph, each⟩
  rcases Xml.exists_read p.toDocument nameable tokensOf header graph with ⟨tokens, written, root⟩
  refine ⟨_, Outcome.map_eq_ok.mpr ⟨tokens, written, rfl⟩, fun nextOptions => ?_⟩
  have document := Xml.documentOfElement_graph nextOptions p.toDocument childNames elements
    (e := .mk Xml.packageElement (Xml.packageAttributes p.toDocument) (before ++ [Xml.graphOf elements]) "") rfl rfl
  refine ⟨_, Xml.read_of_root nextOptions root rfl, ?_⟩
  rw [document]
  refine ⟨rfl, ?_⟩
  rw [List.map_map]
  exact Xml.map_eq_of_forall₂ (each.imp fun _ _ same => same nextOptions)

theorem exists_ofText_text_xml_tools :
    ∃ text p report, Package.ofText Schemas.library.validator .none .standard .jsonLd text = .ok (p, report) ∧
      p.Undescribed ∧ (∀ n ∈ p.namespaces, Xml.Nameable n.1) ∧ p.contents = [saw] ∧
      ∃ written, p.text .xml = .ok written ∧ ∀ nextOptions, ∃ document,
        Document.ofText .xml nextOptions written = .ok document ∧
        document.namespaces = Document.declaredNamespaces p.namespaces ∧
        document.items.map (fun i => (i.id?, i.declared, i.kind)) =
          [(some "ex:saw", some "pig:anEntity", some .entityInstance)] := by
  have plain : ∀ d ∈ [saw], d.Plain := by decide +kernel
  have sorted : ∀ d ∈ [saw], d.sortedFragments = d := by
    simp only [List.mem_singleton, forall_eq, saw, ItemData.sortedFragments, byName, List.mergeSort_nil]
  rcases ofText_toolPackage [("ex/&<", "&\"<")] plain with ⟨report, made⟩
  have contents := contents_sorted_toolPackage [("ex/&<", "&\"<")] sorted
  have undescribed : (toolPackage [("ex/&<", "&\"<")] [saw]).sorted.Undescribed := by
    refine ⟨rfl, ?_⟩
    rw [contents]
    decide
  have nameable : ∀ n ∈ (toolPackage [("ex/&<", "&\"<")] [saw]).sorted.namespaces, Xml.Nameable n.1 :=
    Xml.nameable_declaredNamespaces (by decide)
  rcases exists_ofText_text_xml made undescribed nameable with ⟨written, text, reads⟩
  refine ⟨_, _, _, made, undescribed, nameable, contents, written, text, fun nextOptions => ?_⟩
  rcases reads nextOptions with ⟨document, read, namespaces, items⟩
  rw [contents] at items
  exact ⟨document, read, namespaces, items⟩

/-- A namespace may have a name that cannot stand in an attribute, such as one with a blank.  A package that declares it
comes from linked data, and what it is written as is no markup to any reader. -/
theorem exists_text_xml_unreadable :
    ∃ text p report written, Package.ofText Schemas.library.validator .none .standard .jsonLd text = .ok (p, report) ∧
      p.Undescribed ∧ p.namespaces = Document.declaredNamespaces [("a b", "urn:x")] ∧ p.text .xml = .ok written ∧
      ∀ options document, Document.ofText .xml options written ≠ .ok document := by
  have contents := contents_sorted_toolPackage [("a b", "urn:x")] (List.forall_mem_nil _)
  have undescribed : (toolPackage [("a b", "urn:x")] []).sorted.Undescribed := by
    refine ⟨rfl, ?_⟩
    rw [contents]
    exact List.forall_mem_nil _
  have tokens : ∃ tokens, Xml.documentTokens (toolPackage [("a b", "urn:x")] []).sorted.toDocument = .ok tokens ∧
      (Markup.root Vocabulary.isRichElement (Markup.Token.write tokens)).isOk = false := by
    refine ⟨_, rfl, ?_⟩
    rw [Markup.root, Markup.Token.write, String.toList_ofList]
    decide +kernel
  rcases tokens with ⟨tokens, made, broken⟩
  rcases ofText_toolPackage [("a b", "urn:x")] (List.forall_mem_nil _) with ⟨report, imported⟩
  refine ⟨_, _, report, _, imported, undescribed, rfl, Outcome.map_eq_ok.mpr ⟨tokens, made, rfl⟩,
    fun options document read => ?_⟩
  rcases Xml.read_eq_ok.mp read with ⟨e, root, _⟩
  rw [root] at broken
  cases broken

end Package
end ProductGraph
