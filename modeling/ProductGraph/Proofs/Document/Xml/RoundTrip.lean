import ProductGraph.Proofs.Document.Reading
import ProductGraph.Proofs.Document.Xml.Carried

namespace ProductGraph

/-!
# Markup read back

A package that came from a document is written as markup and read back: the header and the contents are the same, the
fragments of individuals in their order, and the namespaces are those that were declared.

A namespace is declared by an attribute that its name is part of.  Names that mean something inside tags are not
written in any other way, so what is said here is about names of plain characters.
-/

namespace Xml

open Markup (Element Token ReadAs IsPlainName AttributesPlain isPlainChar)

/-! ## Namespaces -/

/-- A name that a namespace can be declared for: letters and digits of ASCII, `_`, `-` and `.`. -/
def Declarable (name : String) : Prop := ∀ c ∈ name.toList, c.isAlphanum = true ∨ c ∈ ['_', '-', '.']

instance (name : String) : Decidable (Declarable name) :=
  decidable_of_iff (name.toList.all fun c => decide (c.isAlphanum = true ∨ c ∈ ['_', '-', '.'])) (by simp [Declarable])

theorem isPlainChar_of_isAlphanum {c : Char} (alphanum : c.isAlphanum = true) : isPlainChar c = true := by
  have marks : ∀ mark ∈ " \r\n\t\x0c<>/!?\"'=".toList, (!mark.isAlphanum) = true := List.all_eq_true.mp rfl
  by_contra special
  have isMark : c ∈ " \r\n\t\x0c<>/!?\"'=".toList := by
    simp [isPlainChar, Markup.isTrailingGap, Markup.isGap] at special ⊢
    grind
  have notAlphanum := marks c isMark
  rw [alphanum] at notAlphanum
  cases notAlphanum

/-- The name of the attribute that declares a namespace. -/
def declaration (name : String) : String := "xmlns:" ++ name

theorem declaredNamespace?_declaration (name : String) : declaredNamespace? (declaration name) = some name := by
  rw [declaredNamespace?, declaration, String.toList_append]
  exact congrArg some String.ofList_toList

theorem isDeclaration_declaration (name : String) : isDeclaration (declaration name) = true := by
  rw [isDeclaration, declaredNamespace?_declaration]
  exact Bool.or_true _

theorem declaration_injective : Function.Injective declaration := by
  intro first second same
  have names := congrArg declaredNamespace? same
  rw [declaredNamespace?_declaration, declaredNamespace?_declaration] at names
  exact Option.some.inj names

/-- A name that a namespace can be declared for in an attribute: no character of it ends the name of the attribute or
means anything to the tag around it. -/
def Nameable (name : String) : Prop := ∀ c ∈ name.toList, Markup.isNameChar c = true

instance (name : String) : Decidable (Nameable name) :=
  decidable_of_iff (name.toList.all Markup.isNameChar = true) List.all_eq_true

theorem Declarable.nameable {name : String} (declarable : Declarable name) : Nameable name := by
  have others : ∀ c ∈ ['_', '-', '.'], isPlainChar c = true := List.all_eq_true.mp rfl
  intro c member
  exact Markup.isNameChar_of_isPlainChar ((declarable c member).elim isPlainChar_of_isAlphanum (others c))

theorem isAttributeName_declaration {name : String} (nameable : Nameable name) :
    Markup.IsAttributeName (declaration name) := by
  have start : ∀ c ∈ "xmlns:".toList, Markup.isNameChar c = true := List.all_eq_true.mp rfl
  rw [Markup.IsAttributeName, declaration, String.toList_append]
  exact ⟨nofun, List.forall_mem_append.mpr ⟨start, nameable⟩⟩

theorem sorted_declaredNamespaces (own : Namespaces) : Keyed.Sorted (Document.declaredNamespaces own) :=
  (Keyed.sorted_ofList _).insertAll own

/-- What holds of the standard names and of those of a document holds of all that it declares when it is written. -/
theorem forall_declaredNamespaces {P : String → Prop} {own : Namespaces}
    (standard : ∀ n ∈ Keyed.ofList Vocabulary.standardNamespaces, P n.1) (each : ∀ n ∈ own, P n.1) :
    ∀ n ∈ Document.declaredNamespaces own, P n.1 := by
  intro n member
  have found := Keyed.get?_of_mem (sorted_declaredNamespaces own).nodup member
  rw [Document.declaredNamespaces, Keyed.get?_insertAll] at found
  rcases Option.or_eq_some_iff.mp found with inOwn | ⟨_, inStandard⟩
  · exact each _ (List.mem_reverse.mp (Keyed.mem_of_get? inOwn))
  · exact standard _ (Keyed.mem_of_get? inStandard)

/-- If the names of a document can be declared, so can those that it declares when it is written. -/
theorem declarable_declaredNamespaces {own : Namespaces} (declarable : ∀ n ∈ own, Declarable n.1) :
    ∀ n ∈ Document.declaredNamespaces own, Declarable n.1 :=
  forall_declaredNamespaces (by decide) declarable

theorem nameable_declaredNamespaces {own : Namespaces} (nameable : ∀ n ∈ own, Nameable n.1) :
    ∀ n ∈ Document.declaredNamespaces own, Nameable n.1 :=
  forall_declaredNamespaces (by decide) nameable

/-! ## The attributes of a package -/

def declarations (namespaces : Namespaces) : List (String × String) := namespaces.map fun n => (declaration n.1, n.2)

theorem isDeclaration_declarations (namespaces : Namespaces) :
    ∀ a ∈ declarations namespaces, isDeclaration a.1 = true :=
  List.forall_mem_map.mpr fun n _ => isDeclaration_declaration n.1

theorem packageAttributes_eq (document : Document) : packageAttributes document =
    declarations (Document.declaredNamespaces document.namespaces) ++ attributes document.header := rfl

theorem attributesPlain_packageAttributes {document : Document}
    (nameable : ∀ n ∈ document.namespaces, Nameable n.1) :
    AttributesPlain (packageAttributes document) := by
  have fields := attributesPlain_attributes document.header
  have names := nameable_declaredNamespaces nameable
  rw [packageAttributes_eq]
  constructor
  · exact List.forall_mem_append.mpr
      ⟨List.forall_mem_map.mpr fun n member => isAttributeName_declaration (names n member), fields.plain⟩
  · rw [List.map_append, List.nodup_append]
    refine ⟨?_, fields.distinct, ?_⟩
    · have distinct := (sorted_declaredNamespaces document.namespaces).nodup
      have declared : ((Keyed.names (Document.declaredNamespaces document.namespaces)).map declaration).Nodup :=
        List.Pairwise.map declaration (fun _ _ apart same => apart (declaration_injective same)) distinct
      rw [Keyed.names, List.map_map] at declared
      rw [declarations, List.map_map]
      exact declared
    · intro first inDeclarations second inFields same
      rcases List.mem_map.mp inDeclarations with ⟨a, member, rfl⟩
      rcases List.mem_map.mp inFields with ⟨b, alsoMember, rfl⟩
      have declares := isDeclaration_declarations _ a member
      rw [same, isDeclaration_attributes _ b alsoMember] at declares
      cases declares

/-- The namespaces that a package element declares are those that were declared when it was written. -/
theorem namespaces_eq {document : Document} {e : Element} (written : e.attributes = packageAttributes document) :
    namespaces e = Document.declaredNamespaces document.namespaces := by
  have noField : (attributes document.header).filterMap
      (fun a => (declaredNamespace? a.1).map fun name => (name, a.2)) = [] := by
    rw [List.filterMap_eq_nil_iff]
    intro a member
    have noDeclaration := isDeclaration_attributes document.header a member
    rw [isDeclaration, Bool.or_eq_false_iff, Option.isSome_eq_false_iff, Option.isNone_iff_eq_none] at noDeclaration
    rw [noDeclaration.2]
    rfl
  have declared : (declarations (Document.declaredNamespaces document.namespaces)).filterMap
      (fun a => (declaredNamespace? a.1).map fun name => (name, a.2)) =
      Document.declaredNamespaces document.namespaces := by
    rw [declarations, List.filterMap_map]
    refine (List.filterMap_congr fun n _ => ?_).trans List.filterMap_some
    rw [Function.comp_apply, declaredNamespace?_declaration]
    rfl
  rw [namespaces, written, packageAttributes_eq, List.filterMap_append, noField, declared, List.append_nil,
    Keyed.ofList_of_sorted (sorted_declaredNamespaces _)]

/-! ## The header -/

theorem readsChildren_withChild (kind : Kind) : ReadsChildren kind (withChild (some kind)) := fun _ _ _ => rfl

/-- Attributes and children tell every field of a header except for its kind. -/
theorem mem_of_get?_package {name : String} {shape : Shape} (named : Kind.package.shapes.get? name = some shape)
    (notKind : name ≠ "itemType") : name ∈ attributeFields.map (·.1) ++ childFields.map (·.1) := by
  have all : ∀ s ∈ Kind.package.shapes,
      s.1 ≠ "itemType" → s.1 ∈ attributeFields.map (·.1) ++ childFields.map (·.1) := by decide
  exact all _ (Keyed.mem_of_get? named) notKind

/-- A header without its kind is read from the attributes and the children that it is written as, if what is to be read
of each field is read as that field. -/
theorem header_eq {options : ReadingOptions} {fields : Fields} (presents : Presents .package fields)
    (same : ∀ f ∈ fields, (heard f.1 f.2).bind (Normal.field? options (some .package) f.1) = some f.2)
    (noKind : fields.get? "itemType" = none) {e : Element}
    {declaring : List (String × String)} (declare : ∀ a ∈ declaring, isDeclaration a.1 = true)
    (attributesAre : e.attributes = declaring ++ attributes fields) {elements : List Element}
    (fills : Fills (target fields) (childFields.map (·.1))
      fun fields => elements.foldl (withChild (some .package)) fields) :
    Normal.fields options (some .package) (elements.foldl (withChild (some .package)) (withAttributes [] e)) =
      fields := by
  have all := fills.comp (fills_attributes presents declare attributesAre) (by decide)
  have rest : ∀ name, name ∉ attributeFields.map (·.1) ++ childFields.map (·.1) →
      Keyed.get? [] name = target fields name := by
    intro name outside
    refine (target_of_get? ?_).symm
    by_cases isKind : name = "itemType"
    · rw [isKind, noKind]
    · cases shaped : Kind.package.shapes.get? name with
      | none => exact get?_of_unshaped presents shaped
      | some shape => exact absurd (mem_of_get?_package shaped isKind) outside
  rcases get?_of_fills all Keyed.sorted_nil (fun name _ => rfl) rest with ⟨sorted, found⟩
  exact fields_of_target presents.sorted sorted found same

/-! ## The graph -/

theorem exists_value_of_kind {d : ItemData} (isProperty : d.kind = .propertyValue) :
    ∃ s, d.fields.get? "value" = some (.string s) := by
  cases d with
  | property p => exact ⟨p.value, by rw [ItemData.get?_fields]; rfl⟩
  | _ => cases isProperty

/-- An item that markup carries is written as an element that is read as this item, whatever the options. -/
theorem exists_readElement {d : ItemData} (read : d.Sound ∧ d.Settled) (carried : d.Carried) :
    ∃ tokens e, itemTokens d.toJson = .ok tokens ∧ ReadAs Vocabulary.isRichElement tokens [e] ∧
      ∀ options, itemOfElement options e = .ofJson d.toJson := by
  have presents := presents_fields read.1 read.2 carried
  rcases exists_element presents d.get?_itemType exists_value_of_kind with
    ⟨tokens, e, here, reads, named, attributesAre, fills⟩
  refine ⟨tokens, e, here, reads, fun options => ?_⟩
  rcases itemOfElement_eq options presents d.get?_itemType named attributesAre fills with ⟨raw, sorted, found, item⟩
  rw [item, fields_of_target presents.sorted sorted found (heard_field read carried), ItemData.toJson_eq]

/-- If each content is written as tokens that are read as one element, all of them are, one after another. -/
theorem exists_elements {P : ItemData → Element → Prop} {contents : List ItemData}
    (each : ∀ d ∈ contents, ∃ tokens e, itemTokens d.toJson = .ok tokens ∧
      ReadAs Vocabulary.isRichElement tokens [e] ∧ P d e) :
    ∃ lists elements,
      (contents.map fun d => DocumentItem.ofJson d.toJson).mapM (fun i => itemTokens i.value) = .ok lists ∧
      ReadAs Vocabulary.isRichElement lists.flatten elements ∧ List.Forall₂ P contents elements := by
  induction contents with
  | nil => exact ⟨[], [], rfl, .nil, .nil⟩
  | cons d rest ih =>
      rcases ih fun later member => each later (List.mem_cons_of_mem _ member) with
        ⟨lists, elements, tokens, reads, related⟩
      rcases each d List.mem_cons_self with ⟨first, e, here, alsoReads, own⟩
      refine ⟨first :: lists, e :: elements, ?_, alsoReads.append reads, .cons own related⟩
      rw [List.map_cons, List.mapM_cons]
      exact Outcome.bind_eq_ok.mpr ⟨first, here, Outcome.bind_eq_ok.mpr ⟨lists, tokens, rfl⟩⟩

/-- Elements that are read as the contents beside them are read as these contents in their order. -/
theorem map_eq_of_forall₂ {α : Type} {contents : List ItemData} {elements : List Element} {read : Element → α}
    {wanted : ItemData → α} (each : List.Forall₂ (fun d e => read e = wanted d) contents elements) :
    elements.map read = contents.map wanted := by
  induction each with
  | nil => rfl
  | cons same _ ih => rw [List.map_cons, List.map_cons, same, ih]

/-! ## Documents -/

def graphOf (items : List Element) : Element := .mk graphElement [] items ""

/-- The graph is told from the fields of the header by the names of the elements. -/
theorem partition_graph {before : List Element} (childNames : ∀ e ∈ before, IsChildName e.name) (items : List Element) :
    (before ++ [graphOf items]).partition (fun child => child.name == graphElement) = ([graphOf items], before) := by
  have names : ∀ term ∈ childFields, (term.2 == graphElement) = false := by decide
  have apart : ∀ child ∈ before, (child.name == graphElement) = false := by
    intro child member
    rcases childNames child member with ⟨field, known⟩
    exact names _ known
  have isGraph : ((graphOf items).name == graphElement) = true := beq_self_eq_true graphElement
  rw [List.partition_eq_filter_filter, List.filter_append, List.filter_append]
  have noGraph : before.filter (fun child => child.name == graphElement) = [] := by
    rw [List.filter_eq_nil_iff]
    intro child member
    rw [apart child member]
    exact Bool.false_ne_true
  have all : before.filter (not ∘ fun child => child.name == graphElement) = before := by
    rw [List.filter_eq_self]
    intro child member
    rw [Function.comp_apply, apart child member]
    rfl
  rw [noGraph, all]
  simp [isGraph]

/-- A package element with children of known names and a graph behind them is read as a document with the namespaces
that it declares and the items of its graph. -/
theorem documentOfElement_graph (options : ReadingOptions) (document : Document) {before : List Element}
    (childNames : ∀ e ∈ before, IsChildName e.name) (items : List Element) {e : Element}
    (attributesAre : e.attributes = packageAttributes document) (childrenAre : e.children = before ++ [graphOf items]) :
    documentOfElement options e =
      ⟨Document.declaredNamespaces document.namespaces,
        Normal.fields options (some .package) (before.foldl (withChild (some .package)) (withAttributes [] e)),
        items.map (itemOfElement options)⟩ := by
  rw [documentOfElement, childrenAre, partition_graph childNames items]
  simp only [namespaces_eq attributesAre, List.flatMap_cons, List.flatMap_nil, List.append_nil]
  rfl

/-- A package element with the attributes and the children of a header, and with a graph behind them, is read as a
document with this header. -/
theorem documentOfElement_eq (options : ReadingOptions) {document : Document}
    (presents : Presents .package document.header)
    (same : ∀ f ∈ document.header, (heard f.1 f.2).bind (Normal.field? options (some .package) f.1) = some f.2)
    (noKind : document.header.get? "itemType" = none) {before : List Element}
    (childNames : ∀ e ∈ before, IsChildName e.name)
    (fills : Fills (target document.header) (childFields.map (·.1))
      fun fields => before.foldl (withChild (some .package)) fields) {items : List Element} {e : Element}
    (attributesAre : e.attributes = packageAttributes document) (childrenAre : e.children = before ++ [graphOf items]) :
    documentOfElement options e =
      ⟨Document.declaredNamespaces document.namespaces, document.header, items.map (itemOfElement options)⟩ := by
  rw [documentOfElement_graph options document childNames items attributesAre childrenAre,
    header_eq presents same noKind (isDeclaration_declarations _)
      (attributesAre.trans (packageAttributes_eq _)) fills]

/-- A document is written as a package element with the elements of its header and its graph, and read as this element
if these are read. -/
theorem exists_read (document : Document) (nameable : ∀ n ∈ document.namespaces, Nameable n.1)
    {lists : List (List Token)} (written : document.items.mapM (fun i => itemTokens i.value) = .ok lists)
    {before items : List Element} (header : ReadAs Vocabulary.isRichElement (children document.header) before)
    (graph : ReadAs Vocabulary.isRichElement lists.flatten items) :
    ∃ tokens, documentTokens document = .ok tokens ∧
      Markup.root Vocabulary.isRichElement (Token.write tokens) =
        .ok (.mk packageElement (packageAttributes document) (before ++ [graphOf items]) "") := by
  have plain : IsPlainName packageElement := by decide
  have notRich : Vocabulary.isRichElement packageElement = false := by decide
  have inner : ReadAs Vocabulary.isRichElement
      (children document.header ++ .opening graphElement [] :: (lists.flatten ++ [.closing graphElement]))
      (before ++ [graphOf items]) :=
    header.append (.nested (by decide) attributesPlain_nil (by decide) graph)
  refine ⟨_, Outcome.map_eq_ok.mpr ⟨lists, written, ?_⟩,
    Markup.root_write plain (attributesPlain_packageAttributes nameable) notRich inner⟩
  simp

/-- A text of a package element is read as the document of this element. -/
theorem read_of_root (options : ReadingOptions) {text : String} {e : Element}
    (root : Markup.root Vocabulary.isRichElement text = .ok e) (named : e.name = packageElement) :
    read options text = .ok (documentOfElement options e) :=
  read_eq_ok.mpr ⟨e, root, named, rfl⟩

/-- A document that was written as markup is read with its header and its items, and with the namespaces that it
declares. -/
theorem exists_tokens {p : Package} (package : p.Read) (declarable : ∀ n ∈ p.namespaces, Declarable n.1)
    (header : p.header.Carried) (contents : ∀ d ∈ p.contents, d.Carried) :
    ∃ tokens, documentTokens p.toDocument = .ok tokens ∧ ∀ options,
      read options (Token.write tokens) = .ok ⟨Document.declaredNamespaces p.namespaces, p.header.toFields,
        p.contents.map fun d => .ofJson d.toJson⟩ := by
  have presents : Presents .package p.toDocument.header := presents_toFields package.header.1 package.header.2 header
  have noKind : p.header.toFields.get? "itemType" = none := get?_toFields p.header "itemType"
  rcases tells_children presents (readsChildren_withChild .package) with ⟨before, alsoReads, childNames, fills⟩
  rcases exists_elements fun d member => exists_readElement (package.contents d member) (contents d member) with
    ⟨lists, elements, items, reads, graph⟩
  rcases exists_read p.toDocument (fun n member => (declarable n member).nameable) items alsoReads reads with
    ⟨tokens, made, root⟩
  refine ⟨tokens, made, fun options => ?_⟩
  rw [read_of_root options root rfl, documentOfElement_eq options presents
      (heard_headerField package.header header) noKind childNames fills rfl rfl,
    map_eq_of_forall₂ (graph.imp fun _ _ same => same options)]
  rfl

end Xml

namespace Package

/-- A package whose namespaces are all declared. -/
def declared (p : Package) : Package :=
  ⟨p.header, Document.declaredNamespaces p.namespaces, p.contents.map ItemData.restored⟩

/-- Markup that a package was written as gives the package again, with its namespaces declared, and nothing is
refused. -/
theorem exists_markup {schemas : Validator} (standard : schemas.Standard) {p : Package} (read : p.Read)
    (declarable : ∀ n ∈ p.namespaces, Xml.Declarable n.1) (header : p.header.Carried)
    (contents : ∀ d ∈ p.contents, d.Carried) :
    ∃ written, p.text .xml = .ok written ∧ ∀ checks options, Package.ofText schemas checks options .xml written =
      .ok (p.declared, ⟨p.contents.length, [], p.declared.check checks options.defaultLanguage⟩) := by
  rcases Xml.exists_tokens read declarable header contents with ⟨tokens, made, document⟩
  refine ⟨_, Outcome.map_eq_ok.mpr ⟨tokens, made, rfl⟩, fun checks options => ?_⟩
  refine Outcome.bind_eq_ok.mpr ⟨_, Outcome.mapError_eq_ok.mpr (document options), ?_⟩
  exact ofDocument_of_headerOf standard (headerOf_toFields standard read.header.1)
    (fun d member => (read.contents d member).1) _ checks options.defaultLanguage

/-- A package that came from a document in either format is written as markup and read back under any options: nothing
is refused, the header is the same, the namespaces are those declared, and the items with content are the same in the
same order.  The namespaces must have names that can be declared, the texts must be no layout, descriptions must be
read back from between their tags, and bounds on values as they are printed. -/
theorem ofText_text_xml {checks : CheckSet} {options : ReadingOptions} {format : Format} {text : String}
    {p : Package} {report : ImportReport}
    (made : Package.ofText Schemas.library.validator checks options format text = .ok (p, report))
    (declarable : ∀ n ∈ p.namespaces, Xml.Declarable n.1) (header : p.header.Carried)
    (contents : ∀ d ∈ p.contents, d.Carried) (nextChecks : CheckSet) (nextOptions : ReadingOptions) :
    ∃ written next nextReport, p.text .xml = .ok written ∧
      Package.ofText Schemas.library.validator nextChecks nextOptions .xml written = .ok (next, nextReport) ∧
      nextReport.failures = [] ∧ next.header = p.header ∧
      next.namespaces = Document.declaredNamespaces p.namespaces ∧ next.items.map (·.data) = p.contents.map some := by
  have read := read_of_ofText Schemas.library_standard made
  rcases exists_markup Schemas.library_standard read declarable header contents with ⟨written, text, reads⟩
  refine ⟨written, p.declared, _, text, reads nextChecks nextOptions, rfl, rfl, rfl, ?_⟩
  rw [declared, List.map_map]
  rfl

theorem readsBack_car : Xml.ReadsBack "A thing that <b>drives</b>" := by
  have read : (Markup.root Vocabulary.isRichElement
      ("<dcterms:description>" ++ "A thing that <b>drives</b>" ++ "</dcterms:description>")).toOption.map (·.text) =
      some "A thing that <b>drives</b>" := by decide +kernel
  rcases Option.map_eq_some_iff.mp read with ⟨e, there, same⟩
  refine ⟨e, ?_, same⟩
  cases root : Markup.root Vocabulary.isRichElement
      ("<dcterms:description>" ++ "A thing that <b>drives</b>" ++ "</dcterms:description>") with
  | error reason => rw [root] at there; cases there
  | ok other => rw [root] at there; cases there; rfl

theorem carried_car : ∀ d ∈ carContents, d.Carried := by
  have described : ∀ d ∈ carContents, ∀ i ∈ d.identifiable, ∀ t ∈ i.description,
      t.value = "A thing that <b>drives</b>" := by decide
  have identified : ∀ d ∈ carContents, (∀ i ∈ d.identifiable, ∀ t ∈ i.title, Markup.Stands t.value) ∧
      (∀ e ∈ d.element, ∀ s ∈ e.icon, Xml.Visible s) ∧
      (∀ x ∈ d.bounds, RealValue.ofText? (Text.trim x.json.toList) = some (.finite x)) ∧
      d.kind ≠ .propertyValue := by decide +kernel
  have own : ∀ d ∈ carContents, (∀ i ∈ d.individual, (∀ s ∈ i.revision, Xml.Visible s) ∧
      (∀ s ∈ i.priorRevision, Xml.Visible s) ∧ ∀ s ∈ i.creator, Xml.Visible s) ∧
      ∀ p ∈ d.properties, Markup.Stands p.value := by decide +kernel
  intro d member
  rcases identified d member with ⟨title, icon, bounds, noValue⟩
  rcases own d member with ⟨individual, properties⟩
  constructor
  case title => exact title
  case description => exact fun i has t inText => described d member i has t inText ▸ readsBack_car
  case icon => exact icon
  case revision => exact fun i has => (individual i has).1
  case priorRevision => exact fun i has => (individual i has).2.1
  case creator => exact fun i has => (individual i has).2.2
  case properties => exact properties
  case value => rintro p rfl; exact absurd rfl noValue
  case bounds => exact bounds

theorem ofText_text_xml_car :
    ∃ text p report, Package.ofText Schemas.library.validator .all .standard .xml text = .ok (p, report) ∧
      p.contents = carContents ∧
      ∃ written next nextReport, p.text .xml = .ok written ∧
        Package.ofText Schemas.library.validator .none ⟨"o", "d", "de"⟩ .xml written = .ok (next, nextReport) ∧
        nextReport.failures = [] ∧ next.header = carPackage.header ∧
        next.items.map (·.data) = carContents.map some := by
  have declarable : ∀ n ∈ carPackage.namespaces, Xml.Declarable n.1 := by decide
  have header : carPackage.header.Carried := by
    refine ⟨?_, nofun, nofun, nofun⟩
    decide
  have contents : carPackage.declared.contents = carContents := by
    rw [declared, contents_restored, contents_carPackage]
  rcases exists_markup Schemas.library_standard read_carPackage declarable header
    (contents_carPackage ▸ carried_car) with ⟨text, _, reads⟩
  have made := reads .all .standard
  refine ⟨text, _, _, made, contents, ?_⟩
  rcases ofText_text_xml made (Xml.declarable_declaredNamespaces declarable) header (contents.symm ▸ carried_car) .none
    ⟨"o", "d", "de"⟩ with ⟨written, next, report, first, second, fine, header, _, same⟩
  exact ⟨written, next, report, first, second, fine, header, contents ▸ same⟩

end Package
end ProductGraph
