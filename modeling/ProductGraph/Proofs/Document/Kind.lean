import ProductGraph.Proofs.Document.JsonLd.Items
import ProductGraph.Proofs.Document.Reading
import ProductGraph.Proofs.Document.Xml.Frame

namespace ProductGraph

/-!
# The kind that an item is shaped under

Reading an item depends on its kind: on it hang the namespace of a bare identifier, which fields are lists, and whether
fragments are looked for under the names of their classes.  So the kind is found first, from the name of an element or
from what the item declares, and the item is shaped under it.  The item that comes out is of the kind that its shaped
value declares.

Both are the same kind, whatever else the item says, unless it declares its kind in a way that is understood only once
the item is shaped: by a typed literal in linked data, or by an attribute or a child of the element in markup.
-/

open Markup (Element)

namespace Xml

/-- What an element holds, read as an item of a kind. -/
def held (kind : Option Kind) (e : Element) : Fields :=
  e.children.foldl (withPart kind) (withText e (withAttributes [("itemType", .string e.name)] e))

end Xml

namespace Document

/-- What a document has for an item: a value of linked data or an element of markup. -/
inductive Source where
  | value (v : Json)
  | element (e : Element)

/-- What a text has for its items, in their order. -/
def sources (format : Format) (text : String) : List Source :=
  match format with
  | .jsonLd =>
    match Json.ofText? text with
    | some (.object fields) => ((JsonLd.graph (Keyed.get? fields "@graph")).toOption.getD []).map .value
    | _ => []
  | .xml =>
    match Markup.root Vocabulary.isRichElement text with
    | .ok e => ((e.children.filter fun c => c.name == Xml.graphElement).flatMap (·.children)).map .element
    | .error _ => []

namespace Source

/-- The kind that an item is shaped under: the one that its value declares or that its element is named for. -/
def kind? : Source → Option Kind
  | value v =>
    match JsonLd.toFields.run v with
    | .object fields => JsonLd.kindOf? fields
    | _ => none
  | element e => Kind.ofTag? e.name

/-- The value of an item when it is shaped under a kind. -/
def shaped (options : ReadingOptions) (kind : Option Kind) : Source → Json
  | value v =>
    match JsonLd.toFields.run v with
    | .object fields =>
      .object (Normal.fields options kind (if kind.any Kind.isIndividual then JsonLd.gathered fields else fields))
    | other => other
  | element e => .object (Normal.fields options kind (Xml.held kind e))

/-- The item that is read. -/
def read (options : ReadingOptions) (s : Source) : DocumentItem := .ofJson (s.shaped options s.kind?)

/-- Whether a source declares its kind in one way only: in linked data not by a literal, in markup neither by an
attribute nor by a child of the element that is named for it. -/
def DeclaresOnce : Source → Prop
  | value v =>
    ∀ fields declared inner, JsonLd.toFields.run v = .object fields → Keyed.get? fields "itemType" = some declared →
      Normal.unwrapping.run declared = .object inner → (Keyed.names inner).all Normal.literalNames.contains = false
  | element e => (∀ a ∈ e.attributes, a.1 ≠ "itemType") ∧ ∀ child ∈ e.children, child.name ≠ "itemType"

end Source

/-! ## The items of a text -/

theorem item_eq_read (options : ReadingOptions) (v : Json) : JsonLd.item options v = (Source.value v).read options := by
  rw [JsonLd.item, Source.read, Source.shaped, Source.kind?]
  cases JsonLd.toFields.run v <;> rfl

theorem itemOfElement_eq_read (options : ReadingOptions) (e : Element) :
    Xml.itemOfElement options e = (Source.element e).read options := rfl

/-- The items that are read from a text are its sources, each shaped under its kind. -/
theorem items_of_ofText {format : Format} {options : ReadingOptions} {text : String} {document : Document}
    (read : Document.ofText format options text = .ok document) :
    document.items = (sources format text).map (Source.read options) := by
  cases format with
  | jsonLd =>
      rcases JsonLd.read_eq_ok.mp read with ⟨fields, list, parsed, graph, rfl⟩
      simp only [sources, parsed, graph, Except.toOption, Option.getD_some, List.map_map]
      exact List.map_congr_left fun v _ => item_eq_read options v
  | xml =>
      rcases Xml.read_eq_ok.mp read with ⟨e, root, _, rfl⟩
      simp only [sources, root, Xml.documentOfElement, List.partition_eq_filter_filter, List.map_flatMap, List.map_map]
      rfl

end Document

/-! ## Fields that say the kind -/

namespace Normal

variable {options : ReadingOptions} {kind : Option Kind}

/-- A value is the same text when it is plain, unless it is a literal. -/
theorem text?_plain {v : Json}
    (noLiteral : ∀ inner, v = .object inner → (Keyed.names inner).all literalNames.contains = false) :
    (plain v).text? = v.text? := by
  cases v with
  | object inner =>
      rw [plain, literal, noLiteral inner rfl]
      rfl
  | _ => rfl

/-- The kind that is declared stays declared. -/
theorem text?_field?_itemType {declared : Json}
    (noLiteral : ∀ inner, unwrapping.run declared = .object inner →
      (Keyed.names inner).all literalNames.contains = false) :
    (field? options kind "itemType" declared).bind Json.text? = (unwrapping.run declared).text? := by
  have field_eq : field? options kind "itemType" declared =
      if (plain (unwrapping.run declared)).isNull then none else some (plain (unwrapping.run declared)) := rfl
  rw [field_eq, ← text?_plain noLiteral]
  cases plain (unwrapping.run declared) <;> rfl

end Normal

namespace Document
namespace Source

theorem sorted_of_toFields {v : Json} {fields : Fields} (is : JsonLd.toFields.run v = .object fields) :
    Keyed.Sorted fields := by
  cases v with
  | object given =>
      rw [Walk.run_object] at is
      cases is
      exact Keyed.sorted_ofList _
  | array list =>
      rw [Walk.run_array] at is
      cases is
  | _ => cases is

/-- A fragment under its class belongs to a field for fragments. -/
theorem isFragmentField_of_fragment? {hasClass : String} {v : Json} {f : String × Json}
    (made : JsonLd.fragment? hasClass v = some f) : JsonLd.isFragmentField f.1 = true := by
  have link : ∀ fields, JsonLd.isFragmentField (JsonLd.linkField fields) = true := by
    intro fields
    rw [JsonLd.linkField]
    split <;> rfl
  cases v with
  | null => cases made
  | object fields =>
      simp only [JsonLd.fragment?] at made
      split at made <;> cases made
      · exact link _
      · rfl
  | _ =>
      cases made
      rfl

/-- Moving fragments to their fields leaves the other fields of the vocabulary alone. -/
theorem get?_gathered {name : String} (known : Vocabulary.isField name = true)
    (other : JsonLd.isFragmentField name = false) (fields : Fields) :
    (JsonLd.gathered fields).get? name = fields.get? name := by
  have stays : JsonLd.isFragmentClass name = false := by
    rw [JsonLd.isFragmentClass, known]
    rfl
  have apart : ∀ f ∈ JsonLd.fragments fields, f.1 ≠ name := by
    intro f member same
    rcases List.mem_flatMap.mp member with ⟨_, _, member⟩
    rcases List.mem_filterMap.mp member with ⟨v, _, made⟩
    rw [← same, isFragmentField_of_fragment? made] at other
    cases other
  refine (JsonLd.get?_addFragments_of_ne apart _).trans ?_
  rw [Keyed.get?_filter fields fun name => !JsonLd.isFragmentClass name, stays]
  rfl

/-- What fields in normal form declare as their kind is what was given, unless that is a literal. -/
theorem declared_ofJson (options : ReadingOptions) (kind : Option Kind) {given : Fields} (sorted : Keyed.Sorted given)
    (noLiteral : ∀ declared inner, given.get? "itemType" = some declared →
      Normal.unwrapping.run declared = .object inner → (Keyed.names inner).all Normal.literalNames.contains = false) :
    (DocumentItem.ofJson (.object (Normal.fields options kind given))).declared =
      ((given.get? "itemType").map Normal.unwrapping.run).bind Json.text? := by
  have own : (DocumentItem.ofJson (.object (Normal.fields options kind given))).declared =
      ((Normal.fields options kind given).get? "itemType").bind Json.text? := rfl
  rw [own, Normal.get?_fields_of_sorted sorted]
  cases found : given.get? "itemType" with
  | none => rfl
  | some declared => exact Normal.text?_field?_itemType (noLiteral declared · found)

/-- An item of linked data is of the kind that it was shaped under. -/
theorem kind_read_value {v : Json} (once : (value v).DeclaresOnce) (options : ReadingOptions) :
    ((value v).read options).kind = (value v).kind? := by
  cases is : JsonLd.toFields.run v with
  | object fields =>
      have sorted := sorted_of_toFields is
      let kept := if (JsonLd.kindOf? fields).any Kind.isIndividual then JsonLd.gathered fields else fields
      have sortedKept : Keyed.Sorted kept := by
        dsimp only [kept]
        split
        · exact JsonLd.sorted_gathered sorted
        · exact sorted
      have same : Keyed.get? kept "itemType" = Keyed.get? fields "itemType" := by
        dsimp only [kept]
        split
        · exact get?_gathered rfl rfl fields
        · rfl
      have read_eq : (value v).read options =
          .ofJson (.object (Normal.fields options (JsonLd.kindOf? fields) kept)) := by
        simp only [read, shaped, kind?, is]
        rfl
      have declared := declared_ofJson options (JsonLd.kindOf? fields) sortedKept
        fun declared inner found => once fields declared inner is (same ▸ found)
      have kind_eq : (value v).kind? = JsonLd.kindOf? fields := by
        simp only [kind?, is]
      rw [same] at declared
      rw [read_eq, kind_eq]
      exact congrArg (Option.bind · Kind.ofTag?) declared
  | _ =>
      simp only [read, shaped, kind?, is]
      rfl

/-- An element that declares its kind by its name alone declares it by its name. -/
theorem declared_read_element {e : Element} (once : (element e).DeclaresOnce) (options : ReadingOptions) :
    ((element e).read options).declared = some e.name := by
  have unnamed : ∀ t ∈ Vocabulary.terms, t.field = "itemType" → t.markup.name? = none := by decide
  have attributes : ∀ a ∈ e.attributes, Xml.fieldOf a.1 ≠ "itemType" :=
    fun a member stands => once.1 a member (Xml.eq_of_fieldOf_eq unnamed stands)
  have children : ∀ child ∈ e.children, Xml.fieldOf child.name ≠ "itemType" :=
    fun child member stands => once.2 child member (Xml.eq_of_fieldOf_eq unnamed stands)
  have kept : Xml.Kept "itemType" [("itemType", .string e.name)] (Xml.held (Kind.ofTag? e.name) e) :=
    ((Xml.kept_withAttributes attributes _).trans (Xml.kept_withText (by decide) _)).trans
      (Xml.kept_children (by decide) children _)
  have found : (Xml.held (Kind.ofTag? e.name) e).get? "itemType" = some (.string e.name) := kept.same
  have declared := declared_ofJson options (Kind.ofTag? e.name)
    (kept.sorted (List.pairwise_singleton _ _))
  rw [found] at declared
  refine declared fun declared inner is => ?_
  cases is
  exact nofun

/-- An item is of the kind that it was shaped under. -/
theorem kind_read {s : Source} (once : s.DeclaresOnce) (options : ReadingOptions) :
    (s.read options).kind = s.kind? := by
  cases s with
  | value v => exact kind_read_value once options
  | element e => exact congrArg (Option.bind · Kind.ofTag?) (declared_read_element once options)

end Source

/-! ## Wheels -/

def wheelText (attributes : String) : String :=
  "<pig:aPackage><pig:graph><pig:anEntity" ++ attributes ++ "/></pig:graph></pig:aPackage>"

def Source.isWheel (attributes : List (String × String)) : Source → Bool
  | .value _ => false
  | .element e => e.name == "pig:anEntity" && e.attributes == attributes && e.children.isEmpty

theorem Source.eq_of_isWheel {attributes : List (String × String)} {s : Source} (wheel : s.isWheel attributes = true) :
    ∃ e, s = .element e ∧ e.name = "pig:anEntity" ∧ e.attributes = attributes ∧ e.children = [] := by
  cases s with
  | value v => cases wheel
  | element e =>
      rw [isWheel, Bool.and_eq_true, Bool.and_eq_true, beq_iff_eq, beq_iff_eq, List.isEmpty_iff] at wheel
      exact ⟨e, rfl, wheel.1.1, wheel.1.2, wheel.2⟩

/-! ## Documents -/

/-- Every item that is read from a text is shaped under the kind that its source declares, and it is of that kind if
the source declares it once.  An item of markup then declares the name of its element. -/
theorem kind_of_ofText {format : Format} {options : ReadingOptions} {text : String} {document : Document}
    (read : Document.ofText format options text = .ok document) :
    List.Forall₂ (fun s item => item = .ofJson (s.shaped options s.kind?) ∧
      (s.DeclaresOnce → item.kind = s.kind? ∧ ∀ e, s = .element e → item.declared = some e.name))
      (sources format text) document.items := by
  rw [items_of_ofText read, List.forall₂_map_right_iff, List.forall₂_same]
  refine fun s _ => ⟨rfl, fun once => ⟨s.kind_read once options, ?_⟩⟩
  rintro e rfl
  exact Source.declared_read_element once options

/-- A package with one wheel, which declares its kind by a literal. -/
def literalWheelText : String :=
  "\x7b\"@graph\":[\x7b\"@id\":\"x\",\"pig:itemType\":\x7b\"@value\":\"pig:anEntity\"\x7d\x7d]\x7d"

-- A literal declares a kind that is not seen before the item is shaped.
example : (sources .jsonLd literalWheelText).map Source.kind? = [none] ∧
    ((Document.ofText .jsonLd .standard literalWheelText).toOption.map fun document => document.items.map (·.kind)) =
      some [some .entityInstance] := by decide +kernel

theorem kind_of_ofText_wheel :
    ∃ document e item, Document.ofText .xml .standard (wheelText " id='x'") = .ok document ∧
      sources .xml (wheelText " id='x'") = [.element e] ∧ document.items = [item] ∧
      (Source.element e).DeclaresOnce ∧ item = .ofJson ((Source.element e).shaped .standard (some .entityInstance)) ∧
      item.kind = some .entityInstance ∧ item.declared = some "pig:anEntity" := by
  have reads : (Document.ofText .xml .standard (wheelText " id='x'")).isOk = true := by decide +kernel
  have wheel : (sources .xml (wheelText " id='x'")).map (Source.isWheel [("id", "x")]) = [true] := by decide +kernel
  cases read : Document.ofText .xml .standard (wheelText " id='x'") with
  | error fault =>
      rw [read] at reads
      cases reads
  | ok document =>
      rcases List.map_eq_singleton_iff.mp wheel with ⟨s, only, isWheel⟩
      rcases s.eq_of_isWheel isWheel with ⟨e, rfl, name, attributes, children⟩
      have each := kind_of_ofText read
      rw [only] at each
      rcases List.forall₂_cons_left_iff.mp each with ⟨item, rest, ⟨shaped, plain⟩, left, items⟩
      cases List.forall₂_nil_left_iff.mp left
      have once : (Source.element e).DeclaresOnce := by
        rw [Source.DeclaresOnce, attributes, children]
        exact ⟨by decide, nofun⟩
      have kind : (Source.element e).kind? = some .entityInstance := by
        rw [Source.kind?, name]
        rfl
      rcases plain once with ⟨ofKind, declared⟩
      rw [kind] at shaped ofKind
      exact ⟨document, e, item, rfl, only, items, once, shaped, ofKind, name ▸ declared e rfl⟩

/-- An attribute may declare another kind than the name of the element: what is shaped as a node comes out as a class
of nodes. -/
theorem exists_kind_ne_of_attribute :
    ∃ document s item, Document.ofText .xml .standard (wheelText " id='x' itemType='pig:Entity'") = .ok document ∧
      sources .xml (wheelText " id='x' itemType='pig:Entity'") = [s] ∧ document.items = [item] ∧
      s.kind? = some .entityInstance ∧ item.kind = some .entityClass := by
  have kinds : ((Document.ofText .xml .standard (wheelText " id='x' itemType='pig:Entity'")).toOption.map
      fun document => document.items.map (·.kind)) = some [some .entityClass] := by decide +kernel
  have source : (sources .xml (wheelText " id='x' itemType='pig:Entity'")).map Source.kind? =
      [some .entityInstance] := by decide +kernel
  cases read : Document.ofText .xml .standard (wheelText " id='x' itemType='pig:Entity'") with
  | error fault =>
      rw [read] at kinds
      cases kinds
  | ok document =>
      rw [read] at kinds
      rcases List.map_eq_singleton_iff.mp source with ⟨s, only, shapedUnder⟩
      rcases List.map_eq_singleton_iff.mp (Option.some.inj kinds) with ⟨item, alone, ofKind⟩
      exact ⟨document, s, item, rfl, only, alone, shapedUnder, ofKind⟩

end Document
end ProductGraph
