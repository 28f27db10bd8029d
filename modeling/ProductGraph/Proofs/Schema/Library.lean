import ProductGraph.Proofs.Outcome
import ProductGraph.Proofs.Schema.Decides
import ProductGraph.Proofs.Schema.Form
import ProductGraph.Schema.Store

namespace ProductGraph

/-!
# What the schemas of the library accept

Every field of every kind has one of a few shapes, and the schema of a kind accepts exactly the objects that have the
required fields and whose fields are all fields of the kind, each of its shape.  This is what the documents say once
they are compiled, their references resolved and their rules applied.  Nothing else about schemas is used further on.
-/

def IsText (v : Json) : Prop := ∃ s, v = .string s

/-- A text of the form of identifiers. -/
def IsIdentifier (v : Json) : Prop := ∃ s, v = .string s ∧ SchemaDocument.identifierForm.matchesText s = true

/-- A whole number from zero up to the number that stands for no bound, written with or without a fraction. -/
def IsCount (v : Json) : Prop :=
  ∃ n : Numeral, v = .number n ∧ n.isWhole = true ∧ 0 ≤ n.toUnits ∧ n.toUnits ≤ unbounded * Binary64.one

/-- The shape of a field. -/
inductive Shape where
  | identifier
  | identifiers
  | texts
  | text
  | textList
  | count
  | number
  | exactly (s : String)
  | properties
  | links
  deriving DecidableEq

namespace Shape

open Schema (Each Closed)

def IsTextEntry : Json → Prop := Closed ["value"] [("lang", IsText), ("value", IsText)]

def IsProperty : Json → Prop :=
  Closed ["hasClass", "value"]
    [("hasClass", IsIdentifier), ("itemType", fun v => v = .string "pig:aProperty"), ("lang", IsText),
     ("value", IsText)]

def IsLink : Json → Prop :=
  Closed ["hasClass", "idRef"]
    [("hasClass", IsIdentifier), ("idRef", IsIdentifier),
     ("itemType", fun v => ∃ s ∈ ["pig:aSourceLink", "pig:aTargetLink"], v = .string s)]

/-- Whether a value has a shape. -/
def Fits : Shape → Json → Prop
  | identifier => IsIdentifier
  | identifiers => Each IsIdentifier
  | texts => Each IsTextEntry
  | text => IsText
  | textList => Each IsText
  | count => IsCount
  | number => fun v => ∃ n, v = .number n
  | exactly s => fun v => v = .string s
  | properties => Each IsProperty
  | links => Each IsLink

def document : Shape → Json
  | identifier => SchemaDocument.shape "identifier"
  | identifiers => SchemaDocument.shape "identifiers"
  | texts => SchemaDocument.shape "text"
  | text => SchemaDocument.anyText
  | textList => SchemaDocument.listOf SchemaDocument.anyText
  | count => SchemaDocument.count
  | number => SchemaDocument.anyNumber
  | exactly s => SchemaDocument.exactly s
  | properties => SchemaDocument.listOf (SchemaDocument.shape "propertyValue")
  | links => SchemaDocument.listOf (SchemaDocument.shape "linkValue")

end Shape

namespace Kind

/-- The fields of a kind with their shapes, by name. -/
def shapes : Kind → Keyed Shape
  | propertyClass =>
    [("composedProperty", .identifiers), ("datatype", .identifier), ("description", .texts), ("hasClass", .identifier),
     ("id", .identifier), ("itemType", .exactly "pig:Property"), ("maxCount", .count), ("maxInclusive", .number),
     ("maxLength", .count), ("minCount", .count), ("minInclusive", .number), ("pattern", .text),
     ("specializes", .identifier), ("title", .texts)]
  | linkClass =>
    [("description", .texts), ("eligibleEndpoint", .identifiers), ("hasClass", .identifier), ("id", .identifier),
     ("itemType", .exactly "pig:Link"), ("specializes", .identifier), ("title", .texts)]
  | entityClass =>
    [("description", .texts), ("eligibleProperty", .identifiers), ("eligibleTargetLink", .identifiers),
     ("hasClass", .identifier), ("icon", .text), ("id", .identifier), ("itemType", .exactly "pig:Entity"),
     ("specializes", .identifier), ("title", .texts)]
  | relationshipClass =>
    [("description", .texts), ("eligibleProperty", .identifiers), ("eligibleSourceLink", .identifier),
     ("eligibleTargetLink", .identifier), ("hasClass", .identifier), ("icon", .text), ("id", .identifier),
     ("itemType", .exactly "pig:Relationship"), ("specializes", .identifier), ("title", .texts)]
  | entityInstance =>
    [("creator", .text), ("description", .texts), ("hasClass", .identifier), ("hasProperty", .properties),
     ("hasTargetLink", .links), ("id", .identifier), ("itemType", .exactly "pig:anEntity"), ("modified", .text),
     ("priorRevision", .textList), ("revision", .text), ("specializes", .identifier), ("title", .texts)]
  | relationshipInstance =>
    [("creator", .text), ("description", .texts), ("hasClass", .identifier), ("hasProperty", .properties),
     ("hasSourceLink", .links), ("hasTargetLink", .links), ("id", .identifier),
     ("itemType", .exactly "pig:aRelationship"), ("modified", .text), ("priorRevision", .textList),
     ("revision", .text), ("specializes", .identifier), ("title", .texts)]
  | propertyValue =>
    [("hasClass", .identifier), ("itemType", .exactly "pig:aProperty"), ("lang", .text), ("value", .text)]
  | sourceLinkValue =>
    [("hasClass", .identifier), ("idRef", .identifier), ("itemType", .exactly "pig:aSourceLink")]
  | targetLinkValue =>
    [("hasClass", .identifier), ("idRef", .identifier), ("itemType", .exactly "pig:aTargetLink")]
  | package =>
    [("creator", .text), ("description", .texts), ("id", .identifier), ("itemType", .exactly "pig:aPackage"),
     ("modified", .text), ("title", .texts)]

/-- The fields that a value of a kind cannot go without. -/
def requiredFields : Kind → List String
  | propertyClass | linkClass | entityClass | relationshipClass => ["itemType", "id"]
  | entityInstance | relationshipInstance => ["itemType", "id", "hasClass"]
  | propertyValue => ["itemType", "hasClass", "value"]
  | sourceLinkValue | targetLinkValue => ["itemType", "hasClass", "idRef"]
  | package => ["itemType"]

/-- What the schema of a kind accepts. -/
def Conforms (kind : Kind) (v : Json) : Prop :=
  Schema.Closed kind.requiredFields (kind.shapes.map fun s => (s.1, s.2.Fits)) v

end Kind

namespace SchemaDocument

/-- The shapes that documents define and refer to. -/
inductive Definition where
  | identifier
  | identifiers
  | text
  | propertyValue
  | linkValue
  deriving DecidableEq

namespace Definition

/-- The name of a definition with its document. -/
def entry : Definition → String × Json
  | identifier => identifierShape
  | identifiers => identifiersShape
  | text => textShape
  | propertyValue => propertyShape
  | linkValue => linkShape

/-- What references to a definition say. -/
def target (d : Definition) : String := "#/$defs/" ++ d.entry.1

def anyText : Schema := .all [.types [.string]]

def reference (d : Definition) : Schema := .all [.reference d.target]

def listOf (each : Schema) : Schema := .all [.items 0 each, .types [.array]]

/-- The rule for objects with the given fields and no others. -/
def closed (required : List String) (named : List (String × Schema)) : Schema :=
  .all [.closedProperties named [], .anything, .required required, .types [.object]]

def schema : Definition → Schema
  | identifier => .all [.pattern identifierPattern identifierForm, .types [.string]]
  | identifiers => listOf identifier.reference
  | text => listOf (closed ["value"] [("lang", anyText), ("value", anyText)])
  | propertyValue =>
    closed ["hasClass", "value"]
      [("hasClass", identifier.reference), ("itemType", .all [.const (.string "pig:aProperty")]), ("lang", anyText),
       ("value", anyText)]
  | linkValue =>
    closed ["hasClass", "idRef"]
      [("hasClass", identifier.reference), ("idRef", identifier.reference),
       ("itemType", .all [.enumeration (["pig:aSourceLink", "pig:aTargetLink"].map .string)])]

end Definition
end SchemaDocument

namespace Shape

open SchemaDocument

def schema : Shape → Schema
  | identifier => Definition.identifier.reference
  | identifiers => Definition.identifiers.reference
  | texts => Definition.text.reference
  | text => Definition.anyText
  | textList => Definition.listOf Definition.anyText
  | count => .all [.bound .atMost (.integer 4294967295), .bound .atLeast (.integer 0), .types [.integer]]
  | number => .all [.types [.number]]
  | exactly s => .all [.const (.string s)]
  | properties => Definition.listOf Definition.propertyValue.reference
  | links => Definition.listOf Definition.linkValue.reference

theorem compile?_document (s : Shape) (depth : Nat) : Schema.compile? (depth + 2) s.document = some s.schema := by
  cases s <;> rfl

end Shape

namespace SchemaDocument
namespace Definition

theorem compile?_patternField (depth : Nat) (text : String) :
    Schema.compile? (depth + 2) (.object [("pattern", .string text), ("type", .string "string")]) =
      (Schema.pattern? text).map fun p => .all [.pattern text p, .types [.string]] := by
  change Option.map Schema.all (do
      let first ← (Schema.pattern? text).map (Schema.pattern text)
      let second ← some (Schema.types [.string])
      return [first, second]) = _
  cases Schema.pattern? text <;> rfl

theorem compile?_entry (d : Definition) (depth : Nat) :
    Schema.compile? (depth + d.entry.2.depth + 1) d.entry.2 = some d.schema := by
  cases d with
  | identifier =>
      have fields_eq : identifier.entry.2 =
          .object [("pattern", .string identifierPattern), ("type", .string "string")] := rfl
      have depth_eq : identifier.entry.2.depth = 1 := rfl
      rw [depth_eq, fields_eq, compile?_patternField, pattern?_identifierPattern]
      rfl
  | _ => rfl

end Definition

/-- The definitions that the document of a kind refers to, in the order in which it does. -/
def definitionsOf : Kind → List Definition
  | .propertyClass => [.identifier, .identifiers, .text]
  | .linkClass | .entityClass | .relationshipClass => [.identifier, .text, .identifiers]
  | .entityInstance | .relationshipInstance => [.identifier, .text, .propertyValue, .linkValue]
  | .propertyValue | .sourceLinkValue | .targetLinkValue => [.identifier]
  | .package => [.text, .identifier]

/-- What the references in the document of a kind lead to. -/
def tableOf (kind : Kind) : SchemaTable := (definitionsOf kind).map fun d => (d.target, d.schema)

/-- The rules that the document of a kind states. -/
def rootOf (kind : Kind) : Schema :=
  .all [.anything, .anything, .closedProperties (kind.shapes.map fun s => (s.1, s.2.schema)) [], .anything,
    .required kind.requiredFields, .anything, .types [.object]]

theorem ofKind_eq (kind : Kind) :
    ofKind kind =
      .object [("$defs", .object (Keyed.ofList ((definitionsOf kind).map Definition.entry))),
        ("$schema", .string "https://json-schema.org/draft/2020-12/schema"), ("additionalProperties", .bool false),
        ("properties", .object (kind.shapes.map fun s => (s.1, s.2.document))),
        ("required", .array (kind.requiredFields.map .string)), ("title", .string kind.tag),
        ("type", .string "object")] := by
  cases kind <;> rfl

end SchemaDocument

namespace Json

theorem depth_le_of_mem {fields : List (String × Json)} {f : String × Json} (member : f ∈ fields) :
    f.2.depth ≤ depthOfFields fields := by
  induction fields with
  | nil => cases member
  | cons e rest ih =>
      rw [depthOfFields]
      rcases List.mem_cons.mp member with rfl | later
      · exact Nat.le_max_left ..
      · exact Nat.le_trans (ih later) (Nat.le_max_right ..)

/-- An object is deeper than what it holds. -/
theorem depth_lt_of_mem {fields : List (String × Json)} {f : String × Json} (member : f ∈ fields) :
    f.2.depth < (Json.object fields).depth :=
  Nat.lt_succ_of_le (depth_le_of_mem member)

end Json

namespace SchemaDocument

/-- A list is turned into another one if each of its items is turned into what stands in the same place. -/
theorem mapM_eq_some {α β : Type} {f : α → Option β} {as : List α} {bs : List β}
    (each : List.Forall₂ (fun a b => f a = some b) as bs) : as.mapM f = some bs := by
  induction each with
  | nil => rfl
  | cons head _ ih => simp [List.mapM_cons, head, ih]

theorem namedWith?_shapes (shapes : Keyed Shape) (depth : Nat) :
    Schema.namedWith? (Schema.compile? (depth + 2)) (.object (shapes.map fun s => (s.1, s.2.document))) =
      some (shapes.map fun s => (s.1, s.2.schema)) := by
  apply mapM_eq_some
  rw [List.forall₂_map_left_iff, List.forall₂_map_right_iff]
  apply List.forall₂_same.mpr
  intro s _
  simp only [Shape.compile?_document, Option.map_some]

theorem exists_mapM {α β : Type} {f : α → Option β} {as : List α} (each : ∀ a ∈ as, ∃ b, f a = some b) :
    ∃ bs, as.mapM f = some bs := by
  induction as with
  | nil => exact ⟨[], rfl⟩
  | cons a rest ih =>
      rcases each a List.mem_cons_self with ⟨b, here⟩
      rcases ih fun a' later => each a' (List.mem_cons_of_mem _ later) with ⟨bs, behind⟩
      exact ⟨b :: bs, by simp [List.mapM_cons, here, behind]⟩

/-- The names of definitions are all different. -/
theorem get?_definitions {kind : Kind} {d : Definition} (member : d ∈ definitionsOf kind) :
    Keyed.get? (Keyed.ofList ((definitionsOf kind).map Definition.entry)) d.entry.1 = some d.entry.2 := by
  have distinct : (Keyed.names ((definitionsOf kind).map Definition.entry)).Nodup := by
    cases kind <;> decide
  rw [Keyed.get?_ofList distinct]
  exact Keyed.get?_of_mem distinct (List.mem_map_of_mem member)

/-- A document is deeper by two than what it defines. -/
theorem exists_depth (kind : Kind) (d : Definition) (member : d ∈ definitionsOf kind) :
    ∃ more, (ofKind kind).depth = more + 1 + (d.entry.2.depth + 1) := by
  have inner : d.entry.2.depth < (Json.object (Keyed.ofList ((definitionsOf kind).map Definition.entry))).depth :=
    Json.depth_lt_of_mem (Keyed.mem_of_get? (get?_definitions member))
  have outer : (Json.object (Keyed.ofList ((definitionsOf kind).map Definition.entry))).depth <
      (ofKind kind).depth := by
    rw [ofKind_eq]
    exact Json.depth_lt_of_mem (f := ("$defs", _)) List.mem_cons_self
  exact ⟨(ofKind kind).depth - (d.entry.2.depth + 2), by omega⟩

/-- The definitions of a document can be compiled, deep as they are. -/
theorem exists_namedWith?_definitions (kind : Kind) :
    ∃ named, Schema.namedWith? (Schema.compile? (ofKind kind).depth)
      (.object (Keyed.ofList ((definitionsOf kind).map Definition.entry))) = some named := by
  apply exists_mapM
  intro f member
  rcases List.mem_map.mp (Keyed.mem_ofList member) with ⟨d, inDefinitions, rfl⟩
  rcases exists_depth kind d inDefinitions with ⟨more, depth_eq⟩
  have compiled := d.compile?_entry (more + 1)
  rw [Nat.add_assoc, ← depth_eq] at compiled
  exact ⟨_, by rw [compiled, Option.map_some]⟩

/-- The document of a kind, once the parts that it is made of have been read. -/
theorem compile?_object (tag : String) {depth : Nat} {definitions properties : Json} {required : List String}
    {defs named : List (String × Schema)}
    (defined : Schema.namedWith? (Schema.compile? depth) definitions = some defs)
    (read : Schema.namedWith? (Schema.compile? depth) properties = some named)
    (names : Schema.names? (.array (required.map .string)) = some required) :
    Schema.compile? (depth + 1)
        (.object [("$defs", definitions), ("$schema", .string "https://json-schema.org/draft/2020-12/schema"),
          ("additionalProperties", .bool false), ("properties", properties),
          ("required", .array (required.map .string)), ("title", .string tag), ("type", .string "object")]) =
      some (.all [.anything, .anything, .closedProperties named [], .anything, .required required, .anything,
        .types [.object]]) := by
  change Option.map Schema.all (do
      let a ← (Schema.namedWith? (Schema.compile? depth) definitions).map fun _ => Schema.anything
      let b ← some Schema.anything
      let c ← (do
        let own ← Schema.namedWith? (Schema.compile? depth) properties
        let patterns ← some []
        return if own.isEmpty && patterns.isEmpty && !true then Schema.noProperties
          else Schema.closedProperties own patterns)
      let d ← (Schema.namedWith? (Schema.compile? depth) properties).map fun _ => Schema.anything
      let e ← (Schema.names? (.array (required.map .string))).map Schema.required
      let f ← some Schema.anything
      let g ← some (Schema.types [.object])
      return [a, b, c, d, e, f, g]) = _
  rw [defined, read, names]
  simp

theorem compile?_ofKind (kind : Kind) :
    Schema.compile? ((ofKind kind).depth + 1) (ofKind kind) = some (rootOf kind) := by
  rcases exists_namedWith?_definitions kind with ⟨defs, defined⟩
  have hasDefinition : ∃ d, d ∈ definitionsOf kind := by
    cases kind <;> exact ⟨_, List.mem_cons_self⟩
  rcases hasDefinition with ⟨d, member⟩
  rcases exists_depth kind d member with ⟨more, depth_eq⟩
  have read := namedWith?_shapes kind.shapes (more + d.entry.2.depth)
  rw [show more + d.entry.2.depth + 2 = (ofKind kind).depth by omega] at read
  have names : Schema.names? (.array (kind.requiredFields.map .string)) = some kind.requiredFields := by
    cases kind <;> decide
  have compiled := compile?_object kind.tag defined read names
  rwa [← ofKind_eq] at compiled

/-- A reference to a definition leads to its document. -/
theorem resolve?_target (kind : Kind) {d : Definition} (member : d ∈ definitionsOf kind) :
    Schema.resolve? (ofKind kind) d.target = some d.entry.2 := by
  have led : ∀ (defs : Fields) (others : Fields),
      Schema.resolve? (.object (("$defs", .object defs) :: others)) d.target = Keyed.get? defs d.entry.1 := by
    intro defs others
    have here : Schema.resolve? (.object (("$defs", .object defs) :: others)) d.target =
        (Keyed.get? defs d.entry.1).bind some := by
      cases d <;> rfl
    rw [here]
    cases Keyed.get? defs d.entry.1 <;> rfl
  rw [ofKind_eq, led, get?_definitions member]

theorem table?_ofKind (kind : Kind) : Schema.table? (ofKind kind) = some (tableOf kind) := by
  have targets : (Schema.targets (ofKind kind)).eraseDups = (definitionsOf kind).map Definition.target := by
    rw [ofKind_eq]
    cases kind <;> rfl
  rw [Schema.table?, targets]
  apply mapM_eq_some
  rw [tableOf, List.forall₂_map_left_iff, List.forall₂_map_right_iff]
  apply List.forall₂_same.mpr
  intro d member
  have compiled := d.compile?_entry 0
  rw [Nat.zero_add] at compiled
  simp only [resolve?_target kind member, compiled, Option.bind_eq_bind, Option.bind_some]
  rfl

/-! ## What the rules of the library decide -/

section Decided

variable {table : SchemaTable} {need : Nat} {P : Json → Prop}

theorem decides_ofType (t : JsonType) : Schema.Decides table 2 (.all [.types [t]]) fun v => t.has v = true :=
  (Schema.Decides.all (.cons (Schema.decides_types [t]) .nil)).congr fun v => by simp

theorem decides_anyText : Schema.Decides table 2 Definition.anyText IsText :=
  (decides_ofType .string).congr fun v => by cases v <;> simp [JsonType.has, IsText]

theorem decides_reference {d : Definition}
    (found : table.find? (fun e => e.1 == d.target) = some (d.target, d.schema))
    (decides : Schema.Decides table need d.schema P) : Schema.Decides table (need + 2) d.reference P :=
  (Schema.Decides.all (.cons (Schema.Decides.reference found decides) .nil)).congr fun v => by simp

theorem decides_listOf {each : Schema} (decides : Schema.Decides table need each P) :
    Schema.Decides table (need + 2) (Definition.listOf each) (Schema.Each P) := by
  have types : Schema.Decides table (need + 1) (.types [.array]) _ :=
    (Schema.decides_types [.array]).mono (Nat.le_add_left 1 need)
  refine (Schema.Decides.all (.cons decides.items (.cons types .nil))).congr fun v => ?_
  cases v <;> simp [JsonType.has, Schema.Each]

/-- Only known fields, all required fields, and an object: that is a closed object. -/
theorem closed_iff {required : List String} {allowed : Keyed (Json → Prop)} {v : Json} :
    ((∀ fields, v = .object fields → ∀ f ∈ fields, ∃ P, allowed.get? f.1 = some P ∧ P f.2) ∧
        (∀ fields, v = .object fields → ∀ name ∈ required, Keyed.has fields name = true) ∧
          JsonType.object.has v = true) ↔
      Schema.Closed required allowed v := by
  constructor
  · rintro ⟨known, complete, isObject⟩
    cases v with
    | object fields => exact ⟨fields, rfl, complete fields rfl, known fields rfl⟩
    | _ => cases isObject
  · rintro ⟨fields, rfl, complete, known⟩
    refine ⟨?_, ?_, rfl⟩
    · rintro _ ⟨⟩
      exact known
    · rintro _ ⟨⟩
      exact complete

theorem decides_closed {named : List (String × Schema)} {allowed : Keyed (Json → Prop)} (required : List String)
    (each : Schema.DecidesNamed table need named allowed) :
    Schema.Decides table (need + 2) (Definition.closed required named) (Schema.Closed required allowed) := by
  have le : 1 ≤ need + 1 := Nat.le_add_left 1 need
  have parts := Schema.Decides.all (.cons (Schema.Decides.closedProperties each) (.cons (Schema.decides_anything.mono le)
    (.cons ((Schema.decides_required required).mono le) (.cons ((Schema.decides_types [.object]).mono le) .nil))))
  refine parts.congr fun v => ?_
  rw [← closed_iff]
  simp

/-- The same rules with more between them that says nothing. -/
theorem decides_root {named : List (String × Schema)} {allowed : Keyed (Json → Prop)} (required : List String)
    (each : Schema.DecidesNamed table need named allowed) :
    Schema.Decides table (need + 2)
      (.all [.anything, .anything, .closedProperties named [], .anything, .required required, .anything,
        .types [.object]]) (Schema.Closed required allowed) := by
  have le : 1 ≤ need + 1 := Nat.le_add_left 1 need
  have nothing : Schema.Decides table (need + 1) .anything _ := Schema.decides_anything.mono le
  refine (Schema.Decides.all (.cons nothing (.cons nothing (.cons (Schema.Decides.closedProperties each) (.cons nothing
    (.cons ((Schema.decides_required required).mono le) (.cons nothing
      (.cons ((Schema.decides_types [.object]).mono le) .nil)))))))).congr fun v => ?_
  rw [← closed_iff]
  simp

theorem decides_identifier : Schema.Decides table 2 Definition.identifier.schema IsIdentifier := by
  refine (Schema.Decides.all (.cons (Schema.decides_pattern identifierPattern identifierForm)
    (.cons (Schema.decides_types [.string]) .nil))).congr fun v => ?_
  cases v <;> simp [JsonType.has, IsIdentifier]

theorem decides_count : Schema.Decides table 2 Shape.count.schema IsCount := by
  refine (Schema.Decides.all (.cons (Schema.decides_bound .atMost (.integer 4294967295))
    (.cons (Schema.decides_bound .atLeast (.integer 0)) (.cons (Schema.decides_types [.integer]) .nil)))).congr
      fun v => ?_
  have most : (Numeral.integer 4294967295).toUnits = unbounded * Binary64.one := rfl
  have least : (Numeral.integer 0).toUnits = 0 := Int.zero_mul _
  cases v with
  | number n =>
      simp only [List.forall_mem_cons, List.not_mem_nil, false_imp_iff, implies_true, and_true, Json.number.injEq,
        forall_eq', NumberBound.allows, decide_eq_true_eq, most, least, List.any_cons, List.any_nil, Bool.or_false,
        JsonType.has, IsCount, exists_eq_left']
      exact ⟨fun ⟨below, above, whole⟩ => ⟨whole, above, below⟩, fun ⟨whole, above, below⟩ => ⟨below, above, whole⟩⟩
  | _ =>
      refine iff_of_false (fun all => ?_) fun ⟨_, isNumber, _⟩ => nomatch isNumber
      have whole := all _ (List.mem_cons_of_mem _ (List.mem_cons_of_mem _ List.mem_cons_self))
      cases whole

/-- A table leads from the references to a definition to what it became. -/
def Resolves (table : SchemaTable) (d : Definition) : Prop :=
  table.find? (fun e => e.1 == d.target) = some (d.target, d.schema)

/-- The definitions that a shape needs. -/
def neededBy : Shape → List Definition
  | .identifier => [.identifier]
  | .identifiers => [.identifiers, .identifier]
  | .texts => [.text]
  | .properties => [.propertyValue, .identifier]
  | .links => [.linkValue, .identifier]
  | _ => []

theorem decides_references (found : Resolves table .identifier) :
    Schema.Decides table 4 Definition.identifier.reference IsIdentifier :=
  decides_reference found decides_identifier

/-- What the document of a shape became decides the shape. -/
theorem decides_shape (s : Shape) (resolves : ∀ d ∈ neededBy s, Resolves table d) :
    Schema.Decides table 10 s.schema s.Fits := by
  have text4 : Schema.Decides table 4 Definition.anyText IsText := decides_anyText.mono (by decide)
  cases s with
  | identifier => exact (decides_references (resolves _ List.mem_cons_self)).mono (by decide)
  | identifiers =>
      have each := decides_references (resolves .identifier (List.mem_cons_of_mem _ List.mem_cons_self))
      exact (decides_reference (resolves _ List.mem_cons_self) (decides_listOf each)).mono (by decide)
  | texts =>
      have entry : Schema.Decides table 4
          (Definition.closed ["value"] [("lang", Definition.anyText), ("value", Definition.anyText)])
          Shape.IsTextEntry :=
        decides_closed ["value"] (.cons ⟨rfl, decides_anyText⟩ (.cons ⟨rfl, decides_anyText⟩ .nil))
      exact (decides_reference (resolves _ List.mem_cons_self) (decides_listOf entry)).mono (by decide)
  | text => exact decides_anyText.mono (by decide)
  | textList => exact (decides_listOf decides_anyText).mono (by decide)
  | count => exact decides_count.mono (by decide)
  | number =>
      refine ((decides_ofType .number).congr fun v => ?_).mono (by decide)
      cases v <;> simp [JsonType.has, Shape.Fits]
  | exactly t =>
      exact ((Schema.Decides.all (.cons (Schema.decides_const t) .nil)).congr fun v => by simp [Shape.Fits]).mono
        (by decide)
  | properties =>
      have identifier := decides_references (resolves .identifier (List.mem_cons_of_mem _ List.mem_cons_self))
      have tag : Schema.Decides table 4 (.all [.const (.string "pig:aProperty")])
          fun v => v = .string "pig:aProperty" :=
        ((Schema.Decides.all (.cons (Schema.decides_const _) .nil)).congr fun v => by simp).mono (by decide)
      have entry : Schema.Decides table 6 Definition.propertyValue.schema Shape.IsProperty :=
        decides_closed _ (.cons ⟨rfl, identifier⟩ (.cons ⟨rfl, tag⟩ (.cons ⟨rfl, text4⟩ (.cons ⟨rfl, text4⟩ .nil))))
      exact (decides_listOf (decides_reference (resolves _ List.mem_cons_self) entry)).mono (by decide)
  | links =>
      have identifier := decides_references (resolves .identifier (List.mem_cons_of_mem _ List.mem_cons_self))
      have tag : Schema.Decides table 4
          (.all [.enumeration (["pig:aSourceLink", "pig:aTargetLink"].map .string)])
          fun v => ∃ s ∈ ["pig:aSourceLink", "pig:aTargetLink"], v = .string s :=
        ((Schema.Decides.all (.cons (Schema.decides_enumeration _) .nil)).congr fun v => by simp).mono (by decide)
      have entry : Schema.Decides table 6 Definition.linkValue.schema Shape.IsLink :=
        decides_closed _ (.cons ⟨rfl, identifier⟩ (.cons ⟨rfl, identifier⟩ (.cons ⟨rfl, tag⟩ .nil)))
      exact (decides_listOf (decides_reference (resolves _ List.mem_cons_self) entry)).mono (by decide)

end Decided

/-- The table of a kind leads from every reference of the kind to what it refers to. -/
theorem resolves_tableOf {kind : Kind} {d : Definition} (member : d ∈ definitionsOf kind) :
    Resolves (tableOf kind) d := by
  cases kind <;> cases d <;> first | rfl | exact absurd member (by decide)

theorem neededBy_subset (kind : Kind) : ∀ s ∈ kind.shapes, ∀ d ∈ neededBy s.2, d ∈ definitionsOf kind := by
  cases kind <;> decide

/-- The rules of a kind decide what the kind accepts. -/
theorem decides_rootOf (kind : Kind) : Schema.Decides (tableOf kind) 12 (rootOf kind) kind.Conforms := by
  apply decides_root
  rw [Schema.DecidesNamed, List.forall₂_map_left_iff, List.forall₂_map_right_iff]
  apply List.forall₂_same.mpr
  intro s member
  exact ⟨rfl, decides_shape s.2 fun d needed => resolves_tableOf (neededBy_subset kind s member d needed)⟩

def compiled (kind : Kind) : CompiledSchema := ⟨rootOf kind, tableOf kind, (ofKind kind).nodes⟩

theorem ofDocument?_ofKind (kind : Kind) : CompiledSchema.ofDocument? (ofKind kind) = some (compiled kind) := by
  rw [CompiledSchema.ofDocument?, compile?_ofKind, table?_ofKind]
  rfl

theorem compile?_document_ofKind (files : FileReader) (kind : Kind) :
    SchemaCompiler.compile? files (ofKind kind) = some (compiled kind).faults :=
  Option.map_eq_some_iff.mpr ⟨compiled kind, ofDocument?_ofKind kind, rfl⟩

end SchemaDocument

namespace Schemas

open SchemaDocument

theorem library_eq : library = Kind.all.map fun kind => (kind, (compiled kind).faults) := by
  have each : compile FileReader.empty (Kind.all.map fun kind => (kind, ofKind kind)) =
      .ok (Kind.all.map fun kind => (kind, (compiled kind).faults)) := by
    apply Outcome.mapM_eq_ok.mpr
    rw [List.forall₂_map_left_iff, List.forall₂_map_right_iff]
    apply List.forall₂_same.mpr
    intro kind _
    simp only [compile?_document_ofKind]
  rw [library, each]
  rfl

theorem find?_library (kind : Kind) :
    library.find? (fun entry => entry.1 == kind) = some (kind, (compiled kind).faults) := by
  rw [library_eq]
  cases kind <;> rfl

/-- There are always steps enough for the rules of a kind. -/
theorem le_budget (kind : Kind) (depth : Nat) : 12 ≤ ((compiled kind).size + 1) * (depth + 2) := by
  have size : 5 ≤ (compiled kind).size := by
    rw [compiled, ofKind_eq]
    simp only [Json.nodes, Json.nodesOfFields]
    omega
  calc 12 ≤ ((compiled kind).size + 1) * 2 := by omega
    _ ≤ ((compiled kind).size + 1) * (depth + 2) := Nat.mul_le_mul_left _ (Nat.le_add_left 2 _)

/-- A value is accepted if the schema of the kind finds no fault in it. -/
theorem validator_eq_none_iff {schemas : Schemas} {kind : Kind} {faults : Json → List Fault}
    (found : schemas.find? (fun entry => entry.1 == kind) = some (kind, faults)) (v : Json) :
    schemas.validator kind v = none ↔ faults v = [] := by
  simp [validator, found]

/-- The schema of a kind accepts exactly the values that conform to the kind. -/
theorem library_validator_eq_none_iff (kind : Kind) (v : Json) : library.validator kind v = none ↔ kind.Conforms v :=
  (validator_eq_none_iff (find?_library kind) v).trans (decides_rootOf kind _ (le_budget kind v.depth) "" v)

end Schemas
end ProductGraph
