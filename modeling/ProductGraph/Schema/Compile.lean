import ProductGraph.Schema.Check

/-!
# Reading schemas

A document becomes a schema, or it is refused.  Keywords are taken in the order of their names.  A keyword that
is known has to be used as it is meant; unknown keywords say nothing.  `additionalProperties` speaks for
`properties` and `patternProperties` beside it unless it allows everything.
-/

namespace ProductGraph
namespace Schema

/-! ## Patterns -/

/-- White space as the patterns of schemas mean it, between the brackets of a set. -/
def schemaSpace : List Char := " \\t\\n\\r\\x0b\\x0c\\x\x7bA0\x7d\\x\x7bFEFF\x7d\\x\x7b2003\x7d\\x\x7b2029\x7d".toList

/-- The set that a short class stands for in a schema, where classes are those of ASCII. -/
def schemaClass? : Char → Option (List Char)
  | 'd' => some "[0-9]".toList
  | 'D' => some "[^0-9]".toList
  | 'w' => some "[A-Za-z0-9_]".toList
  | 'W' => some "[^A-Za-z0-9_]".toList
  | 's' => some ('[' :: (schemaSpace ++ [']']))
  | 'S' => some ('[' :: '^' :: (schemaSpace ++ [']']))
  | _ => none

/-- The text of a pattern with the short classes of schemas written out. -/
def withSchemaClasses : List Char → List Char
  | [] => []
  | '\\' :: c :: rest =>
    match schemaClass? c with
    | some set => set ++ withSchemaClasses rest
    | none => '\\' :: c :: withSchemaClasses rest
  | c :: rest => c :: withSchemaClasses rest

def pattern? (text : String) : Option Pattern :=
  Pattern.ofText? (String.ofList (withSchemaClasses text.toList))

/-! ## Values of keywords -/

/-- A list of different names. -/
def names? (value : Json) : Option (List String) :=
  match value with
  | .array list =>
    match list.mapM Json.text? with
    | some names => if Json.allDistinct list then some names else none
    | none => none
  | _ => none

/-- The sorts of a type keyword: one, or a list of different ones. -/
def types? (value : Json) : Option (List JsonType) :=
  match value with
  | .string s => (JsonType.ofName? s).map fun t => [t]
  | .array [] => none
  | value => (names? value).bind fun names => names.mapM JsonType.ofName?

/-- A count, which may be written as a real number without fraction. -/
def count? (value : Json) : Option Nat :=
  match value with
  | .number n => if n.isWhole && 0 ≤ n.toUnits then some (n.toUnits / Binary64.one).toNat else none
  | _ => none

def numeral? : Json → Option Numeral
  | .number n => some n
  | _ => none

def step? (value : Json) : Option Numeral :=
  (numeral? value).filter fun n => 0 < n.toUnits

/-- The dialects of schemas that are known. -/
def isDialect (uri : String) : Bool :=
  let bare := String.ofList (uri.toList.reverse.dropWhile (· == '#')).reverse
  ["https://json-schema.org/draft/2020-12/schema", "https://json-schema.org/draft/2019-09/schema",
   "http://json-schema.org/draft-07/schema", "http://json-schema.org/draft-06/schema",
   "http://json-schema.org/draft-04/schema"].contains bare

/-- Keywords that carry a text and say nothing about values. -/
def textKeywords : List String :=
  ["$comment", "$id", "$anchor", "$dynamicAnchor", "title", "description", "format", "contentEncoding",
   "contentMediaType"]

/-- Keywords that carry a truth value and say nothing about values. -/
def flagKeywords : List String := ["deprecated", "readOnly", "writeOnly"]

/-- Turn the values of fields into schemas. -/
def namedWith? (read : Json → Option Schema) (value : Json) : Option (List (String × Schema)) :=
  match value with
  | .object fields => fields.mapM fun f => (read f.2).map fun s => (f.1, s)
  | _ => none

/-- Turn the values of fields into schemas and their names into patterns. -/
def patternsWith? (read : Json → Option Schema) (value : Json) : Option (List (Pattern × Schema)) :=
  match value with
  | .object fields => fields.mapM fun f => do
    let p ← pattern? f.1
    let s ← read f.2
    return (p, s)
  | _ => none

/-- Turn the items of a list that is not empty into schemas. -/
def listWith? (read : Json → Option Schema) (value : Json) : Option (List Schema) :=
  match value with
  | .array [] => none
  | .array list => list.mapM read
  | _ => none

/-- The lists of names that the fields of an object hold. -/
def dependents? (value : Json) : Option (List (String × List String)) :=
  match value with
  | .object fields => fields.mapM fun f => (names? f.2).map fun names => (f.1, names)
  | _ => none

/-! ## Keywords -/

/-- Whether a keyword beside `properties` takes it over. -/
def takesOver (fields : Fields) : Bool :=
  match fields.get? "additionalProperties" with
  | some (.bool false) | some (.object _) => true
  | _ => false

/-- The rule that one keyword of a schema states. -/
def keyword? (read : Json → Option Schema) (fields : Fields) (name : String) (value : Json) : Option Schema :=
  match name with
  | "$ref" => value.text?.map .reference
  | "$schema" => value.text?.bind fun uri => if isDialect uri then some .anything else none
  | "$defs" | "definitions" => (namedWith? read value).map fun _ => .anything
  | "additionalProperties" => do
    let named ← ((fields.get? "properties").map (namedWith? read)).getD (some [])
    let patterns ← ((fields.get? "patternProperties").map (patternsWith? read)).getD (some [])
    match value with
    | .bool false =>
      return if named.isEmpty && patterns.isEmpty && !fields.has "properties" then .noProperties
        else .closedProperties named patterns
    | .bool true => return .anything
    | _ => (read value).map (.otherProperties named patterns)
  | "allOf" => (listWith? read value).map .all
  | "anyOf" => (listWith? read value).map .anyOf
  | "const" => some (.const value)
  | "contains" => (read value).map .contains
  | "dependentRequired" => (dependents? value).map .dependentRequired
  | "enum" => value.items?.map .enumeration
  | "exclusiveMaximum" => (numeral? value).map (.bound .below)
  | "exclusiveMinimum" => (numeral? value).map (.bound .above)
  | "if" => do
    let condition ← read value
    let yes ← ((fields.get? "then").map read).getD (some .anything)
    let no ← ((fields.get? "else").map read).getD (some .anything)
    return .conditional condition yes no
  | "then" | "else" => (read value).map fun _ => .anything
  | "items" =>
    let skipped :=
      match fields.get? "prefixItems" with
      | some (.array list) => list.length
      | _ => 0
    (read value).map (.items skipped)
  | "maxItems" => (count? value).map (.atMost .items)
  | "maxLength" => (count? value).map (.atMost .characters)
  | "maxProperties" => (count? value).map (.atMost .properties)
  | "maximum" => (numeral? value).map (.bound .atMost)
  | "minItems" => (count? value).map (.atLeast .items)
  | "minLength" => (count? value).map (.atLeast .characters)
  | "minProperties" => (count? value).map (.atLeast .properties)
  | "minimum" => (numeral? value).map (.bound .atLeast)
  | "multipleOf" => (step? value).map .multipleOf
  | "not" => (read value).map (.not value)
  | "oneOf" => (listWith? read value).map .oneOf
  | "pattern" => value.text?.bind fun text => (pattern? text).map (.pattern text)
  | "patternProperties" =>
    (patternsWith? read value).map fun named => if takesOver fields then .anything else .patternProperties named
  | "prefixItems" => (listWith? read value).map .leadingItems
  | "properties" =>
    (namedWith? read value).map fun named => if takesOver fields then .anything else .properties named
  | "propertyNames" => (read value).map .propertyNames
  | "required" => (names? value).map .required
  | "type" => (types? value).map .types
  | "uniqueItems" =>
    match value with
    | .bool unique => some (if unique then .uniqueItems else .anything)
    | _ => none
  | _ =>
    if textKeywords.contains name then value.text?.map fun _ => .anything
    else if flagKeywords.contains name then
      match value with
      | .bool _ => some .anything
      | _ => none
    else some .anything

/-- The schema that a document or a part of one is; the first argument bounds its depth. -/
def compile? : Nat → Json → Option Schema
  | 0, _ => none
  | depth + 1, document =>
    match document with
    | .bool allows => some (if allows then .anything else .nothing)
    | .object fields => (fields.mapM fun f => keyword? (compile? depth) fields f.1 f.2).map .all
    | _ => none

/-! ## References -/

mutual

/-- The targets of the references in a document. -/
def targets : Json → List String
  | .array list => targetsOfItems list
  | .object fields => targetsOfFields fields
  | _ => []

def targetsOfItems : List Json → List String
  | [] => []
  | item :: rest => targets item ++ targetsOfItems rest

def targetsOfFields : List (String × Json) → List String
  | [] => []
  | (name, value) :: rest =>
    let own := match value with
      | .string target => if name == "$ref" then [target] else []
      | value => targets value
    own ++ targetsOfFields rest

end

/-- A segment of a pointer with its escapes taken back. -/
def unescapeSegment : List Char → List Char
  | '~' :: '0' :: rest => '~' :: unescapeSegment rest
  | '~' :: '1' :: rest => '/' :: unescapeSegment rest
  | c :: rest => c :: unescapeSegment rest
  | [] => []

/-- The part of a value that a path leads to. -/
def follow? : List (List Char) → Json → Option Json
  | [], value => some value
  | segment :: rest, value =>
    match value with
    | .object fields => (Keyed.get? fields (String.ofList (unescapeSegment segment))).bind (follow? rest)
    | .array list => (natural? segment).bind fun i => list[i]?.bind (follow? rest)
    | _ => none

/-- The part of a document that a reference leads to: the whole, or what a pointer finds. -/
def resolve? (document : Json) (target : String) : Option Json :=
  match target.toList with
  | ['#'] => some document
  | '#' :: '/' :: pointer => follow? (Text.pieces '/' pointer) document
  | _ => none

def table? (document : Json) : Option SchemaTable :=
  (targets document).eraseDups.mapM fun target => do
    let part ← resolve? document target
    let schema ← compile? (part.depth + 1) part
    return (target, schema)

end Schema

/-- A schema with what its references lead to. -/
structure CompiledSchema where
  root : Schema
  table : SchemaTable
  size : Nat

namespace CompiledSchema

/-- The schema that a document is, if it is one. -/
def ofDocument? (document : Json) : Option CompiledSchema := do
  let root ← Schema.compile? (document.depth + 1) document
  let table ← Schema.table? document
  return ⟨root, table, document.nodes⟩

/-- The faults of a value.  There are steps enough unless references lead in circles. -/
def faults (schema : CompiledSchema) (value : Json) : List Fault :=
  schema.root.faults schema.table ((schema.size + 1) * (value.depth + 2)) "" value

end CompiledSchema

end ProductGraph
