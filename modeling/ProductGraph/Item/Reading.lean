import ProductGraph.Item.Data
import ProductGraph.Json.Basic
import ProductGraph.Text.Quoted

/-!
# Reading the content of items

A structured value becomes the content of an item of a given kind.  Fields that the kind does not have are
ignored, and `null` in an optional field is an absent field.  Of several faults the one reported is the first in
this order: faults in the kind's own fields by name, absent fields of its own, then the same for each part that
it shares with other kinds.

The small structures, such as a fragment or an entry of a text, may also be written as an array of their fields
in order, of which optional ones at the end may be left out.
-/

namespace ProductGraph

/-- How a part of an item was reached: as a field of its own, or gathered into a part shared by kinds. -/
inductive Route where
  | direct
  | gathered
  deriving DecidableEq

/-- Why a value is not the content of an item. -/
inductive ReadError where
  | wrongType (found : Json) (expected : String)
  | outOfRange (found : Int) (expected : String)
  | missing (field : String)
  | tooShort (length : Nat) (expected : String) (count : Nat)
  | tooLong (length : Nat) (count : Nat) (route : Route)
  | notAnObject
  | packageHeader

namespace ReadError

def describe : Json → String
  | .null => "null"
  | .bool b => "boolean `" ++ (if b then "true" else "false") ++ "`"
  | .number (.integer n) => "integer `" ++ toString n ++ "`"
  | .number (.real x) => "floating point `" ++ x.json ++ "`"
  | .string s => "string " ++ Text.quoted s
  | .array _ => "sequence"
  | .object _ => "map"

def message : ReadError → String
  | wrongType found expected => "invalid type: " ++ describe found ++ ", expected " ++ expected
  | outOfRange found expected => "invalid value: integer `" ++ toString found ++ "`, expected " ++ expected
  | missing field => "missing field `" ++ field ++ "`"
  | tooShort length expected count =>
    "invalid length " ++ toString length ++ ", expected " ++ expected ++ " with " ++ toString count ++ " elements"
  | tooLong length _ .direct =>
    "invalid length " ++ toString length ++ ", expected fewer elements in array"
  | tooLong length count .gathered =>
    "invalid length " ++ toString length ++ ", expected " ++ toString count ++ " elements in sequence"
  | notAnObject => "expected an object"
  | packageHeader => "a package header is not a graph item"

end ReadError

namespace Reading

/-- A reader of a value. -/
abbrev Reader (α : Type) := Json → Except ReadError α

def text : Reader String
  | .string s => .ok s
  | value => .error (.wrongType value "a string")

/-- A natural number of 32 bits. -/
def count : Reader Nat
  | .number (.integer n) =>
    if 0 ≤ n ∧ n ≤ unbounded then .ok n.toNat else .error (.outOfRange n "u32")
  | value => .error (.wrongType value "u32")

/-- A real number; an integer stands for the nearest one. -/
def real : Reader Binary64
  | .number (.real x) => .ok x
  | .number (.integer n) => .ok ⟨decide (n < 0), (Binary64.sizeOfNat? n.natAbs).getD 0⟩
  | value => .error (.wrongType value "f64")

/-- A value that may be `null`. -/
def orNull {α : Type} (read : Reader α) : Reader (Option α)
  | .null => .ok none
  | value => (read value).map some

def list {α : Type} (read : Reader α) : Reader (List α)
  | .array items => items.mapM read
  | value => .error (.wrongType value "a sequence")

/-- The field with a name, read if it is there. -/
def field? {α : Type} (fields : Fields) (name : String) (read : Reader α) : Except ReadError (Option α) :=
  match fields.get? name with
  | none => .ok none
  | some value => (read value).map some

/-- An optional field, for which `null` is the same as absence. -/
def optional {α : Type} (fields : Fields) (name : String) (read : Reader α) : Except ReadError (Option α) :=
  (field? fields name (orNull read)).map Option.join

/-- A list that is empty where the field is absent. -/
def listField {α : Type} (fields : Fields) (name : String) (read : Reader α) : Except ReadError (List α) :=
  (field? fields name (list read)).map (·.getD [])

/-- A field that has to be there. -/
def present {α : Type} (name : String) : Option α → Except ReadError α
  | some value => .ok value
  | none => .error (.missing name)

/-- A text at a place of an array; `expected` has `size` places. -/
def place (items : List Json) (index : Nat) (expected : String) (size : Nat) : Except ReadError String :=
  match items[index]? with
  | some value => text value
  | none => .error (.tooShort index expected size)

/-- An optional text at a place of an array. -/
def placeOrNull (items : List Json) (index : Nat) : Except ReadError (Option String) :=
  match items[index]? with
  | some value => orNull text value
  | none => .ok none

/-- An array has at most so many places. -/
def atMost (items : List Json) (size : Nat) (route : Route) : Except ReadError Unit :=
  if items.length ≤ size then .ok () else .error (.tooLong items.length size route)

/-- An entry of a text in several languages. -/
def languageText (route : Route) : Reader LanguageText
  | .object fields => do
    let lang ← optional fields "lang" text
    let value ← field? fields "value" text
    let value ← present "value" value
    return ⟨value, lang⟩
  | .array items => do
    let value ← place items 0 "struct LanguageText" 2
    let lang ← placeOrNull items 1
    atMost items 2 route
    return ⟨value, lang⟩
  | value => .error (.wrongType value "struct LanguageText")

def propertyValue (route : Route) : Reader PropertyValue
  | .object fields => do
    let hasClass ← field? fields "hasClass" text
    let lang ← optional fields "lang" text
    let value ← field? fields "value" text
    let hasClass ← present "hasClass" hasClass
    let value ← present "value" value
    return ⟨hasClass, value, lang⟩
  | .array items => do
    let hasClass ← place items 0 "struct PropertyValue" 3
    let value ← place items 1 "struct PropertyValue" 3
    let lang ← placeOrNull items 2
    atMost items 3 route
    return ⟨hasClass, value, lang⟩
  | value => .error (.wrongType value "struct PropertyValue")

def linkValue (route : Route) : Reader LinkValue
  | .object fields => do
    let hasClass ← field? fields "hasClass" text
    let idRef ← field? fields "idRef" text
    let hasClass ← present "hasClass" hasClass
    let idRef ← present "idRef" idRef
    return ⟨hasClass, idRef⟩
  | .array items => do
    let hasClass ← place items 0 "struct LinkValue" 2
    let idRef ← place items 1 "struct LinkValue" 2
    atMost items 2 route
    return ⟨hasClass, idRef⟩
  | value => .error (.wrongType value "struct LinkValue")

def identifiable (fields : Fields) : Except ReadError Identifiable := do
  let description ← listField fields "description" (languageText .gathered)
  let id ← field? fields "id" text
  let specializes ← optional fields "specializes" text
  let title ← listField fields "title" (languageText .gathered)
  let id ← present "id" id
  return ⟨id, specializes, title, description⟩

def elementClass (fields : Fields) : Except ReadError ElementClass := do
  let eligibleProperty ← optional fields "eligibleProperty" (list text)
  let icon ← optional fields "icon" text
  return ⟨eligibleProperty, icon⟩

def individual (fields : Fields) : Except ReadError Individual := do
  let creator ← optional fields "creator" text
  let hasProperty ← listField fields "hasProperty" (propertyValue .gathered)
  let modified ← optional fields "modified" text
  let priorRevision ← listField fields "priorRevision" text
  let revision ← optional fields "revision" text
  return ⟨revision, priorRevision, modified, creator, hasProperty⟩

def propertyClass (fields : Fields) : Except ReadError PropertyClass := do
  let composedProperty ← optional fields "composedProperty" (list text)
  let datatype ← optional fields "datatype" text
  let hasClass ← optional fields "hasClass" text
  let maxCount ← optional fields "maxCount" count
  let maxInclusive ← optional fields "maxInclusive" real
  let maxLength ← optional fields "maxLength" count
  let minCount ← optional fields "minCount" count
  let minInclusive ← optional fields "minInclusive" real
  let pattern ← optional fields "pattern" text
  let identifiable ← identifiable fields
  return { identifiable, hasClass, datatype, minCount, maxCount, maxLength, pattern, minInclusive, maxInclusive,
           composedProperty }

def linkClass (fields : Fields) : Except ReadError LinkClass := do
  let eligibleEndpoint ← optional fields "eligibleEndpoint" (list text)
  let hasClass ← optional fields "hasClass" text
  let identifiable ← identifiable fields
  return { identifiable, hasClass, eligibleEndpoint }

def entityClass (fields : Fields) : Except ReadError EntityClass := do
  let eligibleTargetLink ← optional fields "eligibleTargetLink" (list text)
  let hasClass ← optional fields "hasClass" text
  let identifiable ← identifiable fields
  let element ← elementClass fields
  return { identifiable, element, hasClass, eligibleTargetLink }

def relationshipClass (fields : Fields) : Except ReadError RelationshipClass := do
  let eligibleSourceLink ← optional fields "eligibleSourceLink" text
  let eligibleTargetLink ← optional fields "eligibleTargetLink" text
  let hasClass ← optional fields "hasClass" text
  let identifiable ← identifiable fields
  let element ← elementClass fields
  return { identifiable, element, hasClass, eligibleSourceLink, eligibleTargetLink }

def entity (fields : Fields) : Except ReadError Entity := do
  let hasClass ← field? fields "hasClass" text
  let hasTargetLink ← listField fields "hasTargetLink" (linkValue .direct)
  let hasClass ← present "hasClass" hasClass
  let identifiable ← identifiable fields
  let individual ← individual fields
  return { identifiable, individual, hasClass, hasTargetLink }

def relationship (fields : Fields) : Except ReadError Relationship := do
  let hasClass ← field? fields "hasClass" text
  let hasSourceLink ← listField fields "hasSourceLink" (linkValue .direct)
  let hasTargetLink ← listField fields "hasTargetLink" (linkValue .direct)
  let hasClass ← present "hasClass" hasClass
  let identifiable ← identifiable fields
  let individual ← individual fields
  return { identifiable, individual, hasClass, hasSourceLink, hasTargetLink }

/-- Content that only an object can hold. -/
def onObject {α : Type} (expected : String) (read : Fields → Except ReadError α) : Reader α
  | .object fields => read fields
  | value => .error (.wrongType value expected)

end Reading

/-- The content of an item of a kind. -/
def ItemData.ofJson (kind : Kind) (value : Json) : Except ReadError ItemData :=
  match kind with
  | .propertyClass => (Reading.onObject "struct PropertyClass" Reading.propertyClass value).map .propertyClass
  | .linkClass => (Reading.onObject "struct LinkClass" Reading.linkClass value).map .linkClass
  | .entityClass => (Reading.onObject "struct EntityClass" Reading.entityClass value).map .entityClass
  | .relationshipClass =>
    (Reading.onObject "struct RelationshipClass" Reading.relationshipClass value).map .relationshipClass
  | .entityInstance => (Reading.onObject "struct EntityInstance" Reading.entity value).map .entity
  | .relationshipInstance =>
    (Reading.onObject "struct RelationshipInstance" Reading.relationship value).map .relationship
  | .propertyValue => (Reading.propertyValue .direct value).map .property
  | .sourceLinkValue => (Reading.linkValue .direct value).map .sourceLink
  | .targetLinkValue => (Reading.linkValue .direct value).map .targetLink
  | .package => .error .packageHeader

def PackageHeader.ofJson (value : Json) : Except ReadError PackageHeader :=
  match value with
  | .object fields => do
    let creator ← Reading.optional fields "creator" Reading.text
    let description ← Reading.listField fields "description" (Reading.languageText .direct)
    let id ← Reading.optional fields "id" Reading.text
    let modified ← Reading.optional fields "modified" Reading.text
    let title ← Reading.listField fields "title" (Reading.languageText .direct)
    return { id, title, description, modified, creator }
  | .array items => do
    let entries (index : Nat) : Except ReadError (List LanguageText) :=
      match items[index]? with
      | some entry => Reading.list (Reading.languageText .direct) entry
      | none => .ok []
    let id ← Reading.placeOrNull items 0
    let title ← entries 1
    let description ← entries 2
    let modified ← Reading.placeOrNull items 3
    let creator ← Reading.placeOrNull items 4
    Reading.atMost items 5 .direct
    return { id, title, description, modified, creator }
  | value => .error (.wrongType value "struct PackageHeader")

end ProductGraph
