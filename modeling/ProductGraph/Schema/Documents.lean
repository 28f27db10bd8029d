import ProductGraph.Kind
import ProductGraph.Schema.Compile

/-!
# The schemas of the library

One document for each kind.  They share the shapes of identifiers, texts and fragments, which every document
defines for itself and refers to; no document admits a field that it does not name.
-/

namespace ProductGraph
namespace SchemaDocument

def field (name : String) (value : Json) : Json := .ofFields [(name, value)]

def shape (name : String) : Json := field "$ref" (.string ("#/$defs/" ++ name))

def ofType (name : String) : Json := field "type" (.string name)

def anyText : Json := ofType "string"

def anyNumber : Json := ofType "number"

def exactly (text : String) : Json := field "const" (.string text)

def listOf (item : Json) : Json := .ofFields [("type", .string "array"), ("items", item)]

def count : Json :=
  .ofFields [("type", .string "integer"), ("minimum", .nat 0), ("maximum", .nat 4294967295)]

/-- An object with the given properties, some of them required, and no others. -/
def closedObject (required : List String) (properties : List (String × Json)) : List (String × Json) :=
  [("type", .string "object"), ("required", .array (required.map .string)),
   ("properties", .ofFields properties), ("additionalProperties", .bool false)]

/-- The form of identifiers: a term or an absolute URI. -/
def identifierPattern : String :=
  "^([A-Za-z_][A-Za-z0-9_.-]*:[A-Za-z0-9_][A-Za-z0-9_.#/-]*|[A-Za-z][A-Za-z0-9+.-]*://[^\\s]+)$"

def identifierShape : String × Json :=
  ("identifier", .ofFields [("type", .string "string"), ("pattern", .string identifierPattern)])

def identifiersShape : String × Json := ("identifiers", listOf (shape "identifier"))

def textShape : String × Json :=
  ("text", listOf (.ofFields (closedObject ["value"] [("value", anyText), ("lang", anyText)])))

def propertyShape : String × Json :=
  ("propertyValue", .ofFields (closedObject ["hasClass", "value"]
    [("hasClass", shape "identifier"), ("value", anyText), ("lang", anyText),
     ("itemType", exactly "pig:aProperty")]))

def linkShape : String × Json :=
  ("linkValue", .ofFields (closedObject ["hasClass", "idRef"]
    [("hasClass", shape "identifier"), ("idRef", shape "identifier"),
     ("itemType", field "enum" (.array [.string "pig:aSourceLink", .string "pig:aTargetLink"]))]))

/-- The document for a kind: its properties beside the kind itself, and the shapes it refers to. -/
def document (kind : Kind) (required : List String) (properties shapes : List (String × Json)) : Json :=
  .ofFields
    ([("$schema", .string "https://json-schema.org/draft/2020-12/schema"), ("title", .string kind.tag)] ++
      closedObject ("itemType" :: required) (("itemType", exactly kind.tag) :: properties) ++
      [("$defs", .ofFields shapes)])

def texts : List (String × Json) := [("title", shape "text"), ("description", shape "text")]

def identified : List (String × Json) :=
  [("id", shape "identifier"), ("specializes", shape "identifier")] ++ texts

def classes : List (String × Json) := identified ++ [("hasClass", shape "identifier")]

/-- The properties that classes of nodes and edges share. -/
def elements : List (String × Json) :=
  classes ++ [("eligibleProperty", shape "identifiers"), ("icon", anyText)]

def individuals : List (String × Json) :=
  classes ++
    [("revision", anyText), ("priorRevision", listOf anyText), ("modified", anyText), ("creator", anyText),
     ("hasProperty", listOf (shape "propertyValue"))]

def classShapes : List (String × Json) := [identifierShape, identifiersShape, textShape]

def individualShapes : List (String × Json) := [identifierShape, textShape, propertyShape, linkShape]

def link (kind : Kind) : Json :=
  document kind ["hasClass", "idRef"] [("hasClass", shape "identifier"), ("idRef", shape "identifier")]
    [identifierShape]

def ofKind : Kind → Json
  | .propertyClass =>
    document .propertyClass ["id"]
      (classes ++
        [("datatype", shape "identifier"), ("minCount", count), ("maxCount", count), ("maxLength", count),
         ("pattern", anyText), ("minInclusive", anyNumber), ("maxInclusive", anyNumber),
         ("composedProperty", shape "identifiers")])
      classShapes
  | .linkClass =>
    document .linkClass ["id"] (classes ++ [("eligibleEndpoint", shape "identifiers")]) classShapes
  | .entityClass =>
    document .entityClass ["id"] (elements ++ [("eligibleTargetLink", shape "identifiers")]) classShapes
  | .relationshipClass =>
    document .relationshipClass ["id"]
      (elements ++ [("eligibleSourceLink", shape "identifier"), ("eligibleTargetLink", shape "identifier")])
      classShapes
  | .entityInstance =>
    document .entityInstance ["id", "hasClass"]
      (individuals ++ [("hasTargetLink", listOf (shape "linkValue"))]) individualShapes
  | .relationshipInstance =>
    document .relationshipInstance ["id", "hasClass"]
      (individuals ++
        [("hasSourceLink", listOf (shape "linkValue")), ("hasTargetLink", listOf (shape "linkValue"))])
      individualShapes
  | .propertyValue =>
    document .propertyValue ["hasClass", "value"]
      [("hasClass", shape "identifier"), ("value", anyText), ("lang", anyText)] [identifierShape]
  | .sourceLinkValue => link .sourceLinkValue
  | .targetLinkValue => link .targetLinkValue
  | .package =>
    document .package []
      ([("id", shape "identifier")] ++ texts ++ [("modified", anyText), ("creator", anyText)])
      [identifierShape, textShape]

end SchemaDocument
end ProductGraph
