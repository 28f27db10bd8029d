import ProductGraph.Document.Error
import ProductGraph.Document.Normal
import ProductGraph.Json.Reader

/-!
# Reading linked data

A document of linked data is an object with namespaces, header fields and a graph of items.  On an individual, a
field outside the vocabulary whose name is an identifier holds property values or links of the class so named.
A value with an identifier is a link, to a source if it says so and otherwise to a target; any other value is a
property value.
-/

namespace ProductGraph
namespace JsonLd

/-- Give fields their own names instead of those of linked data. -/
def toFields : Walk := Normal.renamed Vocabulary.fieldOfLinked?

/-- The namespaces of a context.  Entries that are no plain namespaces are passed over. -/
def namespaces (context : Option Json) : Namespaces :=
  match context with
  | some (.object fields) => fields.filterMap fun f => f.2.text?.map fun iri => (f.1, iri)
  | _ => []

/-- The items of a graph; one item may stand without brackets. -/
def graph (graph : Option Json) : Except DocumentError (List Json) :=
  match graph with
  | some (.array list) => .ok list
  | some .null | none => .ok []
  | some (.object fields) => .ok [.object fields]
  | some _ => .error .graphNotArray

/-! ## Fragments under the names of their classes -/

/-- The fields of a literal: its value as text, and its language if it has one. -/
def literalFields (value : Json) : List (String × Json) :=
  match value with
  | .object fields =>
    ("value", .string (((Keyed.get? fields "value").bind Json.scalarText?).getD "")) ::
      ((((Keyed.get? fields "lang").bind Json.text?).map fun lang => ("lang", Json.string lang)).toList)
  | _ => [("value", .string ((Json.scalarText? value).getD ""))]

/-- The field that a link belongs to, by the kind that it declares. -/
def linkField (fields : Fields) : String :=
  let declared := ((fields.get? "itemType").map Normal.unwrapping.run).bind Json.text?
  if declared == some Kind.sourceLinkValue.tag then "hasSourceLink" else "hasTargetLink"

/-- The fragment that one value under a class is, and the field that it belongs to. -/
def fragment? (hasClass : String) (value : Json) : Option (String × Json) :=
  let ofClass (more : List (String × Json)) : Json := .ofFields (("hasClass", .string hasClass) :: more)
  match value with
  | .null => none
  | .object fields =>
    match Keyed.get? fields "id" with
    | some target => some (linkField fields, ofClass [("idRef", Normal.unwrapping.run target)])
    | none => some ("hasProperty", ofClass (literalFields value))
  | _ => some ("hasProperty", ofClass (literalFields value))

def addFragment (fields : Fields) (field : String) (fragment : Json) : Fields :=
  match fields.get? field with
  | none => fields.insert field (.array [fragment])
  | some (.array list) => fields.insert field (.array (list ++ [fragment]))
  | some other => fields.insert field (.array [other, fragment])

def isFragmentClass (name : String) : Bool := !Vocabulary.isField name && isIdentifier name

/-- The fragments under the names of their classes, class by class. -/
def fragments (fields : Fields) : List (String × Json) :=
  (fields.filter fun f => isFragmentClass f.1).flatMap fun f => (Normal.itemsOf f.2).filterMap (fragment? f.1)

/-- The fields of an individual with the fragments under their classes moved to the fields for fragments. -/
def gathered (fields : Fields) : Fields :=
  (fragments fields).foldl (fun acc f => addFragment acc f.1 f.2) (fields.filter fun f => !isFragmentClass f.1)

/-! ## Items and documents -/

def kindOf? (fields : Fields) : Option Kind :=
  (((fields.get? "itemType").map Normal.unwrapping.run).bind Json.text?).bind Kind.ofTag?

/-- An item of the graph.  What is no object is kept as it is. -/
def item (options : ReadingOptions) (value : Json) : DocumentItem :=
  match toFields.run value with
  | .object fields =>
    let kind := kindOf? fields
    let fields := if kind.any Kind.isIndividual then gathered fields else fields
    .ofJson (.object (Normal.fields options kind fields))
  | other => .ofJson other

/-- The header fields, which stand beside the context and the graph. -/
def header (options : ReadingOptions) (fields : Fields) : Fields :=
  match toFields.run (.object ((fields.erase "@context").erase "@graph")) with
  | .object fields => Normal.fields options (some .package) fields
  | _ => []

/-- Read a document of linked data. -/
def read (options : ReadingOptions) (text : String) : Except DocumentError Document :=
  match Json.ofText? text with
  | none => .error .malformedJson
  | some (.object fields) =>
    (graph (Keyed.get? fields "@graph")).map fun list =>
      ⟨namespaces (Keyed.get? fields "@context"), header options fields, list.map (item options)⟩
  | some _ => .error .packageNotObject

end JsonLd
end ProductGraph
