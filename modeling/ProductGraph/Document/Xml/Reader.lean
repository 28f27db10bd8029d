import ProductGraph.Document.Error
import ProductGraph.Document.Normal
import ProductGraph.Document.Xml.Layout
import ProductGraph.Markup.Element

/-!
# Reading markup

A document of markup is a package element: its attributes are namespaces and header fields, its children are more
header fields and the graph of items.  The name of an item's element is its kind.

Whether a field is a list is decided by the vocabulary and not by the number of elements that carry it; a field
that is no list becomes one where several elements carry it, and validation says so.
-/

namespace ProductGraph
namespace Xml

open Markup (Element)

/-- The field that a name stands for; a name outside the vocabulary stands for itself. -/
def fieldOf (name : String) : String := (Vocabulary.fieldOfMarkup? name).getD name

def declaredNamespace? (attributeName : String) : Option String :=
  match attributeName.toList with
  | 'x' :: 'm' :: 'l' :: 'n' :: 's' :: ':' :: name => some (String.ofList name)
  | _ => none

def isDeclaration (attributeName : String) : Bool :=
  attributeName == "xmlns" || (declaredNamespace? attributeName).isSome

def withAttributes (fields : Fields) (e : Element) : Fields :=
  fields.insertAll ((e.attributes.filter fun a => !isDeclaration a.1).map fun a => (fieldOf a.1, .string a.2))

def namespaces (e : Element) : Namespaces :=
  Keyed.ofList (e.attributes.filterMap fun a => (declaredNamespace? a.1).map fun name => (name, a.2))

/-- Put one more value into a field, making it a list if it has a value already. -/
def append (fields : Fields) (field : String) (value : Json) : Fields :=
  match fields.get? field with
  | none => fields.insert field value
  | some (.array list) => fields.insert field (.array (list ++ [value]))
  | some other => fields.insert field (.array [other, value])

/-- Put one more value into a field that is a list; nothing makes an empty list of an absent one.  A field that has
a value of another sort keeps it. -/
def appendToList (fields : Fields) (field : String) (value : Option Json) : Fields :=
  match (fields.get? field).getD (.array []) with
  | .array list => fields.insert field (.array (list ++ value.toList))
  | _ => fields

def textEntry (e : Element) : Json :=
  Writing.languageText ⟨e.text, e.attribute? "xml:lang"⟩

/-- The value that an element carries: what it refers to, or its text.  An element without anything carries
none. -/
def elementValue? (e : Element) : Option Json :=
  match e.attribute? "id" with
  | some id => some (.string id)
  | none => if e.isBare then none else some (.string e.text)

def withChild (kind : Option Kind) (fields : Fields) (e : Element) : Fields :=
  let field := fieldOf e.name
  if Vocabulary.textFields.contains field then appendToList fields field (some (textEntry e))
  else if Vocabulary.isList field kind then appendToList fields field (elementValue? e)
  else
    match elementValue? e with
    | some value => append fields field value
    | none => fields

/-- Fields with a value taken from an attribute, if the attribute is there. -/
def withValueOf (name field : String) (e : Element) (fields : Fields) : Fields :=
  match e.attribute? name with
  | some value => fields.insert field (.string value)
  | none => fields

def withOccurrences (fields : Fields) (e : Element) : Fields :=
  withValueOf "maxOccurs" "maxCount" e (withValueOf "minOccurs" "minCount" e fields)

/-- Fields with the one that a facet carries.  Facets that no field holds are passed over. -/
def withFacet (fields : Fields) (e : Element) : Fields :=
  match facets.find? (fun f => f.1 == e.name) with
  | some (_, field) => fields.insert field (.string ((e.attribute? "value").getD e.text))
  | none => fields

def withRestriction (fields : Fields) (e : Element) : Fields :=
  if e.name == restrictionElement then
    e.children.foldl withFacet (withOccurrences (withValueOf "base" "datatype" e fields) e)
  else fields

/-- Fields with those that the holder of restrictions carries. -/
def withType (fields : Fields) (e : Element) : Fields :=
  e.children.foldl withRestriction (withOccurrences fields e)

/-- Fields with the value of an item that is a property value: its text. -/
def withText (e : Element) (fields : Fields) : Fields :=
  if e.name == Kind.propertyValue.tag then fields.insert "value" (.string e.text) else fields

def fragmentOfElement (e : Element) : Json := .object (withText e (withAttributes [] e))

def withPart (kind : Option Kind) (fields : Fields) (e : Element) : Fields :=
  if e.name == typeElement then withType fields e
  else
    match Vocabulary.fragmentField? e.name with
    | some field =>
      match (fields.get? field).getD (.array []) with
      | .array list => fields.insert field (.array (list ++ [fragmentOfElement e]))
      | other => fields.insert field (.array [other, fragmentOfElement e])
    | none => withChild kind fields e

def itemOfElement (options : ReadingOptions) (e : Element) : DocumentItem :=
  let kind := Kind.ofTag? e.name
  let own := withText e (withAttributes [("itemType", .string e.name)] e)
  .ofJson (.object (Normal.fields options kind (e.children.foldl (withPart kind) own)))

def documentOfElement (options : ReadingOptions) (e : Element) : Document :=
  let (graphs, others) := e.children.partition fun child => child.name == graphElement
  let header := others.foldl (withChild (some .package)) (withAttributes [] e)
  ⟨namespaces e, Normal.fields options (some .package) header,
   graphs.flatMap fun graph => graph.children.map (itemOfElement options)⟩

/-- Read a document of markup. -/
def read (options : ReadingOptions) (text : String) : Except DocumentError Document :=
  match Markup.root Vocabulary.isRichElement text with
  | .error .notWellFormed => .error .malformedXml
  | .error .openElement => .error .unclosedElement
  | .error .noRoot => .error .noRootElement
  | .ok e => if e.name == packageElement then .ok (documentOfElement options e) else .error (.wrongRootElement e.name)

end Xml
end ProductGraph
