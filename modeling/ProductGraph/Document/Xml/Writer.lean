import ProductGraph.Document.Error
import ProductGraph.Document.Normal
import ProductGraph.Document.Xml.Layout
import ProductGraph.Markup.Writer

/-!
# Writing markup

An item is written as an element of the name of its kind.  Its attributes and children come in the order of the
vocabulary, then the restriction, then the fragments.  An item without any of them is a single tag.

A value that markup cannot carry where it stands, such as a list in an attribute, is left out.
-/

namespace ProductGraph
namespace Xml

open Markup (Token)

/-- The text of a field, if its value has no parts. -/
def textOf? (fields : Fields) (field : String) : Option String := (fields.get? field).bind Json.scalarText?

def attributes (fields : Fields) : List (String × String) :=
  Vocabulary.terms.filterMap fun term =>
    match term.markup with
    | .asAttribute name => (textOf? fields term.field).map fun value => (name, value)
    | _ => none

/-- An element with nothing but text. -/
def textElement (name : String) (attributes : List (String × String)) (text : Token) : List Token :=
  [.opening name attributes, text, .closing name]

/-- The entries of a text, an element each.  What is markup in rich text is written as it is. -/
def textEntries (name field : String) (value : Json) : List Token :=
  ((value.items?).getD []).flatMap fun entry =>
    let lang := ((entry.textField? "lang").map fun lang => ("xml:lang", lang)).toList
    let text := ((entry.field? "value").bind Json.scalarText?).getD ""
    textElement name lang
      (if Vocabulary.richFields.contains field && Markup.isMarkup text then .text text.toList else .plain text)

/-- One value of a field: a reference to a class, or text. -/
def fieldValue (name field : String) (value : Json) : List Token :=
  match Json.scalarText? value with
  | none => []
  | some text =>
    if Vocabulary.classFields.contains field then [.single name [("id", text)]]
    else textElement name [] (.plain text)

/-- The child elements that fields are written as.  A list without items leaves an element without content. -/
def children (fields : Fields) : List Token :=
  Vocabulary.terms.flatMap fun term =>
    match term.markup, fields.get? term.field with
    | .asChild name, some value =>
      if Vocabulary.textFields.contains term.field then textEntries name term.field value
      else
        match value with
        | .array [] => [.single name []]
        | .array list => list.flatMap (fieldValue name term.field)
        | _ => fieldValue name term.field value
    | _, _ => []

/-- The upper bound on occurrences as it is written. -/
def maxOccurs (value : Json) : String :=
  match value with
  | .number (.integer n) => if n = unbounded then "unbounded" else toString n
  | _ => (Json.scalarText? value).getD ""

def restrictionAttributes (fields : Fields) : List (String × String) :=
  ((textOf? fields "datatype").map fun base => ("base", base)).toList ++
    ((textOf? fields "minCount").map fun least => ("minOccurs", least)).toList ++
    ((fields.get? "maxCount").map fun most => ("maxOccurs", maxOccurs most)).toList

def facetElements (fields : Fields) : List Token :=
  facets.filterMap fun (name, field) => (textOf? fields field).map fun value => .single name [("value", value)]

/-- The restriction that fields are written as, if any of them belongs to it. -/
def restriction (fields : Fields) : List Token :=
  let hasFacets := facets.any fun f => fields.has f.2
  if hasFacets || ["datatype", "minCount", "maxCount"].any fields.has then
    let attributes := restrictionAttributes fields
    .opening typeElement [] ::
      ((if hasFacets then
          .opening restrictionElement attributes :: (facetElements fields ++ [.closing restrictionElement])
        else [.single restrictionElement attributes]) ++ [.closing typeElement])
  else []

/-- A fragment of an individual.  Only property values have text. -/
def fragmentTokens (kind : Kind) (value : Json) : List Token :=
  match value with
  | .object fields =>
    match kind, textOf? fields "value" with
    | .propertyValue, some text => textElement kind.tag (attributes fields) (.plain text)
    | _, _ => [.single kind.tag (attributes fields)]
  | _ => []

def fragments (fields : Fields) : List Token :=
  Vocabulary.fragmentFields.flatMap fun (field, kind) =>
    (((fields.get? field).bind Json.items?).getD []).flatMap (fragmentTokens kind)

def isInside (field : String) : Bool :=
  match form? field with
  | some (.asAttribute _) | none => false
  | some _ => field != "itemType"

/-- What is written inside the element of an item. -/
def content (tag : String) (fields : Fields) : List Token :=
  (if tag == Kind.propertyValue.tag then ((textOf? fields "value").map Token.plain).toList else []) ++
    children fields ++ restriction fields ++ fragments fields

def itemTokens (value : Json) : Except DocumentError (List Token) :=
  match value with
  | .object fields =>
    match value.textField? "itemType" with
    | none => .error .untypedItem
    | some tag =>
      if (Keyed.names fields).any isInside then
        .ok (.opening tag (attributes fields) :: (content tag fields ++ [.closing tag]))
      else .ok [.single tag (attributes fields)]
  | _ => .error .itemNotObject

/-- The attributes of a package: its namespaces and its header. -/
def packageAttributes (document : Document) : List (String × String) :=
  (Document.declaredNamespaces document.namespaces).map (fun n => ("xmlns:" ++ n.1, n.2)) ++
    attributes document.header

def documentTokens (document : Document) : Except DocumentError (List Token) :=
  (document.items.mapM fun i => itemTokens i.value).map fun items =>
    .declaration :: .opening packageElement (packageAttributes document) :: (children document.header ++
      .opening graphElement [] :: (items.flatten ++ [.closing graphElement, .closing packageElement]))

end Xml
end ProductGraph
