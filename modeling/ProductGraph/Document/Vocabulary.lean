import ProductGraph.Kind

/-!
# The vocabulary of documents

Every field of an item has one name in linked data.  In markup it is an attribute, a child element, or a part of
some larger structure and has no name of its own.  Names outside the vocabulary stand for themselves; on an
individual in linked data they may be the classes of its properties and links.
-/

namespace ProductGraph

/-- How markup carries a field. -/
inductive MarkupForm where
  | asAttribute (name : String)
  | asChild (name : String)
  | structural
  deriving DecidableEq

/-- A field with its names in documents. -/
structure Term where
  field : String
  linked : String
  markup : MarkupForm
  deriving DecidableEq

namespace MarkupForm

def name? : MarkupForm → Option String
  | asAttribute name => some name
  | asChild name => some name
  | structural => none

end MarkupForm

namespace Vocabulary

/-- A field that markup carries as a child element of the name that linked data gives it. -/
def shared (field name : String) : Term := ⟨field, name, .asChild name⟩

/-- A field for which markup has a structure. -/
def built (field name : String) : Term := ⟨field, name, .structural⟩

/-- All terms, in the order in which markup writes them. -/
def terms : List Term :=
  [⟨"id", "@id", .asAttribute "id"⟩,
   built "itemType" "pig:itemType",
   ⟨"hasClass", "pig:hasClass", .asAttribute "hasClass"⟩,
   ⟨"specializes", "pig:specializes", .asAttribute "specializes"⟩,
   ⟨"idRef", "pig:idRef", .asAttribute "idRef"⟩,
   ⟨"lang", "@language", .asAttribute "xml:lang"⟩,
   built "value" "@value",
   shared "title" "dcterms:title",
   shared "description" "dcterms:description",
   shared "icon" "pig:icon",
   shared "eligibleProperty" "pig:eligibleProperty",
   shared "eligibleEndpoint" "pig:eligibleEndpoint",
   shared "eligibleSourceLink" "pig:eligibleSourceLink",
   shared "eligibleTargetLink" "pig:eligibleTargetLink",
   shared "composedProperty" "pig:composedProperty",
   built "datatype" "sh:datatype",
   built "minCount" "sh:minCount",
   built "maxCount" "sh:maxCount",
   built "maxLength" "sh:maxLength",
   built "pattern" "sh:pattern",
   built "minInclusive" "sh:minInclusive",
   built "maxInclusive" "sh:maxInclusive",
   shared "revision" "pig:revision",
   shared "priorRevision" "pig:priorRevision",
   shared "modified" "dcterms:modified",
   shared "creator" "dcterms:creator",
   built "hasProperty" "pig:hasProperty",
   built "hasSourceLink" "pig:hasSourceLink",
   built "hasTargetLink" "pig:hasTargetLink"]

def ofField? (field : String) : Option Term := terms.find? (fun t => t.field == field)

def isField (name : String) : Bool := (ofField? name).isSome

def fieldOfLinked? (name : String) : Option String := (terms.find? (fun t => t.linked == name)).map (·.field)

def fieldOfMarkup? (name : String) : Option String :=
  (terms.find? (fun t => t.markup.name? == some name)).map (·.field)

def linkedOfField? (field : String) : Option String := (ofField? field).map (·.linked)

/-! ## Groups of fields -/

def textFields : List String := ["title", "description"]

def richFields : List String := ["description"]

def classFields : List String :=
  ["hasClass", "specializes", "eligibleProperty", "eligibleEndpoint", "eligibleSourceLink",
   "eligibleTargetLink", "composedProperty"]

def countFields : List String := ["minCount", "maxCount", "maxLength"]

def numberFields : List String := ["minInclusive", "maxInclusive"]

/-- Fields that hold the fragments of an individual, with the kinds of the fragments. -/
def fragmentFields : List (String × Kind) :=
  [("hasProperty", .propertyValue), ("hasSourceLink", .sourceLinkValue), ("hasTargetLink", .targetLinkValue)]

def fragmentField? (tag : String) : Option String :=
  (fragmentFields.find? (fun f => f.2.tag == tag)).map (·.1)

/-- Fields that hold lists, however many child elements carry them. -/
def listFields : List String :=
  ["eligibleProperty", "eligibleEndpoint", "composedProperty", "priorRevision", "hasProperty", "hasSourceLink",
   "hasTargetLink"]

/-- Whether a field holds a list in an item of a kind.  A node class lists the links to targets that it allows, an
edge class has one. -/
def isList (field : String) (kind : Option Kind) : Bool :=
  if field == "eligibleTargetLink" then kind == some .entityClass else listFields.contains field

def isRichElement (name : String) : Bool := (fieldOfMarkup? name).any richFields.contains

/-- The namespaces that every document declares. -/
def standardNamespaces : List (String × String) :=
  [("pig", "https://product-information-graph.org/v0.2/metamodel#"),
   ("dcterms", "http://purl.org/dc/terms/"),
   ("sh", "http://www.w3.org/ns/shacl#"),
   ("xs", "http://www.w3.org/2001/XMLSchema#"),
   ("rdf", "http://www.w3.org/1999/02/22-rdf-syntax-ns#")]

end Vocabulary

end ProductGraph
