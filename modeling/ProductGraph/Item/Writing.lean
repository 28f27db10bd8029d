import ProductGraph.Item.Data
import ProductGraph.Json.Basic

/-!
# Writing the content of items

The content of an item becomes a structured value again.  What is absent is left out, and so is a list that has
no absent state while it is empty.  The kind is written with it, so the value says by itself what it is.
-/

namespace ProductGraph
namespace Writing

/-- Named values to be written; nothing where a value is left out. -/
abbrev Entries := List (String × Option Json)

def fieldsOf (entries : Entries) : Fields :=
  Keyed.ofList (entries.filterMap fun e => e.2.map fun value => (e.1, value))

def text? (s : Option String) : Option Json := s.map .string

def texts (list : List String) : Json := .array (list.map .string)

def count? (n : Option Nat) : Option Json := n.map .nat

def real? (x : Option Binary64) : Option Json := x.map fun x => .number (.real x)

/-- A list that is left out while it is empty. -/
def unlessEmpty {α : Type} (write : α → Json) (list : List α) : Option Json :=
  if list.isEmpty then none else some (.array (list.map write))

/-- An entry of a text in several languages. -/
def languageText (t : LanguageText) : Json :=
  .object (fieldsOf [("value", some (.string t.value)), ("lang", text? t.lang)])

def identifiable (i : Identifiable) : Entries :=
  [("id", some (.string i.id)), ("specializes", text? i.specializes),
   ("title", unlessEmpty languageText i.title), ("description", unlessEmpty languageText i.description)]

def elementClass (e : ElementClass) : Entries :=
  [("eligibleProperty", e.eligibleProperty.map texts), ("icon", text? e.icon)]

def propertyValue (p : PropertyValue) : Entries :=
  [("hasClass", some (.string p.hasClass)), ("value", some (.string p.value)), ("lang", text? p.lang)]

def linkValue (l : LinkValue) : Entries :=
  [("hasClass", some (.string l.hasClass)), ("idRef", some (.string l.idRef))]

def embeddedProperty (p : PropertyValue) : Json := .object (fieldsOf (propertyValue p))

def embeddedLink (l : LinkValue) : Json := .object (fieldsOf (linkValue l))

def individual (i : Individual) : Entries :=
  [("revision", text? i.revision), ("priorRevision", unlessEmpty .string i.priorRevision),
   ("modified", text? i.modified), ("creator", text? i.creator),
   ("hasProperty", unlessEmpty embeddedProperty i.hasProperty)]

def propertyClass (p : PropertyClass) : Entries :=
  identifiable p.identifiable ++
    [("hasClass", text? p.hasClass), ("datatype", text? p.datatype), ("minCount", count? p.minCount),
     ("maxCount", count? p.maxCount), ("maxLength", count? p.maxLength), ("pattern", text? p.pattern),
     ("minInclusive", real? p.minInclusive), ("maxInclusive", real? p.maxInclusive),
     ("composedProperty", p.composedProperty.map texts)]

def linkClass (l : LinkClass) : Entries :=
  identifiable l.identifiable ++
    [("hasClass", text? l.hasClass), ("eligibleEndpoint", l.eligibleEndpoint.map texts)]

def entityClass (e : EntityClass) : Entries :=
  identifiable e.identifiable ++ elementClass e.element ++
    [("hasClass", text? e.hasClass), ("eligibleTargetLink", e.eligibleTargetLink.map texts)]

def relationshipClass (r : RelationshipClass) : Entries :=
  identifiable r.identifiable ++ elementClass r.element ++
    [("hasClass", text? r.hasClass), ("eligibleSourceLink", text? r.eligibleSourceLink),
     ("eligibleTargetLink", text? r.eligibleTargetLink)]

def entity (e : Entity) : Entries :=
  identifiable e.identifiable ++ individual e.individual ++
    [("hasClass", some (.string e.hasClass)), ("hasTargetLink", unlessEmpty embeddedLink e.hasTargetLink)]

def relationship (r : Relationship) : Entries :=
  identifiable r.identifiable ++ individual r.individual ++
    [("hasClass", some (.string r.hasClass)), ("hasSourceLink", unlessEmpty embeddedLink r.hasSourceLink),
     ("hasTargetLink", unlessEmpty embeddedLink r.hasTargetLink)]

/-- The content of an item without its kind. -/
def content : ItemData → Entries
  | .propertyClass d => propertyClass d
  | .linkClass d => linkClass d
  | .entityClass d => entityClass d
  | .relationshipClass d => relationshipClass d
  | .entity d => entity d
  | .relationship d => relationship d
  | .property d => propertyValue d
  | .sourceLink d => linkValue d
  | .targetLink d => linkValue d

end Writing

/-- The value of an item, with its kind. -/
def ItemData.toJson (d : ItemData) : Json :=
  .object (Writing.fieldsOf (Writing.content d ++ [("itemType", some (.string d.kind.tag))]))

def PackageHeader.toFields (h : PackageHeader) : Fields :=
  Writing.fieldsOf
    [("id", Writing.text? h.id), ("title", Writing.unlessEmpty Writing.languageText h.title),
     ("description", Writing.unlessEmpty Writing.languageText h.description),
     ("modified", Writing.text? h.modified), ("creator", Writing.text? h.creator)]

end ProductGraph
