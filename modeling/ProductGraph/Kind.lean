import ProductGraph.Text.Quoted
import ProductGraph.Text.Words

/-!
# Kinds of items

A product information graph is made of classes, individuals and the fragments embedded in individuals.  The
kind of an item is fixed when the item is made; documents name it by a tag with a namespace.
-/

namespace ProductGraph

/-- The kind of an item of the graph, or of the package that holds it. -/
inductive Kind where
  | propertyClass
  | linkClass
  | entityClass
  | relationshipClass
  | entityInstance
  | relationshipInstance
  | propertyValue
  | sourceLinkValue
  | targetLinkValue
  | package
  deriving DecidableEq

namespace Kind

/-- Every kind, classes first and the package last. -/
def all : List Kind :=
  [.propertyClass, .linkClass, .entityClass, .relationshipClass, .entityInstance, .relationshipInstance,
   .propertyValue, .sourceLinkValue, .targetLinkValue, .package]

theorem mem_all (kind : Kind) : kind ∈ all := by
  cases kind <;> decide

/-- The tag that documents name a kind by. -/
def tag : Kind → String
  | propertyClass => "pig:Property"
  | linkClass => "pig:Link"
  | entityClass => "pig:Entity"
  | relationshipClass => "pig:Relationship"
  | entityInstance => "pig:anEntity"
  | relationshipInstance => "pig:aRelationship"
  | propertyValue => "pig:aProperty"
  | sourceLinkValue => "pig:aSourceLink"
  | targetLinkValue => "pig:aTargetLink"
  | package => "pig:aPackage"

def ofTag? (tag : String) : Option Kind := all.find? (fun k => k.tag == tag)

def unknownTag (tag : String) : String :=
  "unknown item kind " ++ Text.quoted tag ++ "; expected one of: " ++ Text.join ", " (all.map Kind.tag)

/-- The stem of the file that holds the schema of a kind. -/
def schemaName : Kind → String
  | propertyClass => "property-class"
  | linkClass => "link-class"
  | entityClass => "entity-class"
  | relationshipClass => "relationship-class"
  | entityInstance => "entity-instance"
  | relationshipInstance => "relationship-instance"
  | propertyValue => "property-value"
  | sourceLinkValue => "source-link-value"
  | targetLinkValue => "target-link-value"
  | package => "package"

/-- Whether items of the kind define properties, links, nodes or edges. -/
def isClass : Kind → Bool
  | propertyClass | linkClass | entityClass | relationshipClass => true
  | _ => false

/-- Whether items of the kind are nodes or edges of the graph. -/
def isIndividual : Kind → Bool
  | entityInstance | relationshipInstance => true
  | _ => false

/-- Whether items of the kind are parts of an individual. -/
def isFragment : Kind → Bool
  | propertyValue | sourceLinkValue | targetLinkValue => true
  | _ => false

/-- The kind of class that an item of this kind refers to as its own; nothing for classes and the package. -/
def classKind : Kind → Option Kind
  | entityInstance => some entityClass
  | relationshipInstance => some relationshipClass
  | propertyValue => some propertyClass
  | sourceLinkValue | targetLinkValue => some linkClass
  | _ => none

/-- The tag of a kind determines it. -/
theorem ofTag?_tag (k : Kind) : ofTag? k.tag = some k := by
  cases k <;> rfl

/-- A text names a kind exactly if it is the tag of that kind. -/
theorem ofTag?_eq_some_iff {s : String} {k : Kind} : ofTag? s = some k ↔ k.tag = s := by
  constructor
  · intro found
    simpa using List.find?_some found
  · intro same
    rw [← same]
    exact ofTag?_tag k

end Kind

end ProductGraph
