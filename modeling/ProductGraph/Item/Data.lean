import ProductGraph.Kind
import ProductGraph.Datatype
import ProductGraph.Item.LanguageText
import ProductGraph.Number.Binary64

/-!
# The content of items

Each kind of item has a structure of its own.  What all identified items share, what entity and relationship
classes share and what individuals share are structures that the others embed.

A list that is absent and a list that is empty say different things about what a class allows: nothing said
against nothing allowed.  Such lists are optional; the others have no absent state.
-/

namespace ProductGraph

/-- The count that stands for no upper bound. -/
def unbounded : Nat := Nat.pow 2 32 - 1

/-- What every identified item has. -/
structure Identifiable where
  id : String
  specializes : Option String
  title : List LanguageText
  description : List LanguageText
  deriving DecidableEq

/-- What entity and relationship classes share. -/
structure ElementClass where
  eligibleProperty : Option (List String)
  icon : Option String
  deriving DecidableEq

/-- A property value of an individual. -/
structure PropertyValue where
  hasClass : String
  value : String
  lang : Option String
  deriving DecidableEq

/-- A link of an individual to another item. -/
structure LinkValue where
  hasClass : String
  idRef : String
  deriving DecidableEq

/-- What individuals share. -/
structure Individual where
  revision : Option String
  priorRevision : List String
  modified : Option String
  creator : Option String
  hasProperty : List PropertyValue
  deriving DecidableEq

/-- The definition of a property. -/
structure PropertyClass where
  identifiable : Identifiable
  hasClass : Option String
  datatype : Option String
  minCount : Option Nat
  maxCount : Option Nat
  maxLength : Option Nat
  pattern : Option String
  minInclusive : Option Binary64
  maxInclusive : Option Binary64
  composedProperty : Option (List String)
  deriving DecidableEq

/-- The definition of a link role. -/
structure LinkClass where
  identifiable : Identifiable
  hasClass : Option String
  eligibleEndpoint : Option (List String)
  deriving DecidableEq

/-- The definition of a type of node. -/
structure EntityClass where
  identifiable : Identifiable
  element : ElementClass
  hasClass : Option String
  eligibleTargetLink : Option (List String)
  deriving DecidableEq

/-- The definition of a type of edge. -/
structure RelationshipClass where
  identifiable : Identifiable
  element : ElementClass
  hasClass : Option String
  eligibleSourceLink : Option String
  eligibleTargetLink : Option String
  deriving DecidableEq

/-- A node of the graph. -/
structure Entity where
  identifiable : Identifiable
  individual : Individual
  hasClass : String
  hasTargetLink : List LinkValue
  deriving DecidableEq

/-- An edge of the graph. -/
structure Relationship where
  identifiable : Identifiable
  individual : Individual
  hasClass : String
  hasSourceLink : List LinkValue
  hasTargetLink : List LinkValue
  deriving DecidableEq

/-- The content of an item of the graph. -/
inductive ItemData where
  | propertyClass (content : PropertyClass)
  | linkClass (content : LinkClass)
  | entityClass (content : EntityClass)
  | relationshipClass (content : RelationshipClass)
  | entity (content : Entity)
  | relationship (content : Relationship)
  | property (content : PropertyValue)
  | sourceLink (content : LinkValue)
  | targetLink (content : LinkValue)
  deriving DecidableEq

namespace PropertyClass

def declaredDatatype (p : PropertyClass) : Option Datatype := p.datatype.map Datatype.ofTerm

end PropertyClass

namespace ItemData

def kind : ItemData → Kind
  | propertyClass _ => .propertyClass
  | linkClass _ => .linkClass
  | entityClass _ => .entityClass
  | relationshipClass _ => .relationshipClass
  | entity _ => .entityInstance
  | relationship _ => .relationshipInstance
  | property _ => .propertyValue
  | sourceLink _ => .sourceLinkValue
  | targetLink _ => .targetLinkValue

/-- The identity of an item; fragments have none. -/
def identifiable : ItemData → Option Identifiable
  | propertyClass d => some d.identifiable
  | linkClass d => some d.identifiable
  | entityClass d => some d.identifiable
  | relationshipClass d => some d.identifiable
  | entity d => some d.identifiable
  | relationship d => some d.identifiable
  | property _ | sourceLink _ | targetLink _ => none

def id? (d : ItemData) : Option String := d.identifiable.map (·.id)

def parent? (d : ItemData) : Option String := d.identifiable.bind (·.specializes)

def hasClass : ItemData → Option String
  | propertyClass d => d.hasClass
  | linkClass d => d.hasClass
  | entityClass d => d.hasClass
  | relationshipClass d => d.hasClass
  | entity d => some d.hasClass
  | relationship d => some d.hasClass
  | property d => some d.hasClass
  | sourceLink d => some d.hasClass
  | targetLink d => some d.hasClass

/-- What the item has as a class of nodes or edges. -/
def element : ItemData → Option ElementClass
  | entityClass d => some d.element
  | relationshipClass d => some d.element
  | _ => none

/-- What the item has as a node or an edge. -/
def individual : ItemData → Option Individual
  | entity d => some d.individual
  | relationship d => some d.individual
  | _ => none

def properties (d : ItemData) : List PropertyValue :=
  match d.individual with
  | some i => i.hasProperty
  | none => []

/-- The links of an edge to its sources. -/
def sourceLinks : ItemData → List LinkValue
  | relationship d => d.hasSourceLink
  | _ => []

def targetLinks : ItemData → List LinkValue
  | entity d => d.hasTargetLink
  | relationship d => d.hasTargetLink
  | _ => []

/-- The identifier that reports name an item by: its tag where it has no identity. -/
def label (d : ItemData) : String :=
  match d.id? with
  | some id => id
  | none => d.kind.tag

end ItemData

/-- The header of a package. -/
structure PackageHeader where
  id : Option String
  title : List LanguageText
  description : List LanguageText
  modified : Option String
  creator : Option String
  deriving DecidableEq

def PackageHeader.empty : PackageHeader := ⟨none, [], [], none, none⟩

end ProductGraph
