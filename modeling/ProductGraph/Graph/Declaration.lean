import ProductGraph.Graph.Specialization

/-!
# What classes declare

A class that does not say something itself takes it over from the nearest class that it specializes and that says
it.  The lists of what an individual may have are no such thing: they are joined along the whole line, and there
is no restriction only where no class of the line has a list.
-/

namespace ProductGraph
namespace Graph

/-- What a property class declares, itself or by its nearest ancestor that does. -/
def facet? {α : Type} (g : Graph) (id : String) (declares : PropertyClass → Option α) : Option α :=
  g.inherited id fun
    | .propertyClass p => declares p
    | _ => none

def datatype? (g : Graph) (id : String) : Option Datatype := g.facet? id PropertyClass.declaredDatatype

/-- Whether the values of a property class are text, counted by language; this is so where nothing is declared. -/
def isText (g : Graph) (id : String) : Bool :=
  match g.datatype? id with
  | none | some .string => true
  | _ => false

/-- How often a property occurs at least: not at all unless declared. -/
def minCount (g : Graph) (id : String) : Nat := (g.facet? id PropertyClass.minCount).getD 0

/-- How often a property occurs at most: once unless declared. -/
def maxCount (g : Graph) (id : String) : Nat := (g.facet? id PropertyClass.maxCount).getD 1

/-- The classes that the ends of a link may have. -/
def endpoints? (g : Graph) (id : String) : Option (List String) :=
  g.inherited id fun
    | .linkClass l => l.eligibleEndpoint
    | _ => none

/-- The class of links to the source that an edge class allows. -/
def sourceLink? (g : Graph) (id : String) : Option String :=
  g.inherited id fun
    | .relationshipClass c => c.eligibleSourceLink
    | _ => none

/-- The class of links to the target that an edge class allows. -/
def targetLink? (g : Graph) (id : String) : Option String :=
  g.inherited id fun
    | .relationshipClass c => c.eligibleTargetLink
    | _ => none

/-- Lists joined into one; nothing if there is none. -/
def joined (lists : List (List String)) : Option (List String) :=
  if lists.isEmpty then none else some lists.flatten

/-- The properties that a class allows, each once; nothing if it allows all. -/
def properties? (g : Graph) (id : String) : Option (List String) :=
  (joined ((g.line id).filterMap fun d => d.element.bind (·.eligibleProperty))).map List.eraseDups

/-- The classes of links to targets that a node class allows; nothing if it allows all. -/
def targetLinks? (g : Graph) (id : String) : Option (List String) :=
  joined ((g.line id).filterMap fun
    | .entityClass e => e.eligibleTargetLink
    | _ => none)

end Graph
end ProductGraph
