import ProductGraph.Consistency.Basic
import ProductGraph.Graph.Specialization

/-!
# References

Identifiers name one item each.  Classes specialize classes of their own kind, and what an individual says about
its class and the classes of its properties and links leads to classes of the kinds that belong there.  No class
specializes itself, however many steps it takes.
-/

namespace ProductGraph
namespace Consistency

/-- An identifier that is used twice. -/
def duplicateIds (g : Graph) : Option Violation :=
  g.duplicates.head?.map fun d => ⟨.duplicateIds, d.id, none, .sharedIdentifier d.first d.second⟩

/-- A reference that a field makes, and the kind of item that it has to lead to. -/
structure Reference where
  field : String
  target : String
  expected : Kind
  deriving DecidableEq

def references (d : ItemData) : List Reference :=
  if d.kind.isClass then (d.parent?.map fun parent => ⟨"specializes", parent, d.kind⟩).toList
  else
    let own : List Reference :=
      match d.hasClass, d.kind.classKind with
      | some c, some expected => [⟨"hasClass", c, expected⟩]
      | _, _ => []
    own ++ d.properties.map (fun p => ⟨p.hasClass, p.hasClass, .propertyClass⟩) ++
      (d.sourceLinks ++ d.targetLinks).map (fun l => ⟨l.hasClass, l.hasClass, .linkClass⟩)

def referenceCause? (g : Graph) (r : Reference) : Option Cause :=
  match g.get? r.target with
  | none => some (.unresolved r.target)
  | some d => if d.kind = r.expected then none else some (.wrongKind r.target d.kind r.expected)

/-- A reference to a class that leads nowhere or to an item of another kind. -/
def classReferences (g : Graph) : Option Violation :=
  g.items.findSome? fun d =>
    (references d).findSome? fun r =>
      (referenceCause? g r).map fun cause => ⟨.classReferences, d.label, some r.field, cause⟩

/-- A class that specializes itself. -/
def specializationCycles (g : Graph) : Option Violation :=
  g.items.findSome? fun d =>
    match d.id? with
    | none => none
    | some id =>
      if d.parent?.isNone then none
      else (g.cycle? id).map fun path => ⟨.specializationCycles, id, some "specializes", .cycle path⟩

end Consistency
end ProductGraph
