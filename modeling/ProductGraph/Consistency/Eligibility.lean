import ProductGraph.Consistency.Basic
import ProductGraph.Graph.Declaration

/-!
# Eligibility

Links lead to items, and where the class of a link says which classes its ends may have, to items of those.  The
class of an individual may say which properties and links its individuals have; a class that specializes a listed
one is as good as the listed one.
-/

namespace ProductGraph
namespace Consistency

def linksOf : ItemData → List LinkValue
  | .sourceLink l | .targetLink l => [l]
  | d => d.sourceLinks ++ d.targetLinks

/-- The class that an item counts as at the end of a link: itself if it is a class. -/
def classAtEnd (d : ItemData) : String := if d.kind.isClass then d.label else d.hasClass.getD ""

/-- What is wrong with where a link leads. -/
def targetCause? (g : Graph) (link : LinkValue) : Option Cause :=
  match g.get? link.idRef with
  | none => some (.unresolvedTarget link.idRef)
  | some target =>
    let atEnd := classAtEnd target
    match g.endpoints? link.hasClass with
    | none => none
    | some endpoints =>
      if endpoints.any fun e => g.isA atEnd e then none else some (.ineligibleEndpoint link.idRef atEnd)

/-- A link that leads nowhere or to an item of a class that it may not lead to. -/
def linkTargets (g : Graph) : Option Violation :=
  g.items.findSome? fun d =>
    (linksOf d).findSome? fun link =>
      (targetCause? g link).map fun cause => ⟨.linkTargets, d.label, some link.hasClass, cause⟩

/-- The first of some classes that neither is nor specializes one that is allowed. -/
def foreign? (g : Graph) (allowed : List String) (classes : List String) : Option String :=
  classes.find? fun c => !allowed.any fun a => g.isA c a

/-- A property that the class of its individual does not allow. -/
def eligibleProperties (g : Graph) : Option Violation :=
  g.individuals.findSome? fun d =>
    let ofClass := d.hasClass.getD ""
    (g.properties? ofClass).bind fun allowed =>
      (foreign? g allowed (d.properties.map (·.hasClass))).map fun property =>
        ⟨.eligibleProperties, d.label, some property, .ineligibleProperty property ofClass⟩

/-- The links of an individual in a role with the classes that its own class allows there, if it says which. -/
def allowedLinks (g : Graph) : ItemData → List (LinkRole × Option (List String) × List LinkValue)
  | .entity e => [(.target, g.targetLinks? e.hasClass, e.hasTargetLink)]
  | .relationship r =>
    [(.source, (g.sourceLink? r.hasClass).map ([·]), r.hasSourceLink),
     (.target, (g.targetLink? r.hasClass).map ([·]), r.hasTargetLink)]
  | _ => []

/-- A link that the class of its individual does not allow. -/
def eligibleLinks (g : Graph) : Option Violation :=
  g.individuals.findSome? fun d =>
    (allowedLinks g d).findSome? fun (role, allowed, links) =>
      allowed.bind fun allowed =>
        (foreign? g allowed (links.map (·.hasClass))).map fun link =>
          ⟨.eligibleLinks, d.label, some link, .ineligibleLink role link (d.hasClass.getD "")⟩

end Consistency
end ProductGraph
