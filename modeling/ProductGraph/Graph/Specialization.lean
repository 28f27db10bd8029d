import ProductGraph.Graph.Basic

/-!
# Specialization

An item may name a parent, which may name another.  Nothing keeps such a chain from leading nowhere or back to
where it was: every walk here ends at the first parent that is not found or was passed before.  A walk passes an
identifier at most once, so the number of items bounds its steps.
-/

namespace ProductGraph
namespace Graph

/-- The parents from an item on.  `passed` holds the identifiers that the walk has passed. -/
def ancestorsFrom (g : Graph) : Nat → (passed : List String) → Option String → List ItemData
  | 0, _, _ => []
  | _, _, none => []
  | steps + 1, passed, some parent =>
    if passed.contains parent then []
    else
      match g.get? parent with
      | none => []
      | some item => item :: ancestorsFrom g steps (parent :: passed) item.parent?

/-- The items that an item specializes, the nearest first. -/
def ancestors (g : Graph) (id : String) : List ItemData :=
  g.ancestorsFrom (g.items.length + 1) [id] ((g.get? id).bind ItemData.parent?)

/-- An item and those that it specializes, the nearest first; nothing if it is not found. -/
def line (g : Graph) (id : String) : List ItemData := (g.get? id).toList ++ g.ancestors id

/-- The identifiers of an item and of those that it specializes. -/
def lineage (g : Graph) (id : String) : List String := (g.line id).filterMap ItemData.id?

/-- Whether a class is another one or specializes it. -/
def isA (g : Graph) (id ancestor : String) : Bool := id == ancestor || (g.lineage id).contains ancestor

/-- The first thing that an item or one that it specializes says, the nearest first. -/
def inherited {α : Type} (g : Graph) (id : String) (value? : ItemData → Option α) : Option α :=
  (g.line id).findSome? value?

/-- The path from an identifier on until it comes back to `start`.  `passed` holds the identifiers that the walk
has passed; a walk that meets one of them never comes back to `start`. -/
def cycleFrom (g : Graph) (start : String) : Nat → (passed : List String) → String → Option (List String)
  | 0, _, _ => none
  | steps + 1, passed, current =>
    match (g.get? current).bind ItemData.parent? with
    | none => none
    | some parent =>
      if parent = start then some [parent]
      else if passed.contains parent then none
      else (cycleFrom g start steps (parent :: passed) parent).map (parent :: ·)

/-- The path from an identifier back to itself, if its parents lead there. -/
def cycle? (g : Graph) (id : String) : Option (List String) :=
  (g.cycleFrom id (g.items.length + 1) [id] id).map (id :: ·)

/-- The items that name an identifier as their parent, in their order. -/
def children (g : Graph) (id : String) : List ItemData := g.items.filter (fun d => d.parent? == some id)

/-- Those of some items whose identifiers were not met before, the first of each identifier. -/
def unmet (met : List String) : List ItemData → List ItemData
  | [] => []
  | item :: rest =>
    match item.id? with
    | none => unmet met rest
    | some id => if met.contains id then unmet met rest else item :: unmet (id :: met) rest

/-- The items below those that wait, level by level. -/
def descendantsFrom (g : Graph) : Nat → (met waiting : List String) → List ItemData
  | 0, _, _ => []
  | _, _, [] => []
  | steps + 1, met, current :: waiting =>
    let found := unmet met (g.children current)
    let ids := found.filterMap ItemData.id?
    found ++ descendantsFrom g steps (ids ++ met) (waiting ++ ids)

/-- The items that specialize an item, those in fewer steps first. -/
def descendants (g : Graph) (id : String) : List ItemData := g.descendantsFrom (g.items.length + 1) [id] [id]

/-- The nodes and edges whose class is a class or specializes it, in their order. -/
def instancesOf (g : Graph) (id : String) : List ItemData :=
  g.individuals.filter fun d => d.hasClass.any fun c => g.isA c id

end Graph
end ProductGraph
