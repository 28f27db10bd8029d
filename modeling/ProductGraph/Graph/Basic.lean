import ProductGraph.Item.Data

/-!
# Graphs

The items of a package, in their order, are looked up by identifier.  Where several items share one, the first is
found and the others are reported as duplicates; nothing here forbids them.
-/

namespace ProductGraph

/-- The items of a graph, in their order. -/
structure Graph where
  items : List ItemData
  deriving DecidableEq

/-- An identifier that is used again, and the places of its first use and of this one. -/
structure Duplicate where
  id : String
  first : Nat
  second : Nat
  deriving DecidableEq

namespace Graph

/-- The first item with an identifier. -/
def get? (g : Graph) (id : String) : Option ItemData := g.items.find? (fun d => d.id? == some id)

def getKind? (g : Graph) (id : String) (kind : Kind) : Option ItemData := (g.get? id).filter (fun d => d.kind == kind)

def propertyClass? (g : Graph) (id : String) : Option PropertyClass :=
  match g.get? id with
  | some (.propertyClass p) => some p
  | _ => none

def ofKind (g : Graph) (kind : Kind) : List ItemData := g.items.filter (fun d => d.kind == kind)

def individuals (g : Graph) : List ItemData := g.items.filter (fun d => d.kind.isIndividual)

/-- The identifiers used again by items from a place on; `seen` holds those used before with their first places. -/
def duplicatesFrom (seen : List (String × Nat)) (place : Nat) : List ItemData → List Duplicate
  | [] => []
  | item :: rest =>
    match item.id? with
    | none => duplicatesFrom seen (place + 1) rest
    | some id =>
      match seen.find? (fun s => s.1 == id) with
      | some (_, first) => ⟨id, first, place⟩ :: duplicatesFrom seen (place + 1) rest
      | none => duplicatesFrom (seen ++ [(id, place)]) (place + 1) rest

/-- The identifiers that are used again, in the order of that use. -/
def duplicates (g : Graph) : List Duplicate := duplicatesFrom [] 0 g.items

end Graph

end ProductGraph
