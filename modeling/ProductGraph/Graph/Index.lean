import ProductGraph.Graph.Basic

/-!
# The index of a graph

An index notes, item by item, where an identifier is first used and where it is used again.  An item without an
identifier takes up a place and nothing else.  A graph that looks through its items gives the same answers.
-/

namespace ProductGraph
namespace Graph

/-- What is noted of the items that were added: the items, the places of new identifiers, and the repetitions. -/
structure Index where
  items : List ItemData
  places : List (String × Nat)
  duplicates : List Duplicate

namespace Index

def empty : Index := ⟨[], [], []⟩

/-- The place that is noted for an identifier. -/
def place? (index : Index) (id : String) : Option Nat := (index.places.find? fun noted => noted.1 == id).map (·.2)

def get? (index : Index) (id : String) : Option ItemData := (index.place? id).bind fun place => index.items[place]?

/-- The index with one more item. -/
def add (index : Index) (item : ItemData) : Index :=
  let items := index.items ++ [item]
  match item.id? with
  | none => { index with items }
  | some id =>
    match index.place? id with
    | some first => { index with items, duplicates := index.duplicates ++ [⟨id, first, index.items.length⟩] }
    | none => { index with items, places := index.places ++ [(id, index.items.length)] }

/-- The index of some items, which are added in their order. -/
def ofItems (items : List ItemData) : Index := items.foldl add empty

end Index

end Graph

end ProductGraph
