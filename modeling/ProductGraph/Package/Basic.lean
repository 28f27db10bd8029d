import ProductGraph.Consistency.Verdict
import ProductGraph.Document.Codec
import ProductGraph.Item.Basic

/-!
# Packages

A package has a header, namespaces and items, some of which may be without content.  Only the items with content
are looked up, checked and written.
-/

namespace ProductGraph

/-- A package. -/
structure Package where
  header : PackageHeader
  namespaces : Namespaces
  items : List Item
  deriving DecidableEq

namespace Package

/-- A package with a header and nothing else. -/
def ofHeader (header : PackageHeader) : Package := ⟨header, [], []⟩

def empty : Package := ofHeader .empty

/-- The content of the items that have any, in their order. -/
def contents (p : Package) : List ItemData := p.items.filterMap (·.data)

def graph (p : Package) : Graph := ⟨p.contents⟩

/-- The first item with content that has an identifier. -/
def get? (p : Package) (id : String) : Option Item := p.items.find? (fun item => item.id? == some id)

/-- The first thing that some checks find. -/
def check (p : Package) (requested : CheckSet) (defaultLanguage : String) : Option Violation :=
  p.graph.check requested defaultLanguage

/-- A new item of a kind with a value, and what came of it.  The item stays even if the value is refused; a value of
another kind leaves the package as it was. -/
def add (p : Package) (schemas : Validator) (kind : Kind) (value : Json) : Package × SetOutcome :=
  match (Item.empty kind).set schemas value with
  | (_, .foreignKind kind declared) => (p, .foreignKind kind declared)
  | (item, outcome) => ({ p with items := p.items ++ [item] }, outcome)

/-- Give the item at a place a value; nothing if there is no such place. -/
def setAt? (p : Package) (schemas : Validator) (place : Nat) (value : Json) : Option (Package × SetOutcome) :=
  p.items[place]?.map fun item =>
    let (item, outcome) := item.set schemas value
    ({ p with items := p.items.set place item }, outcome)

def toDocument (p : Package) : Document :=
  ⟨p.namespaces, p.header.toFields, p.contents.map fun d => .ofJson d.toJson⟩

def text (p : Package) (format : Format) : Except DocumentError String := p.toDocument.text format

end Package

end ProductGraph
