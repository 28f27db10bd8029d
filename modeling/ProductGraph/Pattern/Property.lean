import ProductGraph.Pattern.CharSet
import ProductGraph.Pattern.Expression
import ProductGraph.Unicode.Age
import ProductGraph.Unicode.Boundary
import ProductGraph.Unicode.Category
import ProductGraph.Unicode.Property
import ProductGraph.Unicode.Script
import ProductGraph.Unicode.ScriptExtension

/-!
# Properties in patterns

A property is named loosely: case, blanks, underscores and hyphens do not count, and neither does `is` in front.
A name alone is that of a binary property, else of a category, else of a script.
-/

namespace ProductGraph
namespace PropertyQuery

/-- Whether a character counts in a loose name. -/
def counts (c : Char) : Bool := c.toNat < 0x80 && c != ' ' && c != '_' && c != '-'

/-- The letters of a name without `is` in front. -/
def withoutIs : List Char → Bool × List Char
  | a :: b :: rest =>
    if (a = 'i' ∨ a = 'I') ∧ (b = 's' ∨ b = 'S') then (true, rest) else (false, a :: b :: rest)
  | cs => (false, cs)

/-- The form of a name that tables use.  `isc` keeps its first letters, which belong to the name. -/
def loose (name : String) : String :=
  let (dropped, cs) := withoutIs name.toList
  let kept := (cs.filter counts).map lowerLetter
  if dropped && kept == ['c'] then "isc" else String.ofList kept

/-- The characters of a category or a group of categories. -/
def category? (name : String) : Option CharSet :=
  if name == "any" then some [(0, CharSet.last)]
  else if name == "ascii" then some [(0, 0x7F)]
  else if name == "assigned" then (Unicode.Category.leafTable.find? "cn").map CharSet.complement
  else
    match Unicode.Category.groups.find? (fun g => g.1.contains name) with
    | some group => some (group.2.foldl (fun set leaf => CharSet.union (Unicode.Category.ranges leaf) set) [])
    | none => Unicode.Category.leafTable.find? name

/-- The characters that a name alone stands for. -/
def named? (name : String) : Option CharSet :=
  let general := (category? name).or (Unicode.Script.table.find? name)
  if name == "cf" || name == "sc" || name == "lc" then general
  else (Unicode.Property.table.find? name).or general

/-- The properties whose values are listed one by one, by their names. -/
def valueTables : List (List String × Unicode.Table) :=
  [(["sc", "script"], Unicode.Script.table),
   (["scx", "scriptextensions"], Unicode.ScriptExtension.table),
   (["gcb", "graphemeclusterbreak"], Unicode.Boundary.graphemeTable),
   (["wb", "wordbreak"], Unicode.Boundary.wordTable),
   (["sb", "sentencebreak"], Unicode.Boundary.sentenceTable)]

def valued? (property value : String) : Option CharSet :=
  if property == "gc" || property == "generalcategory" then category? value
  else if property == "age" then
    (Unicode.Age.upTo? value).map fun sets => sets.foldl (fun set added => CharSet.union added set) []
  else
    (valueTables.find? (fun row => row.1.contains property)).bind fun row => row.2.find? value

/-- The characters that a query asks for, if it names something. -/
def charSet? : PropertyQuery → Option CharSet
  | named name => named? (loose name)
  | valued property value => valued? (loose property) (loose value)

end PropertyQuery
end ProductGraph
