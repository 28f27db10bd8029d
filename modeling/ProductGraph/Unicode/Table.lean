import ProductGraph.Unicode.Ranges
import ProductGraph.Number.Literal

/-!
# Tables of character properties

The large properties are kept as text: for each range the gap to the range before it and the number of further
code points in it, in hexadecimal.  A table gives each value of a property its names, in lower case and without
blanks, underscores and hyphens.
-/

namespace ProductGraph
namespace Unicode

/-- The value of a hexadecimal digit; other characters count as zero, but the tables hold none. -/
def hexDigitValue (c : Char) : Nat := if c.toNat < 58 then c.toNat - 48 else c.toNat - 55

/-- The numbers that a text lists, separated by single blanks; `current` is the number being read. -/
def codedNumbers (current : Nat) : List Char → List Nat
  | [] => [current]
  | c :: rest =>
    if c = ' ' then current :: codedNumbers 0 rest
    else codedNumbers (16 * current + hexDigitValue c) rest

/-- The ranges given by gaps and further code points; `start` is the first code point not yet passed. -/
def rangesFrom (start : Nat) : List Nat → Ranges
  | gap :: further :: rest =>
    (start + gap, start + gap + further) :: rangesFrom (start + gap + further + 1) rest
  | _ => []

def Ranges.decode (coded : String) : Ranges := rangesFrom 0 (codedNumbers 0 coded.toList)

/-- Values of a property: their names and coded ranges. -/
abbrev Table := List (List String × String)

def Table.find? (table : Table) (name : String) : Option Ranges :=
  (List.find? (fun row => row.1.contains name) table).map fun row => Ranges.decode row.2

end Unicode
end ProductGraph
