import ProductGraph.Number.Literal

/-!
# Characters with a meaning in markup

Markup writes some characters by reference.  Five have names; every character can be given by its number.  A
reference runs from an ampersand to the next semicolon, and no other ampersand may come between.
-/

namespace ProductGraph
namespace Markup

/-- How a character is written where quotes delimit a value. -/
def escapedChar (c : Char) : List Char :=
  match c with
  | '<' => "&lt;".toList
  | '>' => "&gt;".toList
  | '&' => "&amp;".toList
  | '\'' => "&apos;".toList
  | '"' => "&quot;".toList
  | c => [c]

/-- How a character is written where quotes have no meaning. -/
def partlyEscapedChar (c : Char) : List Char :=
  match c with
  | '<' => "&lt;".toList
  | '>' => "&gt;".toList
  | '&' => "&amp;".toList
  | c => [c]

/-- A text with all characters that have a meaning written by reference. -/
def escape (cs : List Char) : List Char := cs.flatMap escapedChar

/-- A text with all characters that have a meaning outside tags written by reference. -/
def partlyEscape (cs : List Char) : List Char := cs.flatMap partlyEscapedChar

def hexValue? (c : Char) : Option Nat :=
  if Unicode.isAsciiDigit c then some (digitValue c)
  else if 'a' ≤ c ∧ c ≤ 'f' then some (c.toNat - 87)
  else if 'A' ≤ c ∧ c ≤ 'F' then some (c.toNat - 55)
  else none

def hexNumber? (value : Nat) : List Char → Option Nat
  | [] => some value
  | c :: rest => (hexValue? c).bind fun digit => hexNumber? (16 * value + digit) rest

/-- The character with a number, which is not zero. -/
def numbered? (point : Nat) : Option Char :=
  if h : point.isValidChar then if point = 0 then none else some (Char.ofNatAux point h) else none

/-- What a reference stands for, without its ampersand and semicolon. -/
def referenced? (name : List Char) : Option Char :=
  match name with
  | '#' :: 'x' :: digits => if 6 < digits.length then none else (hexNumber? 0 digits).bind numbered?
  | '#' :: digits => if 7 < digits.length then none else (natural? digits).bind numbered?
  | _ =>
    match String.ofList name with
    | "lt" => some '<'
    | "gt" => some '>'
    | "amp" => some '&'
    | "apos" => some '\''
    | "quot" => some '"'
    | _ => none

/-- A text with its references resolved, or nothing if one is open or unknown.  `reference` is the reference
being read, from its last character back. -/
def resolveFrom (reference : Option (List Char)) : List Char → Option (List Char)
  | [] => if reference.isNone then some [] else none
  | c :: rest =>
    match reference with
    | none =>
      if c = '&' then resolveFrom (some []) rest else (resolveFrom none rest).map (c :: ·)
    | some name =>
      if c = '&' then none
      else if c = ';' then
        (referenced? name.reverse).bind fun d => (resolveFrom none rest).map (d :: ·)
      else resolveFrom (some (c :: name)) rest

/-- A text with its references resolved, or nothing if one is open or unknown. -/
def resolve? (cs : List Char) : Option (List Char) := resolveFrom none cs

end Markup
end ProductGraph
