import ProductGraph.Json.Basic

/-!
# Writing structured values

Messages show a value in one line without blanks.  Documents lay it out: two blanks for each level, one field
or item a line, and nothing between the brackets of an empty array or object.  Strings are written alike in
both: only quotes, backslashes and controls are escaped.
-/

namespace ProductGraph
namespace Json

def hexDigit (n : Nat) : Char := if n < 10 then Char.ofNat (48 + n) else Char.ofNat (87 + n)

/-- How a character is written in a string. -/
def escapedChar (c : Char) : List Char :=
  if c = '"' then ['\\', '"']
  else if c = '\\' then ['\\', '\\']
  else if c = '\x08' then ['\\', 'b']
  else if c = '\x0c' then ['\\', 'f']
  else if c = '\n' then ['\\', 'n']
  else if c = '\r' then ['\\', 'r']
  else if c = '\t' then ['\\', 't']
  else if c < ' ' then ['\\', 'u', '0', '0', hexDigit (c.toNat / 16), hexDigit (c.toNat % 16)]
  else [c]

def stringText (s : String) : List Char := '"' :: (s.toList.flatMap escapedChar ++ ['"'])

/-- The text of a value that has no parts. -/
def boolText (b : Bool) : List Char := (if b then "true" else "false").toList

mutual

def compactText : Json → List Char
  | null => ['n', 'u', 'l', 'l']
  | bool b => boolText b
  | number n => n.text.toList
  | string s => stringText s
  | array items => '[' :: (compactItems items ++ [']'])
  | object fields => '\x7b' :: (compactFields fields ++ ['\x7d'])

def compactItems : List Json → List Char
  | [] => []
  | [item] => compactText item
  | item :: rest => compactText item ++ ',' :: compactItems rest

def compactFields : List (String × Json) → List Char
  | [] => []
  | [(name, value)] => stringText name ++ ':' :: compactText value
  | (name, value) :: rest => stringText name ++ ':' :: (compactText value ++ ',' :: compactFields rest)

end

def newLine (level : Nat) : List Char := '\n' :: List.replicate (2 * level) ' '

mutual

/-- A value laid out over lines; `level` is the level of the line it starts on. -/
def prettyText (level : Nat) : Json → List Char
  | null => ['n', 'u', 'l', 'l']
  | bool b => boolText b
  | number n => n.text.toList
  | string s => stringText s
  | array [] => ['[', ']']
  | array items => '[' :: (prettyItems (level + 1) items ++ newLine level ++ [']'])
  | object [] => ['\x7b', '\x7d']
  | object fields => '\x7b' :: (prettyFields (level + 1) fields ++ newLine level ++ ['\x7d'])

/-- Items, each on a line of its own. -/
def prettyItems (level : Nat) : List Json → List Char
  | [] => []
  | [item] => newLine level ++ prettyText level item
  | item :: rest => newLine level ++ prettyText level item ++ ',' :: prettyItems level rest

/-- Fields, each on a line of its own. -/
def prettyFields (level : Nat) : List (String × Json) → List Char
  | [] => []
  | [(name, value)] => newLine level ++ stringText name ++ ':' :: ' ' :: prettyText level value
  | (name, value) :: rest =>
    newLine level ++ stringText name ++ ':' :: ' ' :: (prettyText level value ++ ',' :: prettyFields level rest)

end

def compact (value : Json) : String := String.ofList (compactText value)

def pretty (value : Json) : String := String.ofList (prettyText 0 value)

/-- The text that a value without parts stands for: a string itself, a number or truth value as written. -/
def scalarText? : Json → Option String
  | string s => some s
  | number n => some n.text
  | bool b => some (if b then "true" else "false")
  | _ => none

end Json
end ProductGraph
