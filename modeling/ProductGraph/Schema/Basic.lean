import ProductGraph.Json.Basic
import ProductGraph.Pattern.Meaning

/-!
# Schemas

A schema says which structured values are allowed.  It is a tree of rules, each of which speaks about one sort
of value and is silent about all others, so several rules that hold together are again a rule.  References to
other parts of the same document stay references; a table resolves them.
-/

namespace ProductGraph

/-- The sorts of values that a schema can tell apart. -/
inductive JsonType where
  | array
  | boolean
  | integer
  | null
  | number
  | object
  | string
  deriving DecidableEq

namespace JsonType

/-- Every sort, in the order in which messages list them. -/
def all : List JsonType := [.array, .boolean, .integer, .null, .number, .object, .string]

def name : JsonType → String
  | array => "array"
  | boolean => "boolean"
  | integer => "integer"
  | null => "null"
  | number => "number"
  | object => "object"
  | string => "string"

def ofName? (s : String) : Option JsonType := all.find? (fun t => t.name == s)

/-- Whether a value is of a sort.  A real number without fraction counts as an integer. -/
def has (t : JsonType) (value : Json) : Bool :=
  match t, value with
  | array, .array _ => true
  | boolean, .bool _ => true
  | integer, .number n => n.isWhole
  | null, .null => true
  | number, .number _ => true
  | object, .object _ => true
  | string, .string _ => true
  | _, _ => false

end JsonType

/-- What is counted in a value. -/
inductive Countable where
  | characters
  | items
  | properties
  deriving DecidableEq

/-- How a number is bounded. -/
inductive NumberBound where
  | atLeast
  | atMost
  | above
  | below
  deriving DecidableEq

/-- A schema. -/
inductive Schema where
  | anything
  | nothing
  | all (parts : List Schema)
  | reference (target : String)
  | types (allowed : List JsonType)
  | const (value : Json)
  | enumeration (values : List Json)
  | required (names : List String)
  | properties (named : List (String × Schema))
  | patternProperties (named : List (Pattern × Schema))
  | noProperties
  | closedProperties (named : List (String × Schema)) (patterns : List (Pattern × Schema))
  | otherProperties (named : List (String × Schema)) (patterns : List (Pattern × Schema)) (others : Schema)
  | propertyNames (each : Schema)
  | dependentRequired (names : List (String × List String))
  | items (skipped : Nat) (each : Schema)
  | leadingItems (each : List Schema)
  | contains (wanted : Schema)
  | uniqueItems
  | bound (bound : NumberBound) (limit : Numeral)
  | multipleOf (step : Numeral)
  | atLeast (what : Countable) (limit : Nat)
  | atMost (what : Countable) (limit : Nat)
  | pattern (text : String) (pattern : Pattern)
  | anyOf (options : List Schema)
  | oneOf (options : List Schema)
  | not (document : Json) (refused : Schema)
  | conditional (condition : Schema) (yes no : Schema)

/-- The parts of a document that references lead to, by their targets. -/
abbrev SchemaTable := List (String × Schema)

end ProductGraph
