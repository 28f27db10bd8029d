import ProductGraph.Keyed
import ProductGraph.Number.Layout

/-!
# Structured values

Documents, items before validation and schemas are trees of structured values.  The fields of an object are
kept sorted by name, so two objects with the same fields are the same value, and every walk over an object
visits its fields in the same order whatever order a document wrote them in.

A whole number that a machine word holds is an integer; every other number is real.  The two never meet: `1`
and `1.0` are different values, although a schema may accept either.
-/

namespace ProductGraph

/-- A number of a structured value. -/
inductive Numeral where
  | integer (value : Int)
  | real (value : Binary64)
  deriving DecidableEq

namespace Numeral

/-- The value of a number in the units of doubles, exact for both sorts. -/
def toUnits : Numeral → Int
  | integer n => n * Binary64.one
  | real x => x.toUnits

def isWhole : Numeral → Bool
  | integer _ => true
  | real x => x.isWhole

def text : Numeral → String
  | integer n => toString n
  | real x => x.json

/-- The natural number that a numeral is, if it is written as one. -/
def natural? : Numeral → Option Nat
  | integer (.ofNat n) => some n
  | _ => none

end Numeral

/-- A structured value. -/
inductive Json where
  | null
  | bool (value : Bool)
  | number (value : Numeral)
  | string (value : String)
  | array (items : List Json)
  | object (fields : List (String × Json))

/-- The fields of an object, sorted by name. -/
abbrev Fields := Keyed Json

namespace Json

/-- The object with the given fields, the last of a name winning. -/
def ofFields (pairs : List (String × Json)) : Json := object (Keyed.ofList pairs)

def nat (n : Nat) : Json := number (.integer n)

/-- Whether the value is absent in all but name. -/
def isNull : Json → Bool
  | null => true
  | _ => false

def text? : Json → Option String
  | string s => some s
  | _ => none

def items? : Json → Option (List Json)
  | array items => some items
  | _ => none

def fields? : Json → Option Fields
  | object fields => some fields
  | _ => none

/-- The field of an object with a name; nothing for any other value. -/
def field? (value : Json) (name : String) : Option Json :=
  match value with
  | object fields => Keyed.get? fields name
  | _ => none

def textField? (value : Json) (name : String) : Option String := (value.field? name).bind text?

mutual

def same : Json → Json → Bool
  | null, null => true
  | bool a, bool b => a == b
  | number a, number b => a == b
  | string a, string b => a == b
  | array a, array b => sameItems a b
  | object a, object b => sameFields a b
  | _, _ => false

def sameItems : List Json → List Json → Bool
  | [], [] => true
  | a :: as, b :: bs => same a b && sameItems as bs
  | _, _ => false

def sameFields : List (String × Json) → List (String × Json) → Bool
  | [], [] => true
  | (k, a) :: as, (l, b) :: bs => k == l && same a b && sameFields as bs
  | _, _ => false

end

instance : BEq Json := ⟨same⟩

mutual

/-- How deep arrays and objects are nested in a value. -/
def depth : Json → Nat
  | array items => depthOfItems items + 1
  | object fields => depthOfFields fields + 1
  | _ => 0

def depthOfItems : List Json → Nat
  | [] => 0
  | item :: rest => max (depth item) (depthOfItems rest)

def depthOfFields : List (String × Json) → Nat
  | [] => 0
  | (_, value) :: rest => max (depth value) (depthOfFields rest)

end

mutual

/-- The number of values in a value, itself included. -/
def nodes : Json → Nat
  | array items => nodesOfItems items + 1
  | object fields => nodesOfFields fields + 1
  | _ => 1

def nodesOfItems : List Json → Nat
  | [] => 0
  | item :: rest => nodes item + nodesOfItems rest

/-- The number of values in the values of some fields. -/
def nodesOfFields : List (String × Json) → Nat
  | [] => 0
  | (_, value) :: rest => nodes value + nodesOfFields rest

end

instance : Inhabited Json := ⟨null⟩

end Json

end ProductGraph
