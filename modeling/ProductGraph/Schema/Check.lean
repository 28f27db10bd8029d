import ProductGraph.Json.Printer
import ProductGraph.Schema.Basic
import ProductGraph.Text.Words

/-!
# Checking values against schemas

A check lists every fault with the place where it was found, in the order of the rules; where a rule speaks
about the parts of a value, in the order of the parts.  The first argument of the recursive functions bounds the
steps, for references may lead in circles; the budget computed from schema and value is never used up by a
schema whose references all lead further into the value.
-/

namespace ProductGraph
namespace Json

mutual

/-- Whether two values are equal when numbers count by their value alone. -/
def equivalent : Json → Json → Bool
  | null, null => true
  | bool a, bool b => a == b
  | number a, number b => a.toUnits == b.toUnits
  | string a, string b => a == b
  | array a, array b => equivalentItems a b
  | object a, object b => equivalentFields a b
  | _, _ => false

def equivalentItems : List Json → List Json → Bool
  | [], [] => true
  | a :: as, b :: bs => equivalent a b && equivalentItems as bs
  | _, _ => false

def equivalentFields : List (String × Json) → List (String × Json) → Bool
  | [], [] => true
  | (k, a) :: as, (l, b) :: bs => k == l && equivalent a b && equivalentFields as bs
  | _, _ => false

end

/-- Whether no two of some values are equal. -/
def allDistinct : List Json → Bool
  | [] => true
  | item :: rest => !rest.any (equivalent item) && allDistinct rest

end Json

/-- A fault of a value: the place, as a pointer into the value, and what is wrong there. -/
structure Fault where
  place : String
  message : String
  deriving DecidableEq

namespace Fault

/-- How a character of a name is written in a pointer. -/
def pointerChar (c : Char) : List Char :=
  if c = '~' then ['~', '0'] else if c = '/' then ['~', '1'] else [c]

def below (place name : String) : String :=
  place ++ "/" ++ String.ofList (name.toList.flatMap pointerChar)

def diagnostics (faults : List Fault) : String :=
  Text.join "; " (faults.map fun f => f.place ++ ": " ++ f.message)

/-- A count with the noun it belongs to. -/
def counted (n : Nat) (one many : String) : String := toString n ++ " " ++ if n = 1 then one else many

def unexpected (names : List String) : String :=
  "Additional properties are not allowed (" ++ Text.join ", " (names.map fun n => "'" ++ n ++ "'") ++
    (if names.length = 1 then " was unexpected)" else " were unexpected)")

def wrongType (value : Json) (allowed : List JsonType) : String :=
  match allowed with
  | [t] => value.compact ++ " is not of type \"" ++ t.name ++ "\""
  | _ => value.compact ++ " is not of types " ++
      Text.join ", " ((JsonType.all.filter allowed.contains).map fun t => "\"" ++ t.name ++ "\"")

end Fault

namespace NumberBound

def allows (b : NumberBound) (limit n : Numeral) : Bool :=
  match b with
  | atLeast => limit.toUnits ≤ n.toUnits
  | atMost => n.toUnits ≤ limit.toUnits
  | above => limit.toUnits < n.toUnits
  | below => n.toUnits < limit.toUnits

def phrase : NumberBound → String
  | atLeast => " is less than the minimum of "
  | atMost => " is greater than the maximum of "
  | above => " is less than or equal to the minimum of "
  | below => " is greater than or equal to the maximum of "

end NumberBound

namespace Countable

/-- How many there are in a value, if it can have any. -/
def count? (what : Countable) (value : Json) : Option Nat :=
  match what, value with
  | characters, .string s => some s.length
  | items, .array list => some list.length
  | properties, .object fields => some fields.length
  | _, _ => none

def tooFew : Countable → Nat → String
  | characters, n => " is shorter than " ++ Fault.counted n "character" "characters"
  | items, n => " has less than " ++ Fault.counted n "item" "items"
  | properties, n => " has less than " ++ Fault.counted n "property" "properties"

def tooMany : Countable → Nat → String
  | characters, n => " is longer than " ++ Fault.counted n "character" "characters"
  | items, n => " has more than " ++ Fault.counted n "item" "items"
  | properties, n => " has more than " ++ Fault.counted n "property" "properties"

end Countable

namespace Schema

def named? (named : List (String × Schema)) (name : String) : Option Schema :=
  (named.find? fun p => p.1 == name).map (·.2)

def matching (patterns : List (Pattern × Schema)) (name : String) : List Schema :=
  (patterns.filter fun p => p.1.matchesText name).map (·.2)

def numbered (start : Nat) : List Json → List (Nat × Json)
  | [] => []
  | item :: rest => (start, item) :: numbered (start + 1) rest

def faultUnless (holds : Bool) (place message : String) : List Fault :=
  if holds then [] else [⟨place, message⟩]

/-- The faults of a value under a schema. -/
def faults (table : SchemaTable) : Nat → Schema → String → Json → List Fault
  | 0, _, _, _ => []
  | steps + 1, schema, place, value =>
    let faults := faults table steps
    let accepts (s : Schema) (v : Json) : Bool := (faults s place v).isEmpty
    match schema with
    | anything => []
    | nothing => [⟨place, "False schema does not allow " ++ value.compact⟩]
    | all parts => parts.flatMap fun s => faults s place value
    | reference target =>
      match table.find? (fun entry => entry.1 == target) with
      | some entry => faults entry.2 place value
      | none => []
    | types allowed => faultUnless (allowed.any (·.has value)) place (Fault.wrongType value allowed)
    | const expected => faultUnless (value.equivalent expected) place (expected.compact ++ " was expected")
    | enumeration values =>
      faultUnless (values.any value.equivalent) place
        (value.compact ++ " is not one of " ++ (Json.array values).compact)
    | required names =>
      match value with
      | .object fields =>
        (names.filter fun n => !Keyed.has fields n).map fun n =>
          ⟨place, (Json.string n).compact ++ " is a required property"⟩
      | _ => []
    | properties named =>
      match value with
      | .object fields =>
        named.flatMap fun (name, s) =>
          match Keyed.get? fields name with
          | some v => faults s (Fault.below place name) v
          | none => []
      | _ => []
    | patternProperties named =>
      match value with
      | .object fields =>
        named.flatMap fun (p, s) =>
          fields.flatMap fun (name, v) =>
            if p.matchesText name then faults s (Fault.below place name) v else []
      | _ => []
    | noProperties =>
      match value with
      | .object ((_, v) :: _) => [⟨place, "False schema does not allow " ++ v.compact⟩]
      | _ => []
    | closedProperties named patterns =>
      match value with
      | .object fields =>
        let found := fields.flatMap fun (name, v) =>
          ((named? named name).toList ++ matching patterns name).flatMap fun s =>
            faults s (Fault.below place name) v
        let foreign := (Keyed.names fields).filter fun name =>
          (named? named name).isNone && (matching patterns name).isEmpty
        if foreign.isEmpty then found else found ++ [⟨place, Fault.unexpected foreign⟩]
      | _ => []
    | otherProperties named patterns others =>
      match value with
      | .object fields =>
        fields.flatMap fun (name, v) =>
          let known := (named? named name).toList ++ matching patterns name
          (if known.isEmpty then [others] else known).flatMap fun s => faults s (Fault.below place name) v
      | _ => []
    | propertyNames each =>
      match value with
      | .object fields => fields.flatMap fun (name, _) => faults each place (.string name)
      | _ => []
    | dependentRequired names =>
      match value with
      | .object fields =>
        names.flatMap fun (name, needed) =>
          if Keyed.has fields name then
            (needed.filter fun n => !Keyed.has fields n).map fun n =>
              ⟨place, (Json.string n).compact ++ " is a required property"⟩
          else []
      | _ => []
    | items skipped each =>
      match value with
      | .array list =>
        (numbered skipped (list.drop skipped)).flatMap fun (i, v) =>
          faults each (Fault.below place (toString i)) v
      | _ => []
    | leadingItems each =>
      match value with
      | .array list =>
        (each.zip (numbered 0 list)).flatMap fun (s, i, v) => faults s (Fault.below place (toString i)) v
      | _ => []
    | contains wanted =>
      match value with
      | .array list =>
        faultUnless (list.any (accepts wanted)) place
          ("None of " ++ value.compact ++ " are valid under the given schema")
      | _ => []
    | uniqueItems =>
      match value with
      | .array list => faultUnless (Json.allDistinct list) place (value.compact ++ " has non-unique elements")
      | _ => []
    | bound b limit =>
      match value with
      | .number n => faultUnless (b.allows limit n) place (value.compact ++ b.phrase ++ limit.text)
      | _ => []
    | multipleOf step =>
      match value with
      | .number n =>
        faultUnless (n.toUnits % step.toUnits == 0) place (value.compact ++ " is not a multiple of " ++ step.text)
      | _ => []
    | atLeast what limit =>
      match what.count? value with
      | some n => faultUnless (limit ≤ n) place (value.compact ++ what.tooFew limit)
      | none => []
    | atMost what limit =>
      match what.count? value with
      | some n => faultUnless (n ≤ limit) place (value.compact ++ what.tooMany limit)
      | none => []
    | pattern text p =>
      match value with
      | .string s => faultUnless (p.matchesText s) place (value.compact ++ " does not match \"" ++ text ++ "\"")
      | _ => []
    | anyOf options =>
      faultUnless (options.any (accepts · value)) place
        (value.compact ++ " is not valid under any of the schemas listed in the 'anyOf' keyword")
    | oneOf options =>
      match options.filter (accepts · value) with
      | [] => [⟨place, value.compact ++ " is not valid under any of the schemas listed in the 'oneOf' keyword"⟩]
      | [_] => []
      | _ =>
        [⟨place, value.compact ++ " is valid under more than one of the schemas listed in the 'oneOf' keyword"⟩]
    | not document refused =>
      faultUnless (!accepts refused value) place (document.compact ++ " is not allowed for " ++ value.compact)
    | conditional condition yes no => if accepts condition value then faults yes place value else faults no place value

end Schema

end ProductGraph
