import ProductGraph.Json.Basic

/-!
# Walks over structured values

A walk goes through a whole value from the leaves up and changes it.  It says what becomes of a value without parts
and of the fields of an object, whose values have been changed already; arrays only pass it on to their items.
-/

namespace ProductGraph

/-- A change of structured values, from the leaves up. -/
structure Walk where
  scalar : Json → Json
  object : Fields → Json

namespace Walk

mutual

def run (w : Walk) : Json → Json
  | .array list => .array (runItems w list)
  | .object fields => w.object (runFields w fields)
  | .null => w.scalar .null
  | .bool b => w.scalar (.bool b)
  | .number n => w.scalar (.number n)
  | .string s => w.scalar (.string s)

def runItems (w : Walk) : List Json → List Json
  | [] => []
  | value :: rest => run w value :: runItems w rest

def runFields (w : Walk) : List (String × Json) → List (String × Json)
  | [] => []
  | (name, value) :: rest => (name, run w value) :: runFields w rest

end

end Walk

end ProductGraph
