/-!
# Values by name

The fields of an object and the namespaces of a document are values by name.  They are kept sorted by name, so
what holds the same values under the same names is the same, and every walk visits the names in one order,
whatever order they were written in.
-/

namespace ProductGraph

/-- Values by name, sorted by name. -/
abbrev Keyed (α : Type) := List (String × α)

namespace Keyed

variable {α : Type}

def get? : Keyed α → String → Option α
  | [], _ => none
  | (key, value) :: rest, name => if key = name then some value else get? rest name

/-- Whether there is a value under a name. -/
def has (entries : Keyed α) (name : String) : Bool := (entries.get? name).isSome

/-- Put a value in its place, instead of any value under its name. -/
def insert : Keyed α → String → α → Keyed α
  | [], name, value => [(name, value)]
  | (key, old) :: rest, name, value =>
    if name < key then (name, value) :: (key, old) :: rest
    else if name = key then (name, value) :: rest
    else (key, old) :: insert rest name value

/-- The values without the one under a name. -/
def erase (entries : Keyed α) (name : String) : Keyed α := entries.filter (fun e => e.1 != name)

/-- Put values in their places, the last under a name winning. -/
def insertAll (entries : Keyed α) (added : List (String × α)) : Keyed α :=
  added.foldl (fun acc e => acc.insert e.1 e.2) entries

/-- The values that a list of pairs gives, the last under a name winning. -/
def ofList (pairs : List (String × α)) : Keyed α := insertAll [] pairs

def names (entries : Keyed α) : List String := entries.map (·.1)

/-- Every name is below the ones after it. -/
def Sorted (entries : Keyed α) : Prop := (names entries).Pairwise (· < ·)

@[simp] theorem get?_nil (name : String) : get? ([] : Keyed α) name = none := rfl

/-- An inserted value is found again. -/
theorem get?_insert_self (entries : Keyed α) (name : String) (value : α) :
    (entries.insert name value).get? name = some value := by
  induction entries with
  | nil => simp [insert, get?]
  | cons e rest ih =>
    by_cases below : name < e.1
    · simp [insert, get?, below]
    · by_cases same : name = e.1
      · simp [insert, get?, same]
      · simp [insert, get?, below, same, Ne.symm same, ih]

/-- Inserting a value leaves the others as they are. -/
theorem get?_insert_ne (entries : Keyed α) {name other : String} (value : α) (ne : other ≠ name) :
    (entries.insert name value).get? other = entries.get? other := by
  induction entries with
  | nil => simp [insert, get?, Ne.symm ne]
  | cons e rest ih =>
    by_cases below : name < e.1
    · simp [insert, get?, below, Ne.symm ne]
    · by_cases same : name = e.1
      · subst same
        simp [insert, get?, Ne.symm ne]
      · simp [insert, get?, below, same, ih]

end Keyed

end ProductGraph
