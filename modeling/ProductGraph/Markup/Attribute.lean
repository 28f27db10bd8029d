import ProductGraph.Markup.Event

/-!
# Attributes

An attribute is a name, an equals sign and a value between quotes, blanks around the sign allowed.  The name ends
at the sign or a blank and may hold any other character; the value may hold everything but its quote.  Nothing
has to stand between one attribute and the next, but no name may be used twice.
-/

namespace ProductGraph
namespace Markup

/-- One attribute at the front of a text, its value as written, and what follows. -/
def rawAttribute? (cs : List Char) : Option (List Char × List Char × List Char) :=
  match cs with
  | [] => none
  | first :: more =>
    let stops (c : Char) : Bool := c == '=' || isGap c
    let name := first :: more.takeWhile (!stops ·)
    match (more.dropWhile (!stops ·)).dropWhile isGap with
    | '=' :: after =>
      match after.dropWhile isGap with
      | quote :: value =>
        if (quote = '"' ∨ quote = '\'') ∧ value.contains quote then
          let (inside, rest) := splitAt quote value
          some (name, inside, rest)
        else none
      | [] => none
    | _ => none

/-- The attributes of a tag, or nothing if one is malformed.  `seen` holds the names before. -/
def attributesFrom : Nat → (seen : List String) → List Char → Option (List (String × String))
  | 0, _, _ => none
  | steps + 1, seen, cs =>
    let cs := cs.dropWhile isGap
    if cs.isEmpty then some []
    else
      match rawAttribute? cs with
      | none => none
      | some (name, value, rest) =>
        let name := String.ofList name
        if seen.contains name then none
        else
          (resolve? value).bind fun value =>
            (attributesFrom steps (name :: seen) rest).map ((name, String.ofList value) :: ·)

/-- The attributes of a tag, or nothing if one is malformed. -/
def attributes? (cs : List Char) : Option (List (String × String)) := attributesFrom (cs.length + 1) [] cs

end Markup
end ProductGraph
