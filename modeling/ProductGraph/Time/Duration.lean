import ProductGraph.Unicode.Digit

/-!
# Durations

A duration is a sign, `P`, and counts of years, months and days, then after a `T` of hours, minutes and seconds,
each at most once and in this order, the seconds with a fraction.  At least one count is there, and at least one
after a `T`.  The digits may be those of any script.
-/

namespace ProductGraph
namespace Time

open Unicode (isDigit)

/-- What follows a count with its unit, if the text starts with one. -/
def count? (unit : Char) (cs : List Char) : Option (List Char) :=
  if (cs.takeWhile isDigit).isEmpty then none
  else
    match cs.dropWhile isDigit with
    | c :: rest => if c = unit then some rest else none
    | [] => none

/-- What follows a count of seconds, if the text starts with one. -/
def seconds? (cs : List Char) : Option (List Char) :=
  if (cs.takeWhile isDigit).isEmpty then none
  else
    match cs.dropWhile isDigit with
    | '.' :: fraction => count? 'S' fraction
    | 'S' :: rest => some rest
    | _ => none

/-- What follows a part that may be left out. -/
def skip (part : List Char → Option (List Char)) (cs : List Char) : List Char := (part cs).getD cs

def skipDays (cs : List Char) : List Char := skip (count? 'D') (skip (count? 'M') (skip (count? 'Y') cs))

def skipClock (cs : List Char) : List Char := skip seconds? (skip (count? 'M') (skip (count? 'H') cs))

/-- Whether a text is a duration. -/
def isDuration (cs : List Char) : Bool :=
  let unsigned := match cs with | '-' :: rest => rest | _ => cs
  match unsigned with
  | 'P' :: body =>
    match skipDays body with
    | [] => !body.isEmpty
    | 'T' :: clock => !clock.isEmpty && (skipClock clock).isEmpty
    | _ => false
  | _ => false

end Time
end ProductGraph
