import ProductGraph.Number.Literal
import ProductGraph.Time.Calendar
import ProductGraph.Unicode.Blank

/-!
# Timestamps

A timestamp with a zone has a fixed grammar: four digits of year, two of everything else, a fraction of the
second and an offset.  Its canonical form has no, three, six or nine digits of fraction, the fewest that hold
it, and `Z` for no offset; local time and offset stay as they are.

Dates and local times without a zone are read more leniently: white space may stand before each number, leading
zeros may be left out, and a year with a sign may have any number of digits.
-/

namespace ProductGraph
namespace Time

open Unicode (isAsciiDigit isBlank)

/-- A point in time as a clock with a zone shows it; `offset` is in minutes east. -/
structure Timestamp where
  year : Nat
  month : Nat
  day : Nat
  hour : Nat
  minute : Nat
  second : Nat
  nanosecond : Nat
  offset : Int
  deriving DecidableEq

/-- A number of exactly so many digits at the front of a text. -/
def exactly? (count : Nat) (cs : List Char) : Option (Nat × List Char) :=
  let digits := cs.take count
  if digits.length = count ∧ digits.all isAsciiDigit then some (digitsValue digits, cs.drop count) else none

/-- What follows a character at the front of a text. -/
def after? (c : Char) : List Char → Option (List Char)
  | d :: rest => if d = c then some rest else none
  | [] => none

/-- The nanoseconds of the fraction at the front of a text, digits beyond the ninth being dropped.  Without a
point there is no fraction; a point needs a digit after it. -/
def fraction? : List Char → Option (Nat × List Char)
  | '.' :: rest =>
    let digits := rest.takeWhile isAsciiDigit
    let kept := digits.take 9
    if digits.isEmpty then none
    else some (digitsValue kept * Nat.pow 10 (9 - kept.length), rest.dropWhile isAsciiDigit)
  | cs => some (0, cs)

/-- The offset that a text consists of, in minutes east. -/
def offset? : List Char → Option Int
  | ['Z'] | ['z'] => some 0
  | sign :: rest => do
    let negative ← if sign = '+' then some false else if sign = '-' ∨ sign = '\u2212' then some true else none
    let (hours, rest) ← exactly? 2 rest
    let rest ← after? ':' rest
    let (minutes, rest) ← exactly? 2 rest
    if rest.isEmpty ∧ minutes < 60 ∧ hours < 24 then
      let size : Int := hours * 60 + minutes
      return if negative then -size else size
    else none
  | [] => none

def Timestamp.ofText? (cs : List Char) : Option Timestamp := do
  let (year, cs) ← exactly? 4 cs
  let cs ← after? '-' cs
  let (month, cs) ← exactly? 2 cs
  let cs ← after? '-' cs
  let (day, cs) ← exactly? 2 cs
  let cs ← (after? 'T' cs).or ((after? 't' cs).or (after? ' ' cs))
  let (hour, cs) ← exactly? 2 cs
  let cs ← after? ':' cs
  let (minute, cs) ← exactly? 2 cs
  let cs ← after? ':' cs
  let (second, cs) ← exactly? 2 cs
  let (nanosecond, cs) ← fraction? cs
  let offset ← offset? cs
  if isDate year month day && isTimeOfDay hour minute second then
    return ⟨year, month, day, hour, minute, second, nanosecond, offset⟩
  else none

/-- A number with leading zeros up to a width. -/
def padded (width n : Nat) : List Char :=
  let digits := Nat.toDigits 10 n
  List.replicate (width - digits.length) '0' ++ digits

/-- The shortest of no, three, six or nine digits that hold a fraction, with its point. -/
def fractionText (nanosecond : Nat) : List Char :=
  if nanosecond = 0 then []
  else if nanosecond % 1000000 = 0 then '.' :: padded 3 (nanosecond / 1000000)
  else if nanosecond % 1000 = 0 then '.' :: padded 6 (nanosecond / 1000)
  else '.' :: padded 9 nanosecond

def offsetText (offset : Int) : List Char :=
  if offset = 0 then ['Z']
  else
    (if offset < 0 then '-' else '+') ::
      (padded 2 (offset.natAbs / 60) ++ ':' :: padded 2 (offset.natAbs % 60))

def Timestamp.text (t : Timestamp) : List Char :=
  padded 4 t.year ++ '-' :: (padded 2 t.month ++ '-' :: (padded 2 t.day ++ 'T' ::
    (padded 2 t.hour ++ ':' :: (padded 2 t.minute ++ ':' :: (padded 2 t.second ++
      (fractionText t.nanosecond ++ offsetText t.offset))))))

/-- A timestamp with a zone in its canonical form; any other text as it is. -/
def canonical (s : String) : String :=
  match Timestamp.ofText? s.toList with
  | some t => String.ofList t.text
  | none => s

/-! ## Dates and times without a zone -/

/-- A number of one to `width` digits, white space before it. -/
def loose? (width : Nat) (cs : List Char) : Option (Nat × List Char) :=
  let start := cs.dropWhile isBlank
  let digits := (start.take width).takeWhile isAsciiDigit
  if digits.isEmpty then none else some (digitsValue digits, start.drop digits.length)

/-- A year: one to four digits, or a sign and any number of them. -/
def looseYear? (cs : List Char) : Option (Int × List Char) :=
  match cs.dropWhile isBlank with
  | '-' :: rest => signedYear rest true
  | '+' :: rest => signedYear rest false
  | start => (loose? 4 start).map fun (n, tail) => ((n : Int), tail)
where
  /-- The digits after the sign of a year. -/
  signedYear (rest : List Char) (negative : Bool) : Option (Int × List Char) :=
    let digits := rest.takeWhile isAsciiDigit
    if digits.isEmpty then none
    else
      let size : Int := digitsValue digits
      some (if negative then -size else size, rest.dropWhile isAsciiDigit)

/-- The date at the front of a text. -/
def looseDate? (cs : List Char) : Option (List Char) := do
  let (year, cs) ← looseYear? cs
  let cs ← after? '-' cs
  let (month, cs) ← loose? 2 cs
  let cs ← after? '-' cs
  let (day, cs) ← loose? 2 cs
  if isDate year month day then return cs else none

def isDateText (cs : List Char) : Bool := looseDate? cs == some []

/-- The time of day at the front of a text, with its fraction. -/
def looseTime? (cs : List Char) : Option (List Char) := do
  let (hour, cs) ← loose? 2 cs
  let cs ← after? ':' cs
  let (minute, cs) ← loose? 2 cs
  let cs ← after? ':' cs
  let (second, cs) ← loose? 2 cs
  let (_, cs) ← fraction? cs
  if isTimeOfDay hour minute second then return cs else none

/-- Whether a text is a date and a time of day without a zone. -/
def isLocalText (cs : List Char) : Bool :=
  (looseDate? cs).bind (fun rest => (after? 'T' rest).bind looseTime?) == some []

/-- Whether a text is a date and a time of day, with a zone or without. -/
def isDateTimeText (cs : List Char) : Bool := (Timestamp.ofText? cs).isSome || isLocalText cs

/-- Whether a text is a point in time or a date. -/
def isTimestamp (s : String) : Bool := isDateTimeText s.toList || isDateText s.toList

end Time
end ProductGraph
