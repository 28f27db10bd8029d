import ProductGraph.Number.Binary64
import ProductGraph.Unicode.Digit

/-!
# Numbers in text

Values of properties and facets are numbers written as text.  A whole number is an optional sign and digits; a
real number adds a fraction and an exponent, and may also be an infinity or not a number at all.  Only ASCII
digits count, nothing surrounds them, and a real number is read to the nearest double.
-/

namespace ProductGraph

open Unicode (isAsciiDigit)

def digitValue (c : Char) : Nat := c.toNat - '0'.toNat

def digitsValue (cs : List Char) : Nat := cs.foldl (fun n c => 10 * n + digitValue c) 0

/-- A run of digits as a number; nothing if it is empty or holds anything else. -/
def natural? (cs : List Char) : Option Nat :=
  if !cs.isEmpty && cs.all isAsciiDigit then some (digitsValue cs) else none

/-- A natural number below a limit, with a plus sign before it or not. -/
def unsigned? (limit : Nat) (cs : List Char) : Option Nat :=
  let digits := match cs with | '+' :: rest => rest | _ => cs
  match natural? digits with
  | some n => if n < limit then some n else none
  | none => none

/-- Whether a text is a whole number that a given number of bits hold, its sign being one of them. -/
def isSigned (bits : Nat) (cs : List Char) : Bool :=
  match cs with
  | '-' :: rest => (natural? rest).any (fun n => n ≤ Nat.pow 2 (bits - 1))
  | '+' :: rest => (natural? rest).any (fun n => n < Nat.pow 2 (bits - 1))
  | _ => (natural? cs).any (fun n => n < Nat.pow 2 (bits - 1))

/-- What a text that is a real number stands for. -/
inductive RealValue where
  | finite (x : Binary64)
  | infinite (negative : Bool)
  | notANumber
  deriving DecidableEq

namespace RealValue

/-- Whether a value is below a finite number.  What is not a number is below nothing. -/
def below (v : RealValue) (y : Binary64) : Bool :=
  match v with
  | finite x => x.lt y
  | infinite negative => negative
  | notANumber => false

/-- Whether a value is above a finite number.  What is not a number is above nothing. -/
def above (v : RealValue) (y : Binary64) : Bool :=
  match v with
  | finite x => y.lt x
  | infinite negative => !negative
  | notANumber => false

end RealValue

/-- The sign at the front of a text, and what follows it. -/
def splitSign : List Char → Bool × List Char
  | '-' :: rest => (true, rest)
  | '+' :: rest => (false, rest)
  | cs => (false, cs)

/-- The exponent that a text consists of: empty, or a marker, an optional sign and digits. -/
def exponent? : List Char → Option Int
  | [] => some 0
  | marker :: rest =>
    if marker == 'e' || marker == 'E' then
      let (negative, digits) := splitSign rest
      (natural? digits).map (fun n => if negative then -(n : Int) else n)
    else none

/-- The digits and the power of ten of an unsigned decimal with at least one digit before or after its point. -/
def decimal? (cs : List Char) : Option (Nat × Int) :=
  let whole := cs.takeWhile isAsciiDigit
  let rest := cs.dropWhile isAsciiDigit
  let fraction := match rest with | '.' :: after => after.takeWhile isAsciiDigit | _ => []
  let tail := match rest with | '.' :: after => after.dropWhile isAsciiDigit | _ => rest
  if whole.isEmpty && fraction.isEmpty then none
  else (exponent? tail).map (fun e => (digitsValue (whole ++ fraction), e - fraction.length))

/-- An ASCII letter in lower case; any other character as it is. -/
def lowerLetter (c : Char) : Char := if 'A' ≤ c ∧ c ≤ 'Z' then Char.ofNat (c.toNat + 32) else c

def RealValue.ofText? (cs : List Char) : Option RealValue :=
  let (negative, body) := splitSign cs
  match decimal? body with
  | some (digits, exponent) =>
    match Binary64.sizeOfDecimal? digits exponent with
    | some units => some (.finite ⟨negative, units⟩)
    | none => some (.infinite negative)
  | none =>
    let word := String.ofList (body.map lowerLetter)
    if word == "inf" || word == "infinity" then some (.infinite negative)
    else if word == "nan" then some .notANumber
    else none

end ProductGraph
