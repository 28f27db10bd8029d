import ProductGraph.Number.Shortest

/-!
# Layouts of decimals

The shortest digits of a double are laid out in two ways.  Documents use `json`: positional from `10 ^ -5` to
`10 ^ 16` with at least one place after the point, and an exponent with its sign outside.  Messages use
`plain`: always positional, and no point where there is no fraction.
-/

namespace ProductGraph

namespace Decimal

def zeros (n : Nat) : List Char := List.replicate n '0'

/-- The digits before and after the point in positional notation. -/
def positional (d : Decimal) : List Char × List Char :=
  match d.exponent with
  | .ofNat e => (d.digits.take (e + 1) ++ zeros (e + 1 - d.digits.length), d.digits.drop (e + 1))
  | .negSucc e => (['0'], zeros e ++ d.digits)

/-- The decimal with an exponent: one digit before the point, the sign of the exponent always shown. -/
def scientific (d : Decimal) : List Char :=
  let mantissa :=
    match d.digits with
    | first :: rest => if rest.isEmpty then [first] else first :: '.' :: rest
    | [] => []
  let exponent :=
    match d.exponent with
    | .ofNat e => '+' :: Nat.toDigits 10 e
    | .negSucc e => '-' :: Nat.toDigits 10 (e + 1)
  mantissa ++ 'e' :: exponent

end Decimal

namespace Binary64

/-- The text of a size in documents. -/
def jsonSize (units : Nat) : List Char :=
  if units = 0 then ['0', '.', '0']
  else
    let d := shortest units
    if -5 ≤ d.exponent ∧ d.exponent ≤ 15 then
      let (whole, fraction) := d.positional
      whole ++ '.' :: (if fraction.isEmpty then ['0'] else fraction)
    else d.scientific

/-- The text of a size in messages. -/
def plainSize (units : Nat) : List Char :=
  if units = 0 then ['0']
  else
    let (whole, fraction) := (shortest units).positional
    if fraction.isEmpty then whole else whole ++ '.' :: fraction

/-- The sign before the text of a size. -/
def signed (x : Binary64) (size : List Char) : String :=
  String.ofList (if x.negative then '-' :: size else size)

/-- The text of a number in documents. -/
def json (x : Binary64) : String := x.signed (jsonSize x.units)

/-- The text of a number in messages. -/
def plain (x : Binary64) : String := x.signed (plainSize x.units)

end Binary64

end ProductGraph
