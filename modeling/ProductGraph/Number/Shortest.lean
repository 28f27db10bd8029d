import ProductGraph.Number.Binary64

/-!
# The shortest decimal of a double

A double is written with the fewest significant digits that read back as the same double, and among those with
the ones nearest to it.  The decimals that read back form an interval around the double: half a gap on either
side, less below a power of two, its ends included if the last bit of the double is zero.  On the grid of each
number of digits only the two neighbours of the double can be the nearest point in the interval.
-/

namespace ProductGraph

/-- A positive decimal: its significant digits, and the power of ten of the first of them. -/
structure Decimal where
  digits : List Char
  exponent : Int
  deriving DecidableEq

namespace Binary64

/-- The interval of decimals that read back as a double, in quarters of a unit. -/
structure ReadBack where
  low : Nat
  high : Nat
  closed : Bool

namespace ReadBack

/-- The interval around a size of at least one unit. -/
def ofSize (units : Nat) : ReadBack :=
  let bits := gapBits units
  let half := 2 * Nat.pow 2 bits
  let below := if units = Nat.pow 2 (bits + 52) ∧ bits ≠ 0 then half / 2 else half
  ⟨4 * units - below, 4 * units + half, units / Nat.pow 2 bits % 2 = 0⟩

/-- Whether a quotient of quarter units lies in the interval. -/
def holds (i : ReadBack) (numerator denominator : Nat) : Bool :=
  if i.closed then
    i.low * denominator ≤ numerator && numerator ≤ i.high * denominator
  else
    i.low * denominator < numerator && numerator < i.high * denominator

end ReadBack

/-- The power of ten of the leading digit of a size, searched from an estimate by its bits. -/
def leadingPower (units : Nat) : Int :=
  let estimate : Int := ((units.log2 : Int) - 1074) * 30103 / 100000 - 1
  let atLeast (p : Int) : Bool :=
    match p with
    | .ofNat e => Nat.pow 10 e * one ≤ units
    | .negSucc e => one ≤ units * Nat.pow 10 (e + 1)
  if atLeast (estimate + 2) then estimate + 2
  else if atLeast (estimate + 1) then estimate + 1
  else estimate

/-- The point `count * 10 ^ power` of a grid as a quotient of quarter units. -/
def gridPoint (count : Nat) (power : Int) : Nat × Nat :=
  match power with
  | .ofNat e => (4 * count * Nat.pow 10 e * one, 1)
  | .negSucc e => (4 * count * one, Nat.pow 10 (e + 1))

/-- The point nearest to a size among the two grid neighbours that read back as it; a tie goes to the even
count. -/
def onGrid? (units : Nat) (power : Int) : Option Nat :=
  let interval := ReadBack.ofSize units
  let (numerator, denominator) :=
    match power with
    | .ofNat e => (units, Nat.pow 10 e * one)
    | .negSucc e => (units * Nat.pow 10 (e + 1), one)
  let floor := numerator / denominator
  let lower := gridPoint floor power
  let upper := gridPoint (floor + 1) power
  match interval.holds lower.1 lower.2, interval.holds upper.1 upper.2 with
  | true, true => some (nearest numerator denominator)
  | true, false => some floor
  | false, true => some (floor + 1)
  | false, false => none

/-- The first grid, of those still to be tried, that has a point reading back as a size. -/
def shortestFrom (units : Nat) (leading : Int) (digits : Nat) : Nat → Nat × Int
  | 0 => (units, leading - digits + 1)
  | tries + 1 =>
    let power := leading - digits + 1
    match onGrid? units power with
    | some count => (count, power)
    | none => shortestFrom units leading (digits + 1) tries

/-- Digits without trailing zeros, of which the caller knows that not all are zero. -/
def significant (count : Nat) : List Char :=
  ((Nat.toDigits 10 count).reverse.dropWhile (· == '0')).reverse

def shortest (units : Nat) : Decimal :=
  let (count, power) := shortestFrom units (leadingPower units) 1 17
  ⟨significant count, power + (Nat.toDigits 10 count).length - 1⟩

end Binary64

end ProductGraph
