/-!
# Double-precision numbers

A finite double is a whole number of units, the unit being the least positive double, `2 ^ -1074`.  On that
scale every double is a natural number with a sign, rounding is a division of natural numbers, and no question
about a double needs arithmetic with fractions.

`round` is the only place where precision is lost: it takes an exact quotient to the nearest double, a tie to
the one whose last bit is zero.  All arithmetic below rounds an exact result once.
-/

namespace ProductGraph

/-- A finite double: its sign, kept even for zero, and its size in units of `2 ^ -1074`. -/
structure Binary64 where
  negative : Bool
  units : Nat
  deriving DecidableEq

namespace Binary64

/-- The units in the number one. -/
def one : Nat := Nat.pow 2 1074

theorem one_pos : 0 < one := by decide +kernel

/-- The units that no double reaches: `2 ^ 1024`. -/
def limit : Nat := Nat.pow 2 2098

/-- The gap between neighbouring doubles at a size: one unit until 53 bits no longer hold it. -/
def gapBits (units : Nat) : Nat := units.log2 - 52

/-- A quotient to the nearest whole number, a tie to the even one. -/
def nearest (numerator denominator : Nat) : Nat :=
  let floor := numerator / denominator
  let twice := 2 * (numerator % denominator)
  if twice < denominator then floor
  else if denominator < twice then floor + 1
  else if floor % 2 = 0 then floor else floor + 1

/-- The size of the double nearest to a quotient of units, or nothing if it is beyond every double. -/
def round? (numerator denominator : Nat) : Option Nat :=
  let bits := gapBits (numerator / denominator)
  let size := nearest numerator (denominator * Nat.pow 2 bits) * Nat.pow 2 bits
  if size < limit then some size else none

def zero (negative : Bool) : Binary64 := ⟨negative, 0⟩

/-- The size of the double nearest to a natural number, if there is one. -/
def sizeOfNat? (n : Nat) : Option Nat := round? (n * one) 1

/-- The product of two sizes, if it is not beyond every double. -/
def mulSize? (a b : Nat) : Option Nat := round? (a * b) one

/-- The quotient of two sizes, the second not zero. -/
def divSize? (a b : Nat) : Option Nat := round? (a * one) b

/-- The size of the double nearest to `digits * 10 ^ exponent`, or nothing if it is beyond every double.  The
bounds on the exponent spare the powers that could not matter. -/
def sizeOfDecimal? (digits : Nat) (exponent : Int) : Option Nat :=
  if digits = 0 then some 0
  else
    let magnitude := exponent + (Nat.toDigits 10 digits).length
    if 330 < magnitude then none
    else if magnitude < -330 then some 0
    else
      match exponent with
      | .ofNat e => round? (digits * Nat.pow 10 e * one) 1
      | .negSucc e => round? (digits * one) (Nat.pow 10 (e + 1))

/-- The number as a whole number of units. -/
def toUnits (x : Binary64) : Int := if x.negative then -(x.units : Int) else x.units

def isWhole (x : Binary64) : Bool := x.units % one == 0

/-- Whether one number is below another; the two zeros are equal. -/
def lt (x y : Binary64) : Bool := x.toUnits < y.toUnits

end Binary64

end ProductGraph
