import ProductGraph.Json.Basic
import ProductGraph.Number.Literal

/-!
# Reading structured values

A text is one value between blanks.  The grammar is the common one, with these choices: a text that goes on
after the value is refused, a control character in a string is refused, half of a surrogate pair is refused,
the last of several fields with one name wins, and values nest at most `maxDepth` deep.

Numbers are read in two stages.  Digits are taken into a 64-bit significand until one no longer fits; a literal
without point and exponent whose significand fits is an integer.  Every other number is the significand as a
double, multiplied or divided by a power of ten that is itself a double.  The product is rounded once more, so
a literal with many digits may end one gap away from the nearest double.
-/

namespace ProductGraph
namespace Json

open Unicode (isAsciiDigit)

/-- Arrays and objects may be nested so deep. -/
def maxDepth : Nat := 127

/-- The blanks between the parts of a value. -/
def isGap (c : Char) : Bool := c == ' ' || c == '\n' || c == '\t' || c == '\r'

/-- What follows the blanks at the front of a text. -/
def skipGaps (cs : List Char) : List Char := cs.dropWhile isGap

/-! ## Numbers -/

/-- The numbers below which a significand stays. -/
def significandLimit : Nat := Nat.pow 2 64

/-- Take digits into a significand while they fit.  What is left starts with the first digit that did not. -/
def takeDigits (significand : Nat) : List Char → Nat × List Char
  | [] => (significand, [])
  | c :: rest =>
    if isAsciiDigit c && 10 * significand + digitValue c < significandLimit then
      takeDigits (10 * significand + digitValue c) rest
    else (significand, c :: rest)

/-- The largest power of ten that is a double. -/
def powerLimit : Nat := 308

def powerSize? (power : Nat) : Option Nat := Binary64.sizeOfNat? (Nat.pow 10 power)

/-- Divide a size so many times by the largest power of ten. -/
def lowered? (size : Nat) : Nat → Option Nat
  | 0 => some size
  | steps + 1 =>
    if size = 0 then some 0
    else ((powerSize? powerLimit).bind (Binary64.divSize? size)).bind (lowered? · steps)

/-- Divide a size by a power of ten, in steps that doubles hold. -/
def divideByPower? (size power : Nat) : Option Nat :=
  let steps := (power - 1) / powerLimit
  (lowered? size steps).bind fun rest =>
    (powerSize? (power - powerLimit * steps)).bind (Binary64.divSize? rest)

/-- The size of `significand * 10 ^ exponent`; nothing if it is beyond every double. -/
def scaled? (significand : Nat) (exponent : Int) : Option Nat :=
  (Binary64.sizeOfNat? significand).bind fun size =>
    match exponent with
    | .ofNat e =>
      if e ≤ powerLimit then (powerSize? e).bind (Binary64.mulSize? size)
      else if size = 0 then some 0
      else none
    | .negSucc e => divideByPower? size (e + 1)

/-- The largest exponent whose digits are read. -/
def exponentLimit : Nat := Nat.pow 2 31

/-- The real number with a significand and a power of ten, followed by an exponent if there is one. -/
def readExponent (negative : Bool) (significand : Nat) (power : Int) (cs : List Char) :
    Option (Numeral × List Char) :=
  let finish (exponent : Int) (rest : List Char) : Option (Numeral × List Char) :=
    (scaled? significand exponent).map fun units => (.real ⟨negative, units⟩, rest)
  match cs with
  | [] => finish power []
  | marker :: after =>
    if marker == 'e' || marker == 'E' then
      let (down, rest) := splitSign after
      let digits := rest.takeWhile isAsciiDigit
      let tail := rest.dropWhile isAsciiDigit
      if digits.isEmpty then none
      else
        let size := digitsValue digits
        if size < exponentLimit then finish (if down then power - size else power + size) tail
        else if significand != 0 && !down then none
        else some (.real (.zero negative), tail)
    else finish power cs

/-- The real number that goes on with a fraction after its point. -/
def readFraction (negative : Bool) (significand : Nat) (power : Int) (cs : List Char) :
    Option (Numeral × List Char) :=
  match cs with
  | [] => none
  | c :: _ =>
    if isAsciiDigit c then
      let (grown, rest) := takeDigits significand cs
      readExponent negative grown (power - (cs.length - rest.length : Nat)) (rest.dropWhile isAsciiDigit)
    else none

/-- A whole literal without point or exponent. -/
def wholeNumeral (negative : Bool) (significand : Nat) : Option Numeral :=
  if !negative then some (.integer significand)
  else if significand = 0 || Nat.pow 2 63 < significand then
    (Binary64.sizeOfNat? significand).map fun units => .real ⟨true, units⟩
  else some (.integer (-(significand : Int)))

/-- The number with its digits before the point read into a significand, of which `dropped` did not fit. -/
def readAfterWhole (negative : Bool) (significand dropped : Nat) (cs : List Char) :
    Option (Numeral × List Char) :=
  match cs with
  | '.' :: after => readFraction negative significand dropped after
  | c :: _ =>
    if dropped = 0 && c != 'e' && c != 'E' then
      (wholeNumeral negative significand).map fun n => (n, cs)
    else readExponent negative significand dropped cs
  | [] =>
    if dropped = 0 then (wholeNumeral negative significand).map fun n => (n, [])
    else readExponent negative significand dropped []

/-- A number without its sign.  A zero before the point stands alone. -/
def readUnsigned (negative : Bool) (cs : List Char) : Option (Numeral × List Char) :=
  match cs with
  | [] => none
  | '0' :: rest =>
    match rest with
    | c :: _ => if isAsciiDigit c then none else readAfterWhole negative 0 0 rest
    | [] => readAfterWhole negative 0 0 []
  | c :: _ =>
    if isAsciiDigit c then
      let (significand, rest) := takeDigits 0 cs
      let tail := rest.dropWhile isAsciiDigit
      readAfterWhole negative significand (rest.length - tail.length) tail
    else none

/-- A number at the front of a text. -/
def readNumber : List Char → Option (Numeral × List Char)
  | '-' :: rest => readUnsigned true rest
  | cs => readUnsigned false cs

/-! ## Strings -/

def hexValue? (c : Char) : Option Nat :=
  if isAsciiDigit c then some (digitValue c)
  else if 'a' ≤ c ∧ c ≤ 'f' then some (c.toNat - 87)
  else if 'A' ≤ c ∧ c ≤ 'F' then some (c.toNat - 55)
  else none

/-- The code unit that four hexadecimal digits give. -/
def unit? (a b c d : Char) : Option Nat := do
  let a ← hexValue? a
  let b ← hexValue? b
  let c ← hexValue? c
  let d ← hexValue? d
  return ((a * 16 + b) * 16 + c) * 16 + d

/-- The character that follows a backslash stands for. -/
def escaped? : Char → Option Char
  | '"' => some '"'
  | '\\' => some '\\'
  | '/' => some '/'
  | 'b' => some '\x08'
  | 'f' => some '\x0c'
  | 'n' => some '\n'
  | 'r' => some '\r'
  | 't' => some '\t'
  | _ => none

def isHighHalf (unit : Nat) : Bool := 0xD800 ≤ unit && unit < 0xDC00

def isLowHalf (unit : Nat) : Bool := 0xDC00 ≤ unit && unit < 0xE000

/-- The rest of a string after its opening quote, and what follows its closing quote. -/
def readString : List Char → Option (List Char × List Char)
  | [] => none
  | '"' :: rest => some ([], rest)
  | '\\' :: rest =>
    match rest with
    | 'u' :: a :: b :: c :: d :: after =>
      match unit? a b c d with
      | none => none
      | some high =>
        if isLowHalf high then none
        else if isHighHalf high then
          match after with
          | '\\' :: 'u' :: e :: f :: g :: h :: beyond =>
            match unit? e f g h with
            | none => none
            | some low =>
              if isLowHalf low then
                (readString beyond).map fun (s, tail) =>
                  (Char.ofNat (0x10000 + (high - 0xD800) * 0x400 + (low - 0xDC00)) :: s, tail)
              else none
          | _ => none
        else (readString after).map fun (s, tail) => (Char.ofNat high :: s, tail)
    | e :: after =>
      match escaped? e with
      | none => none
      | some c => (readString after).map fun (s, tail) => (c :: s, tail)
    | [] => none
  | c :: rest =>
    if c < ' ' then none else (readString rest).map fun (s, tail) => (c :: s, tail)

/-- What follows a word at the front of a text. -/
def afterWord? : List Char → List Char → Option (List Char)
  | [], cs => some cs
  | _ :: _, [] => none
  | w :: ws, c :: cs => if w = c then afterWord? ws cs else none

/-! ## Values

The first argument bounds the steps: every step reads at least one character, so a bound above the length of
the text is never reached.  The second is the depth that is left. -/

mutual

/-- A value at the front of a text that does not start with a blank. -/
def readValue (steps depth : Nat) (cs : List Char) : Option (Json × List Char) :=
  match steps with
  | 0 => none
  | steps + 1 =>
    match cs with
    | [] => none
    | '"' :: rest => (readString rest).map fun (s, tail) => (string (String.ofList s), tail)
    | '[' :: rest =>
      match depth with
      | 0 => none
      | depth + 1 =>
        match skipGaps rest with
        | ']' :: tail => some (array [], tail)
        | inner => (readItems steps depth inner).map fun (items, tail) => (array items, tail)
    | '\x7b' :: rest =>
      match depth with
      | 0 => none
      | depth + 1 =>
        match skipGaps rest with
        | '\x7d' :: tail => some (object [], tail)
        | inner => (readFields steps depth inner).map fun (pairs, tail) => (ofFields pairs, tail)
    | 'n' :: rest => (afterWord? ['u', 'l', 'l'] rest).map fun tail => (null, tail)
    | 't' :: rest => (afterWord? ['r', 'u', 'e'] rest).map fun tail => (bool true, tail)
    | 'f' :: rest => (afterWord? ['a', 'l', 's', 'e'] rest).map fun tail => (bool false, tail)
    | _ => (readNumber cs).map fun (n, tail) => (number n, tail)

/-- The items of an array from one of them on, and what follows its bracket. -/
def readItems (steps depth : Nat) (cs : List Char) : Option (List Json × List Char) :=
  match steps with
  | 0 => none
  | steps + 1 =>
    match readValue steps depth (skipGaps cs) with
    | none => none
    | some (item, rest) =>
      match skipGaps rest with
      | ']' :: tail => some ([item], tail)
      | ',' :: more => (readItems steps depth more).map fun (items, tail) => (item :: items, tail)
      | _ => none

/-- The fields of an object from one of them on, as written, and what follows its brace. -/
def readFields (steps depth : Nat) (cs : List Char) : Option (List (String × Json) × List Char) :=
  match steps with
  | 0 => none
  | steps + 1 =>
    match skipGaps cs with
    | '"' :: named =>
      match readString named with
      | none => none
      | some (name, afterName) =>
        match skipGaps afterName with
        | ':' :: afterColon =>
          match readValue steps depth (skipGaps afterColon) with
          | none => none
          | some (value, rest) =>
            match skipGaps rest with
            | '\x7d' :: tail => some ([(String.ofList name, value)], tail)
            | ',' :: more =>
              (readFields steps depth more).map fun (pairs, tail) =>
                ((String.ofList name, value) :: pairs, tail)
            | _ => none
        | _ => none
    | _ => none

end

/-- The value that a text is, if it is one. -/
def ofText? (s : String) : Option Json :=
  let cs := s.toList
  match readValue (cs.length + 1) maxDepth (skipGaps cs) with
  | some (value, rest) => if (skipGaps rest).isEmpty then some value else none
  | none => none

end Json
end ProductGraph
