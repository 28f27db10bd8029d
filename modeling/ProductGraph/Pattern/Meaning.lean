import ProductGraph.Pattern.Property
import ProductGraph.Pattern.Reader
import ProductGraph.Pattern.Size
import ProductGraph.Unicode.Digit

/-!
# The meaning of pattern expressions

An expression becomes a pattern under the flags in force where it stands; the flags it leaves are those in force
behind it.  With the Unicode flag off, sets are sets of bytes, and an expression is refused if such a set would
hold a byte that is no character: every negated set does, and so does the dot.
-/

namespace ProductGraph

/-- The flags in force at a place of a pattern. -/
structure PatternFlags where
  caseless : Bool
  manyLines : Bool
  dotAll : Bool
  unicode : Bool
  returns : Bool
  deriving DecidableEq

namespace PatternFlags

def initial : PatternFlags := ⟨false, false, false, true, false⟩

/-- The flags with one of them set or taken back.  Greed and spacing do not change what is matched. -/
def set (flags : PatternFlags) (setting : PatternFlag × Bool) : PatternFlags :=
  match setting.1 with
  | .caseless => { flags with caseless := setting.2 }
  | .manyLines => { flags with manyLines := setting.2 }
  | .dotAll => { flags with dotAll := setting.2 }
  | .unicode => { flags with unicode := setting.2 }
  | .returns => { flags with returns := setting.2 }
  | .swapGreed | .spaced => flags

def apply (flags : PatternFlags) (settings : FlagSettings) : PatternFlags := settings.foldl set flags

def words (flags : PatternFlags) : WordClass := if flags.unicode then .unicode else .ascii

/-- A set with both cases if case does not count. -/
def fold (flags : PatternFlags) (set : CharSet) : CharSet :=
  if flags.caseless then if flags.unicode then set.foldCase else set.foldAsciiCase else set

/-- A set folded and then, if asked, negated.  Bytes allow no negation. -/
def foldNegate? (flags : PatternFlags) (negated : Bool) (set : CharSet) : Option CharSet :=
  let folded := flags.fold set
  if negated then if flags.unicode then some folded.complement else none else some folded

def look (flags : PatternFlags) : Assertion → Look
  | .lineStart => if flags.manyLines then if flags.returns then .returnLineStart else .lineStart else .textStart
  | .lineEnd => if flags.manyLines then if flags.returns then .returnLineEnd else .lineEnd else .textEnd
  | .textStart => .textStart
  | .textEnd => .textEnd
  | .boundary => .boundary flags.words
  | .noBoundary => .noBoundary flags.words
  | .wordStart => .wordStart flags.words
  | .wordEnd => .wordEnd flags.words
  | .beforeWord => .beforeWord flags.words
  | .afterWord => .afterWord flags.words

def dot? (flags : PatternFlags) : Option CharSet :=
  if !flags.unicode then none
  else if flags.dotAll then some [(0, CharSet.last)]
  else if flags.returns then some (CharSet.complement [(0xA, 0xA), (0xD, 0xD)])
  else some (CharSet.complement [(0xA, 0xA)])

def isLoneByte (flags : PatternFlags) (l : Literal) : Bool :=
  !flags.unicode && l.asByte && 0x80 ≤ l.char.toNat

/-- A literal as a set.  Without Unicode only ASCII letters have another case. -/
def literal? (flags : PatternFlags) (l : Literal) : Option CharSet :=
  if flags.isLoneByte l then none
  else if !flags.unicode && 0x80 ≤ l.char.toNat then some (.single l.char)
  else some (flags.fold (.single l.char))

def setPoint? (flags : PatternFlags) (l : Literal) : Option Nat :=
  if !flags.unicode && 0x80 ≤ l.char.toNat then none else some l.char.toNat

/-- A short class, before negation. -/
def shortSet (flags : PatternFlags) (cls : ShortClass) : CharSet :=
  match cls, flags.unicode with
  | .digit, true => Unicode.digitRanges
  | .space, true => Unicode.blankRanges
  | .word, true => Unicode.wordRanges
  | .digit, false => [(0x30, 0x39)]
  | .space, false => [(0x9, 0xD), (0x20, 0x20)]
  | .word, false => [(0x30, 0x39), (0x41, 0x5A), (0x5F, 0x5F), (0x61, 0x7A)]

def short? (flags : PatternFlags) (cls : ShortClass) (negated : Bool) : Option CharSet :=
  let set := flags.shortSet cls
  if negated then if flags.unicode then some set.complement else none else some set

/-- A property; without Unicode there are none. -/
def property? (flags : PatternFlags) (query : PropertyQuery) (negated : Bool) : Option CharSet :=
  if flags.unicode then query.charSet?.bind (flags.foldNegate? negated) else none

end PatternFlags

namespace AsciiClass

def charSet : AsciiClass → CharSet
  | alnum => [(0x30, 0x39), (0x41, 0x5A), (0x61, 0x7A)]
  | alpha => [(0x41, 0x5A), (0x61, 0x7A)]
  | ascii => [(0, 0x7F)]
  | blank => [(0x9, 0x9), (0x20, 0x20)]
  | cntrl => [(0, 0x1F), (0x7F, 0x7F)]
  | digit => [(0x30, 0x39)]
  | graph => [(0x21, 0x7E)]
  | lower => [(0x61, 0x7A)]
  | print => [(0x20, 0x7E)]
  | punct => [(0x21, 0x2F), (0x3A, 0x40), (0x5B, 0x60), (0x7B, 0x7E)]
  | space => [(0x9, 0xD), (0x20, 0x20)]
  | upper => [(0x41, 0x5A)]
  | word => [(0x30, 0x39), (0x41, 0x5A), (0x5F, 0x5F), (0x61, 0x7A)]
  | xdigit => [(0x30, 0x39), (0x41, 0x46), (0x61, 0x66)]

end AsciiClass

namespace SetExpression

mutual

/-- The characters that a part of a bracket stands for.  Case is folded before a negation and before two sets
are combined; a lone part is left to the bracket around it. -/
def charSet? (flags : PatternFlags) : SetExpression → Option CharSet
  | nothing => some []
  | literal l => (flags.setPoint? l).map fun p => [(p, p)]
  | range low high => do
    let a ← flags.setPoint? low
    let b ← flags.setPoint? high
    return [(a, b)]
  | ascii cls negated => flags.foldNegate? negated cls.charSet
  | short cls negated => flags.short? cls negated
  | property query negated => flags.property? query negated
  | bracket negated inside => (charSet? flags inside).bind (flags.foldNegate? negated)
  | union parts => charSetOfAll? flags parts
  | combined operation left right => do
    let left ← charSet? flags left
    let right ← charSet? flags right
    let left := flags.fold left
    let right := flags.fold right
    return match operation with
      | .inter => left.inter right
      | .diff => left.diff right
      | .symmDiff => left.symmDiff right

/-- The characters of parts that stand side by side. -/
def charSetOfAll? (flags : PatternFlags) : List SetExpression → Option CharSet
  | [] => some []
  | part :: rest => do
    let set ← charSet? flags part
    let others ← charSetOfAll? flags rest
    return set.union others

end

end SetExpression

namespace Expression

mutual

/-- The pattern that an expression is under some flags, and the flags in force behind it. -/
def meaning? (flags : PatternFlags) : Expression → Option (Pattern × PatternFlags)
  | nothing => some (.empty, flags)
  | literal l => (flags.literal? l).map fun set => (.chars set, flags)
  | dot => flags.dot?.map fun set => (.chars set, flags)
  | assertion a => some (.look (flags.look a), flags)
  | short cls negated => (flags.short? cls negated).map fun set => (.chars set, flags)
  | property query negated => (flags.property? query negated).map fun set => (.chars set, flags)
  | bracket negated inside =>
    ((inside.charSet? flags).bind (flags.foldNegate? negated)).map fun set => (.chars set, flags)
  | settings given => some (.empty, flags.apply given)
  | group given captures inside =>
    (meaning? (flags.apply given) inside).map fun (p, _) => (if captures then .group p else p, flags)
  | repeated least most inside =>
    (meaning? flags inside).map fun (p, after) => (.ofRepetition least most p, after)
  | sequence parts => sequence? flags parts
  | choice options => choice? flags options

/-- Expressions that follow each other, each under the flags that the one before it left. -/
def sequence? (flags : PatternFlags) : List Expression → Option (Pattern × PatternFlags)
  | [] => some (.empty, flags)
  | [part] => meaning? flags part
  | part :: rest =>
    match meaning? flags part with
    | none => none
    | some (p, behind) => (sequence? behind rest).map fun (q, after) => (.sequence p q, after)

/-- Expressions to choose from, each under the flags that the one before it left. -/
def choice? (flags : PatternFlags) : List Expression → Option (Pattern × PatternFlags)
  | [] => some (.empty, flags)
  | [option] => meaning? flags option
  | option :: rest =>
    match meaning? flags option with
    | none => none
    | some (p, behind) => (choice? behind rest).map fun (q, after) => (.ofChoice p q, after)

end

end Expression

namespace Pattern

/-- The pattern that a text is read to: it is an expression, and it has a meaning. -/
def read? (s : String) : Option Pattern := ((Expression.ofText? s).bind (Expression.meaning? .initial)).map (·.1)

/-- The limit as it is estimated: both automata have the room that they take. -/
instance estimatedLimit : PatternLimit where
  fits s := (read? s).all fun p => p.automatonSize false ≤ sizeLimit && p.automatonSize true ≤ sizeLimit

/-- The pattern that a text is: it is read to it and keeps within the limit. -/
def ofText? [PatternLimit] (s : String) : Option Pattern := if PatternLimit.fits s then read? s else none

/-- Whether a text is a pattern. -/
def isPattern [PatternLimit] (s : String) : Bool := (ofText? s).isSome

/-- The text of the pattern that matches what another matches in full. -/
def wholeText (pattern : String) : String := "^(?:" ++ pattern ++ ")$"

/-- Whether a text escapes a pattern that is to match it in full.  The pattern is read between anchors; where
that gives no pattern nothing escapes it. -/
def rejects [PatternLimit] (pattern text : String) : Bool :=
  match ofText? (wholeText pattern) with
  | some p => !p.matchesText text
  | none => false

end Pattern

end ProductGraph
