import ProductGraph.Pattern.Basic

/-!
# The room that a pattern takes

Patterns are bounded by the room that is there for their automata over the bytes of a text.  How much an automaton
takes is not for a reader of patterns to say: which texts keep within the limit is a parameter, and what is said
about patterns holds for any limit.

The room computed here is an estimate to run with.  Two automata are built, one for each direction, and each has to
fit.  A counted repetition takes the room of its inside so many times; that makes short patterns very large.  A set
outside ASCII takes a state for each byte range in the tree of its encoded ranges, where ranges with the same leading
bytes share them.
-/

namespace ProductGraph

/-- Inclusive ranges of the bytes of an encoded character, the leading byte first. -/
abbrev ByteRanges := List (Nat × Nat)

namespace CharSet

def encoded (point : Nat) : List Nat :=
  if point < 0x80 then [point]
  else if point < 0x800 then [0xC0 + point / 0x40, 0x80 + point % 0x40]
  else if point < 0x10000 then
    [0xE0 + point / 0x1000, 0x80 + point / 0x40 % 0x40, 0x80 + point % 0x40]
  else
    [0xF0 + point / 0x40000, 0x80 + point / 0x1000 % 0x40, 0x80 + point / 0x40 % 0x40, 0x80 + point % 0x40]

/-- Cut a range where the number of bytes changes and at the code points that encode nothing. -/
def byLength (low high : Nat) : List (Nat × Nat) :=
  [(0, 0x7F), (0x80, 0x7FF), (0x800, 0xD7FF), (0xE000, 0xFFFF), (0x10000, 0x10FFFF)].filterMap fun band =>
    let first := max low band.1
    let last := min high band.2
    if first ≤ last then some (first, last) else none

/-- Cut a range so that all bytes after the first that differs run over all their values.  `tail` counts the
code points that the bytes from some place on tell apart. -/
def aligned (tails : List Nat) (low high : Nat) : List (Nat × Nat) :=
  match tails with
  | [] => [(low, high)]
  | tail :: larger =>
    if low / tail = high / tail then [(low, high)]
    else
      let front := if low % tail = 0 then [] else [(low, (low / tail + 1) * tail - 1)]
      let back := if high % tail = tail - 1 then [] else [(high / tail * tail, high)]
      let first := if low % tail = 0 then low else (low / tail + 1) * tail
      let last := if high % tail = tail - 1 then high else high / tail * tail - 1
      front ++ (if first ≤ last then aligned larger first last else []) ++ back

/-- The byte ranges that encode a set, in order.  A range of single bytes is one as it stands. -/
def byteRanges (set : CharSet) : List ByteRanges :=
  set.flatMap fun r =>
    (byLength r.1 r.2).flatMap fun band =>
      let pieces := if band.2 < 0x80 then [band] else aligned [0x40, 0x1000, 0x40000] band.1 band.2
      pieces.map fun piece => (encoded piece.1).zip (encoded piece.2)

/-- How many leading byte ranges two encodings share. -/
def shared : ByteRanges → ByteRanges → Nat
  | a :: as, b :: bs => if a = b then shared as bs + 1 else 0
  | _, _ => 0

/-- The byte ranges in the tree of encodings, each counted once where it is shared with the encoding before. -/
def treeSize (previous : ByteRanges) : List ByteRanges → Nat
  | [] => 0
  | encoding :: rest => encoding.length - shared previous encoding + treeSize encoding rest

end CharSet

namespace Pattern

def stateSize : Nat := 32

/-- The room of one of several ways on from a state. -/
def branchSize : Nat := 4

def charsSize (set : CharSet) : Nat :=
  if set.isSingle then stateSize * ((set.head?.map fun r => (CharSet.encoded r.1).length).getD 0)
  else if set.isAscii then 2 * stateSize + 2 * branchSize * set.length
  else
    let encodings := set.byteRanges
    (2 + CharSet.treeSize [] encodings) * stateSize + branchSize * encodings.length

/-- The room of a pattern.  A choice of several options counts as choices of two, which is more than they need. -/
def size (captures : Bool) : Pattern → Nat
  | empty => stateSize
  | chars set => charsSize set
  | look _ => stateSize
  | group inside => (if captures then 2 * stateSize else 0) + size captures inside
  | sequence first second => size captures first + size captures second
  | choice first second => 2 * (stateSize + branchSize) + size captures first + size captures second
  | repeated least most inside =>
    match most with
    | none => max least 1 * size captures inside + stateSize + 2 * branchSize
    | some most =>
      most * size captures inside + (most - least) * (stateSize + 2 * branchSize) +
        (if least = most then 0 else stateSize) + (if least = 0 ∧ 1 < most then stateSize else 0)

/-- Whether a match has to start at the start of the text or, read backward, at its end. -/
def isAnchored (backward : Bool) : Pattern → Bool
  | look condition => condition == if backward then .textEnd else .textStart
  | group inside => isAnchored backward inside
  | sequence first second =>
    if backward then isAnchored backward second || (second.isStill && isAnchored backward first)
    else isAnchored backward first || (first.isStill && isAnchored backward second)
  | choice first second => isAnchored backward first && isAnchored backward second
  | repeated least _ inside => decide (0 < least) && isAnchored backward inside
  | empty | chars _ => false

/-- The room of the automaton for one direction: what skips the text before a match, the pattern, and a match.  The
forward one marks the groups, and the whole as one of them. -/
def automatonSize (backward : Bool) (p : Pattern) : Nat :=
  (if p.isAnchored backward then stateSize else 3 * stateSize + 4 * branchSize) +
    (if backward then 0 else 2 * stateSize) + p.size (!backward) + stateSize

/-- The room that an automaton may take. -/
def sizeLimit : Nat := 10 * Nat.pow 2 20

end Pattern

/-- The limit on what becomes of a pattern: which texts keep within it. -/
class PatternLimit where
  fits : String → Bool

end ProductGraph
