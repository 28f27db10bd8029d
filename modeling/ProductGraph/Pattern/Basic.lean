import ProductGraph.Pattern.CharSet
import ProductGraph.Unicode.Word

/-!
# Patterns and what they match

A pattern is matched from a cursor, a place in a text that knows the character before it.  From one cursor a
pattern may reach several; all that is asked of it is which.  So the meaning of a pattern takes a set of cursors
to the set of those that it reaches from any of them.  It is given by one recursion on the pattern, and repetition
goes on while it reaches new cursors: a pattern that repeats nothing repeats it once.  There is no search that
could run away.

Sets of cursors are lists in the order of the places, each place once.
-/

namespace ProductGraph

/-- A place in a text: the number of characters before it, the last of them, and those after it. -/
structure Cursor where
  index : Nat
  previous : Option Char
  rest : List Char

namespace Cursor

/-- The places of a text from a cursor on. -/
def onward (index : Nat) (previous : Option Char) : List Char → List Cursor
  | [] => [⟨index, previous, []⟩]
  | c :: rest => ⟨index, previous, c :: rest⟩ :: onward (index + 1) (some c) rest

/-- The place after the next character, if that character is in a set. -/
def next? (set : CharSet) (cursor : Cursor) : Option Cursor :=
  match cursor.rest with
  | [] => none
  | c :: rest => if set.has c then some ⟨cursor.index + 1, some c, rest⟩ else none

def union : List Cursor → List Cursor → List Cursor
  | [], ds => ds
  | cs, [] => cs
  | c :: cs, d :: ds =>
    if c.index < d.index then c :: union cs (d :: ds)
    else if d.index < c.index then d :: union (c :: cs) ds
    else c :: union cs ds
termination_by cs ds => cs.length + ds.length

def diff : List Cursor → List Cursor → List Cursor
  | [], _ => []
  | cs, [] => cs
  | c :: cs, d :: ds =>
    if c.index < d.index then c :: diff cs (d :: ds)
    else if d.index < c.index then diff (c :: cs) ds
    else diff cs ds
termination_by cs ds => cs.length + ds.length

/-- The greatest number of characters that follow one of some cursors; they follow the first one. -/
def longest (cursors : List Cursor) : Nat := (cursors.head?.map (·.rest.length)).getD 0

end Cursor

/-- Which characters count as parts of words. -/
inductive WordClass where
  | unicode
  | ascii
  deriving DecidableEq

namespace WordClass

/-- Whether a character is part of a word. -/
def has (w : WordClass) (c : Char) : Bool :=
  match w with
  | unicode => Unicode.isWord c
  | ascii =>
    (('a' ≤ c && c ≤ 'z') || ('A' ≤ c && c ≤ 'Z')) || (('0' ≤ c && c ≤ '9') || c == '_')

end WordClass

/-- A condition on a place that consumes nothing. -/
inductive Look where
  | textStart
  | textEnd
  | lineStart
  | lineEnd
  | returnLineStart
  | returnLineEnd
  | boundary (words : WordClass)
  | noBoundary (words : WordClass)
  | wordStart (words : WordClass)
  | wordEnd (words : WordClass)
  | beforeWord (words : WordClass)
  | afterWord (words : WordClass)
  deriving DecidableEq

namespace Look

/-- Whether a place meets a condition.  Lines end with a line feed; in the two variants for returns they end
with a return, a line feed, or both, and the place between the two is neither end nor start. -/
def holds (look : Look) (cursor : Cursor) : Bool :=
  let next := cursor.rest.head?
  let isWord (w : WordClass) (c : Option Char) : Bool := c.any w.has
  match look with
  | textStart => cursor.previous.isNone
  | textEnd => next.isNone
  | lineStart => cursor.previous.isNone || cursor.previous == some '\n'
  | lineEnd => next.isNone || next == some '\n'
  | returnLineStart =>
    cursor.previous.isNone || cursor.previous == some '\n' || (cursor.previous == some '\r' && next != some '\n')
  | returnLineEnd =>
    next.isNone || next == some '\r' || (next == some '\n' && cursor.previous != some '\r')
  | boundary w => isWord w cursor.previous != isWord w next
  | noBoundary w => isWord w cursor.previous == isWord w next
  | wordStart w => !isWord w cursor.previous && isWord w next
  | wordEnd w => isWord w cursor.previous && !isWord w next
  | beforeWord w => !isWord w cursor.previous
  | afterWord w => !isWord w next

end Look

/-- A pattern.  A group matches what its inside matches; it is kept because it takes room. -/
inductive Pattern where
  | empty
  | chars (set : CharSet)
  | look (condition : Look)
  | group (inside : Pattern)
  | sequence (first second : Pattern)
  | choice (first second : Pattern)
  | repeated (least : Nat) (most : Option Nat) (inside : Pattern)

namespace Pattern

def afterExactly (step : List Cursor → List Cursor) : Nat → List Cursor → List Cursor
  | 0, cursors => cursors
  | n + 1, cursors => if cursors.isEmpty then [] else afterExactly step n (step cursors)

/-- What up to so many steps reach, beyond what is known already; `edge` is where the last step arrived. -/
def afterUpTo (step : List Cursor → List Cursor) : Nat → (edge known : List Cursor) → List Cursor
  | 0, _, known => known
  | n + 1, edge, known =>
    let found := Cursor.diff (step edge) known
    if found.isEmpty then known else afterUpTo step n found (Cursor.union known found)

/-- The cursors that a pattern reaches from some cursors.  Without an upper bound a repetition takes at most as
many steps as there are characters left, since a step that reaches nothing new ends it. -/
def reach : Pattern → List Cursor → List Cursor
  | empty, cursors => cursors
  | chars set, cursors => cursors.filterMap (Cursor.next? set)
  | look condition, cursors => cursors.filter condition.holds
  | group inside, cursors => reach inside cursors
  | sequence first second, cursors => reach second (reach first cursors)
  | choice first second, cursors => Cursor.union (reach first cursors) (reach second cursors)
  | repeated least most inside, cursors =>
    let needed := afterExactly (reach inside) least cursors
    match most with
    | some most => afterUpTo (reach inside) (most - least) needed needed
    | none => afterUpTo (reach inside) (Cursor.longest needed + 1) needed needed

/-- Whether a pattern matches anywhere in a text. -/
def matchesText (p : Pattern) (s : String) : Bool := !(p.reach (Cursor.onward 0 none s.toList)).isEmpty

/-! ## Patterns built with their simplifications -/

/-- Whether a pattern can reach no other place than the one it starts from. -/
def isStill : Pattern → Bool
  | empty | look _ => true
  | chars _ => false
  | group inside => isStill inside
  | sequence first second => isStill first && isStill second
  | choice first second => isStill first && isStill second
  | repeated _ most inside => most == some 0 || isStill inside

/-- A repetition.  What goes nowhere is repeated once at most, what is repeated not at all is empty, and what is
repeated exactly once stands for itself. -/
def ofRepetition (least : Nat) (most : Option Nat) (inside : Pattern) : Pattern :=
  let still := inside.isStill
  let least := if still then min least 1 else least
  let most := if still then some (min (most.getD 1) 1) else most
  if least = 0 ∧ most = some 0 then empty
  else if least = 1 ∧ most = some 1 then inside
  else repeated least most inside

/-- A choice; two characters to choose from are a set. -/
def ofChoice : Pattern → Pattern → Pattern
  | chars s, chars t => chars (s.union t)
  | p, q => choice p q

end Pattern

end ProductGraph
