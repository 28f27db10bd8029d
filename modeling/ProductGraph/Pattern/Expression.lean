import ProductGraph.Pattern.Basic

/-!
# Pattern expressions

What the text of a pattern says, before its flags are applied.  Flags are set at a place and hold from there to
the end of the group they stand in, so what an expression matches depends on where it stands.
-/

namespace ProductGraph

/-- A flag that a pattern can set. -/
inductive PatternFlag where
  | caseless
  | manyLines
  | dotAll
  | swapGreed
  | unicode
  | returns
  | spaced
  deriving DecidableEq

/-- The flags that one place of a pattern sets. -/
abbrev FlagSettings := List (PatternFlag × Bool)

/-- The short classes of characters. -/
inductive ShortClass where
  | digit
  | space
  | word
  deriving DecidableEq

/-- The classes of ASCII characters that a bracket can name. -/
inductive AsciiClass where
  | alnum
  | alpha
  | ascii
  | blank
  | cntrl
  | digit
  | graph
  | lower
  | print
  | punct
  | space
  | upper
  | word
  | xdigit
  deriving DecidableEq

/-- A class of characters by a property: its name, or the name of a property and of a value of it. -/
inductive PropertyQuery where
  | named (name : String)
  | valued (property value : String)
  deriving DecidableEq

/-- The conditions that a pattern can state about a place. -/
inductive Assertion where
  | lineStart
  | lineEnd
  | textStart
  | textEnd
  | boundary
  | noBoundary
  | wordStart
  | wordEnd
  | beforeWord
  | afterWord
  deriving DecidableEq

/-- How two sets in a bracket are combined. -/
inductive SetOperation where
  | inter
  | diff
  | symmDiff
  deriving DecidableEq

/-- A character written out.  A character given by two hexadecimal digits may stand for a byte. -/
structure Literal where
  char : Char
  asByte : Bool
  deriving DecidableEq

/-- What stands in a bracket. -/
inductive SetExpression where
  | nothing
  | literal (l : Literal)
  | range (low high : Literal)
  | ascii (cls : AsciiClass) (negated : Bool)
  | short (cls : ShortClass) (negated : Bool)
  | property (query : PropertyQuery) (negated : Bool)
  | bracket (negated : Bool) (inside : SetExpression)
  | union (parts : List SetExpression)
  | combined (operation : SetOperation) (left right : SetExpression)

/-- What the text of a pattern says. -/
inductive Expression where
  | nothing
  | literal (l : Literal)
  | dot
  | assertion (a : Assertion)
  | short (cls : ShortClass) (negated : Bool)
  | property (query : PropertyQuery) (negated : Bool)
  | bracket (negated : Bool) (inside : SetExpression)
  | settings (flags : FlagSettings)
  | group (flags : FlagSettings) (captures : Bool) (inside : Expression)
  | repeated (least : Nat) (most : Option Nat) (inside : Expression)
  | sequence (parts : List Expression)
  | choice (options : List Expression)

namespace SetExpression

mutual

/-- How deep brackets, lists and combinations are nested. -/
def depth : SetExpression → Nat
  | bracket _ inside => depth inside + 1
  | union parts => depthOfAll parts + 1
  | combined _ left right => max (depth left) (depth right) + 1
  | _ => 0

def depthOfAll : List SetExpression → Nat
  | [] => 0
  | part :: rest => max (depth part) (depthOfAll rest)

end

/-- Parts that stand side by side: none, the only one, or a list. -/
def ofParts : List SetExpression → SetExpression
  | [] => nothing
  | [part] => part
  | parts => union parts

end SetExpression

namespace Expression

mutual

/-- How deep groups, repetitions, lists and brackets are nested. -/
def depth : Expression → Nat
  | bracket _ inside => inside.depth + 1
  | group _ _ inside => depth inside + 1
  | repeated _ _ inside => depth inside + 1
  | sequence parts => depthOfAll parts + 1
  | choice options => depthOfAll options + 1
  | _ => 0

def depthOfAll : List Expression → Nat
  | [] => 0
  | part :: rest => max (depth part) (depthOfAll rest)

end

def depthLimit : Nat := 250

/-- Parts that follow each other: none, the only one, or a list. -/
def ofParts : List Expression → Expression
  | [] => nothing
  | [part] => part
  | parts => sequence parts

/-- Options to choose from; a single one stands for itself. -/
def ofOptions : List Expression → Expression
  | [option] => option
  | options => choice options

/-- Whether an expression can be repeated: there has to be something, and flags are not something. -/
def isRepeatable : Expression → Bool
  | nothing | settings _ => false
  | _ => true

end Expression

end ProductGraph
