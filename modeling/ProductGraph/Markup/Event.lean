import ProductGraph.Markup.Entity

/-!
# Reading markup step by step

What stands at a place of a document decides what is read there: text up to the next tag, a tag, character data,
or something aside that has no bearing on the content, such as a comment or an instruction.  A tag ends at the
first closing angle outside quotes.  A document may stop after an opening angle; it may not stop inside an
opening tag, a comment, character data or a document type.

Whether a closing tag closes what is open is not decided here, because it depends on what was read before.
-/

namespace ProductGraph
namespace Markup

/-- One thing that a document holds.  An opening tag keeps what follows its name as it is written. -/
inductive Event where
  | opening (name : String) (attributes : List Char)
  | single (name : String) (attributes : List Char)
  | closing (name : String)
  | text (raw : List Char)
  | characterData (content : List Char)
  | aside
  deriving DecidableEq

/-- What reading at a place gives. -/
inductive Step where
  | finished
  | broken
  | event (event : Event) (rest : List Char)
  deriving DecidableEq

def isGap (c : Char) : Bool := c == ' ' || c == '\r' || c == '\n' || c == '\t'

/-- Blanks that may stand at the end of a closing tag. -/
def isTrailingGap (c : Char) : Bool := isGap c || c == '\x0c'

/-- What stands before the first of a character and what follows it; all and nothing if there is none. -/
def splitAt (mark : Char) (cs : List Char) : List Char × List Char :=
  (cs.takeWhile (· != mark), (cs.dropWhile (· != mark)).drop 1)

/-- The inside of a tag and what follows it; nothing if it does not end.  `quote` is the quote being read. -/
def tagEnd? (quote : Option Char) : List Char → Option (List Char × List Char)
  | [] => none
  | c :: rest =>
    match quote with
    | none =>
      if c = '>' then some ([], rest)
      else
        let quote := if c = '"' ∨ c = '\'' then some c else none
        (tagEnd? quote rest).map fun (inside, tail) => (c :: inside, tail)
    | some q =>
      (tagEnd? (if c = q then none else quote) rest).map fun (inside, tail) => (c :: inside, tail)

/-- An opening or single tag from what stands inside its angles. -/
def tagOf (inside : List Char) : Event :=
  let isSingle := inside.getLast? == some '/'
  let body := if isSingle then inside.dropLast else inside
  let name := String.ofList (body.takeWhile (!isGap ·))
  let attributes := body.dropWhile (!isGap ·)
  if isSingle then .single name attributes else .opening name attributes

/-- Whether a text begins with a word, ASCII case apart. -/
def beginsWith (word : String) (cs : List Char) : Bool :=
  (cs.take word.length).map lowerLetter == word.toList.map lowerLetter

/-- What precedes the first closing angle that a condition accepts, and what follows it.  The condition sees all
that was read, from the last character back. -/
def until? (accepts : List Char → Bool) (read : List Char) : List Char → Option (List Char × List Char)
  | [] => none
  | c :: rest =>
    if c = '>' ∧ accepts read then some (read.reverse, rest) else until? accepts (c :: read) rest

/-- Whether a comment may end: it has begun and ended with two hyphens each. -/
def commentEnds (read : List Char) : Bool := 4 < read.length && read.take 2 == ['-', '-']

/-- Whether character data may end. -/
def dataEnds (read : List Char) : Bool := read.take 2 == [']', ']']

/-- Whether a document type may end: the angles in it are balanced. -/
def typeEnds (read : List Char) : Bool := read.count '<' == read.count '>'

/-- What begins with an angle and an exclamation mark; the mark is the first character. -/
def declaration (cs : List Char) : Step :=
  match cs.drop 1 with
  | '[' :: _ =>
    match until? dataEnds [] cs with
    | some (inside, rest) =>
      if beginsWith "![CDATA[" inside then
        let content := inside.take (inside.length - 2)
        if content.length < 8 then .broken else .event (.characterData (content.drop 8)) rest
      else .broken
    | none => .broken
  | '-' :: _ =>
    match until? commentEnds [] cs with
    | some (inside, rest) => if beginsWith "!--" inside then .event .aside rest else .broken
    | none => .broken
  | c :: _ =>
    if c = 'D' ∨ c = 'd' then
      match until? typeEnds [] cs with
      | some (inside, rest) =>
        if beginsWith "!DOCTYPE" inside && !(inside.drop 8).all isGap then .event .aside rest else .broken
      | none => .broken
    else .broken
  | [] => .broken

/-- What begins with an angle; the angle is left out. -/
def afterAngle (cs : List Char) : Step :=
  match cs with
  | [] => .finished
  | '!' :: _ => declaration cs
  | '/' :: after =>
    let (inside, rest) := splitAt '>' after
    let trimmed := (inside.reverse.dropWhile isTrailingGap).reverse
    .event (.closing (String.ofList (if trimmed.isEmpty then inside else trimmed))) rest
  | '?' :: after =>
    let (inside, rest) := splitAt '>' after
    if 1 < inside.length && inside.getLast? == some '?' then .event .aside rest else .broken
  | _ =>
    match tagEnd? none cs with
    | some (inside, rest) => .event (tagOf inside) rest
    | none => .broken

/-- Read what stands at the front of a document. -/
def next (cs : List Char) : Step :=
  match cs with
  | [] => .finished
  | '<' :: after => afterAngle after
  | _ => .event (.text (cs.takeWhile (· != '<'))) (cs.dropWhile (· != '<'))

/-- A document without the mark of its byte order. -/
def withoutMark : List Char → List Char
  | '\ufeff' :: rest => rest
  | cs => cs

end Markup
end ProductGraph
