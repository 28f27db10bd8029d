import ProductGraph.Pattern.Expression
import ProductGraph.Number.Literal
import ProductGraph.Unicode.Blank
import ProductGraph.Unicode.Category
import ProductGraph.Unicode.Property

/-!
# Reading patterns

The text of a pattern becomes an expression, or it is refused.  Nothing is taken literally for want of another
meaning except a closing bracket or brace that closes nothing: an unknown escape, an open group, a repetition
of nothing or a brace that is no count is refused.

`spaced` says whether white space and comments are skipped.  It is the only flag that matters for reading, and
like all flags it holds to the end of the group that sets it.
-/

namespace ProductGraph
namespace Expression

open Unicode (isBlank isAsciiDigit)

/-! ## White space -/

/-- What follows white space and comments; a comment ends with its line. -/
def skipBlanks (inComment : Bool) : List Char → List Char
  | [] => []
  | c :: rest =>
    if inComment then skipBlanks (c != '\n') rest
    else if isBlank c then skipBlanks false rest
    else if c = '#' then skipBlanks true rest
    else c :: rest

/-- What is read next: white space is skipped if it has no meaning. -/
def skip (spaced : Bool) (cs : List Char) : List Char := if spaced then skipBlanks false cs else cs

/-- What is read after the next character. -/
def next (spaced : Bool) (cs : List Char) : List Char := skip spaced (cs.drop 1)

/-- The character after the next one, looked up without moving on.  Behind a number sign it is the first
character that is not white space. -/
def peekBlanks (inComment : Bool) : List Char → Option Char
  | [] => none
  | c :: rest =>
    if isBlank c then peekBlanks inComment rest
    else if !inComment && c == '#' then peekBlanks true rest
    else some c

/-- The character after the next one. -/
def peek (spaced : Bool) (cs : List Char) : Option Char :=
  let after := cs.drop 1
  if spaced then (peekBlanks false after).or after.head? else after.head?

/-- What follows a word at the front of a text. -/
def afterWord? : List Char → List Char → Option (List Char)
  | [], cs => some cs
  | _ :: _, [] => none
  | w :: ws, c :: cs => if w = c then afterWord? ws cs else none

/-! ## Numbers and names -/

/-- Digits at the front of a text, blanks between them skipped if they have no meaning. -/
def takeDigits (spaced : Bool) : Nat → List Char → List Char × List Char
  | 0, cs => ([], cs)
  | steps + 1, cs =>
    match cs with
    | [] => ([], [])
    | c :: _ =>
      if isAsciiDigit c then
        let (digits, rest) := takeDigits spaced steps (next spaced cs)
        (c :: digits, rest)
      else ([], cs)

/-- A count of a repetition, with white space around it. -/
def readCount (spaced : Bool) (cs : List Char) : Option (Nat × List Char) :=
  let start := cs.dropWhile isBlank
  let (digits, rest) := takeDigits spaced start.length start
  if digits.isEmpty || Nat.pow 2 32 ≤ digitsValue digits then none
  else some (digitsValue digits, skip spaced (rest.dropWhile isBlank))

def isGroupNameStart (c : Char) : Bool := c == '_' || Unicode.Property.alphabetic.contains c.toNat

def isGroupNameChar (c : Char) : Bool :=
  c == '_' || c == '.' || c == '[' || c == ']' || Unicode.Property.alphabetic.contains c.toNat ||
    Unicode.Category.isNumeric c.toNat

/-- The name of a group, up to its closing angle. -/
def readGroupName (cs : List Char) : Option (List Char × List Char) :=
  let name := cs.takeWhile (· != '>')
  match name, cs.dropWhile (· != '>') with
  | first :: others, _ :: rest =>
    if isGroupNameStart first && others.all isGroupNameChar then some (name, rest) else none
  | _, _ => none

/-! ## Flags -/

def flag? : Char → Option PatternFlag
  | 'i' => some .caseless
  | 'm' => some .manyLines
  | 's' => some .dotAll
  | 'U' => some .swapGreed
  | 'u' => some .unicode
  | 'R' => some .returns
  | 'x' => some .spaced
  | _ => none

/-- The flags up to a colon or closing parenthesis, which is left.  No flag may be given twice, and a hyphen,
after which flags are taken back, stands once and before a flag. -/
def readFlags (taken : FlagSettings) (negated dangling : Bool) : List Char → Option (FlagSettings × List Char)
  | [] => none
  | c :: rest =>
    if c = ':' ∨ c = ')' then if dangling then none else some (taken, c :: rest)
    else if c = '-' then if negated then none else readFlags taken true true rest
    else
      match flag? c with
      | none => none
      | some flag =>
        if taken.any (fun s => s.1 == flag) then none
        else readFlags (taken ++ [(flag, !negated)]) negated false rest

/-- What flags say about one of them. -/
def setting? (flags : FlagSettings) (flag : PatternFlag) : Option Bool :=
  (flags.find? fun s => s.1 == flag).map (·.2)

/-! ## Escapes -/

/-- Characters with a meaning, which an escape takes away. -/
def isMeta (c : Char) : Bool :=
  ['\\', '.', '+', '*', '?', '(', ')', '|', '[', ']', '\x7b', '\x7d', '^', '$', '#', '&', '-', '~'].contains c

/-- Characters that may be escaped although they need not be. -/
def isIdle (c : Char) : Bool :=
  c.toNat < 0x80 && c != '<' && c != '>' &&
    !(('a' ≤ c && c ≤ 'z') || ('A' ≤ c && c ≤ 'Z') || isAsciiDigit c)

def hexValue? (c : Char) : Option Nat :=
  if isAsciiDigit c then some (digitValue c)
  else if 'a' ≤ c ∧ c ≤ 'f' then some (c.toNat - 87)
  else if 'A' ≤ c ∧ c ≤ 'F' then some (c.toNat - 55)
  else none

/-- The character at a code point, if there is one. -/
def charAt? (point : Nat) : Option Char :=
  if h : point.isValidChar then some (Char.ofNatAux point h) else none

def readHexDigits (spaced : Bool) (value : Nat) : Nat → List Char → Option (Nat × List Char)
  | 0, cs => some (value, cs)
  | more + 1, cs =>
    match cs with
    | [] => none
    | c :: _ =>
      match hexValue? c with
      | none => none
      | some digit => readHexDigits spaced (16 * value + digit) more (next spaced cs)

/-- Hexadecimal digits up to a closing brace; at least one. -/
def readHexBrace (spaced : Bool) (value : Option Nat) : Nat → List Char → Option (Nat × List Char)
  | 0, _ => none
  | steps + 1, cs =>
    match cs with
    | [] => none
    | '\x7d' :: _ => value.map fun v => (v, next spaced cs)
    | c :: _ =>
      match hexValue? c with
      | none => none
      | some digit => readHexBrace spaced (some (16 * value.getD 0 + digit)) steps (next spaced cs)

/-- A character by its code point, after the letter that says how many digits there are. -/
def readHex (spaced : Bool) (digits : Nat) (cs : List Char) : Option (Literal × List Char) :=
  match cs with
  | '\x7b' :: _ =>
    match readHexBrace spaced none cs.length (next spaced cs) with
    | none => none
    | some (value, rest) => (charAt? value).map fun c => (⟨c, false⟩, rest)
  | _ =>
    match readHexDigits spaced 0 digits cs with
    | none => none
    | some (value, rest) => (charAt? value).map fun c => (⟨c, digits == 2⟩, rest)

/-- The name of a property up to its closing brace. -/
def readBraced (spaced : Bool) : Nat → List Char → Option (List Char × List Char)
  | 0, _ => none
  | steps + 1, cs =>
    match cs with
    | [] => none
    | '\x7d' :: rest => some ([], rest)
    | c :: _ => (readBraced spaced steps (next spaced cs)).map fun (name, rest) => (c :: name, rest)

/-- Split a text at the first of a character; nothing if it is not there. -/
def splitAt? (c : Char) (cs : List Char) : Option (List Char × List Char) :=
  match cs.dropWhile (· != c) with
  | _ :: after => some (cs.takeWhile (· != c), after)
  | [] => none

/-- Split a text at the first place where a mark and an equals sign stand; nothing if there is none. -/
def splitAtUnequal? : List Char → Option (List Char × List Char)
  | [] => none
  | c :: rest =>
    match c, rest with
    | '!', '=' :: after => some ([], after)
    | _, _ => (splitAtUnequal? rest).map fun (before, after) => (c :: before, after)

def queryOf (text : List Char) : PropertyQuery :=
  match (splitAtUnequal? text).or ((splitAt? ':' text).or (splitAt? '=' text)) with
  | some (name, value) => .valued (String.ofList name) (String.ofList value)
  | none => .named (String.ofList text)

/-- A property, after the letter that asks for one. -/
def readProperty (spaced : Bool) (cs : List Char) : Option (PropertyQuery × List Char) :=
  match cs with
  | [] => none
  | '\x7b' :: _ => (readBraced spaced cs.length (next spaced cs)).map fun (text, rest) => (queryOf text, rest)
  | c :: _ => if c = '\\' then none else some (.named (String.singleton c), next spaced cs)

/-- What one escape or one plain character stands for. -/
inductive Atom where
  | literal (l : Literal)
  | dot
  | assertion (a : Assertion)
  | short (cls : ShortClass) (negated : Bool)
  | property (query : PropertyQuery) (negated : Bool)

/-- Whether a character can be part of the name of a word boundary. -/
def isBoundaryNameChar (c : Char) : Bool := ('a' ≤ c && c ≤ 'z') || ('A' ≤ c && c ≤ 'Z') || c == '-'

/-- The letters and hyphens at the front of a text. -/
def takeBoundaryName (spaced : Bool) : Nat → List Char → List Char × List Char
  | 0, cs => ([], cs)
  | steps + 1, cs =>
    match cs with
    | [] => ([], [])
    | c :: _ =>
      if isBoundaryNameChar c then
        let (name, rest) := takeBoundaryName spaced steps (next spaced cs)
        (c :: name, rest)
      else ([], cs)

/-- A word boundary, of a special kind if a brace with its name follows.  A brace with anything but a letter or
hyphen after it is left to be a count. -/
def readBoundary (spaced : Bool) (cs : List Char) : Option (Assertion × List Char) :=
  match cs with
  | '\x7b' :: _ =>
    match next spaced cs with
    | [] => none
    | c :: inner =>
      if isBoundaryNameChar c then
        let (name, rest) := takeBoundaryName spaced cs.length (c :: inner)
        match rest with
        | '\x7d' :: tail =>
          match String.ofList name with
          | "start" => some (.wordStart, tail)
          | "end" => some (.wordEnd, tail)
          | "start-half" => some (.beforeWord, tail)
          | "end-half" => some (.afterWord, tail)
          | _ => none
        | _ => none
      else some (.boundary, cs)
  | _ => some (.boundary, cs)

def readEscape (spaced : Bool) (cs : List Char) : Option (Atom × List Char) :=
  match cs with
  | [] => none
  | c :: rest =>
    let literal (d : Char) : Option (Atom × List Char) := some (.literal ⟨d, false⟩, rest)
    match c with
    | 'x' => (readHex spaced 2 (next spaced cs)).map fun (l, tail) => (.literal l, tail)
    | 'u' => (readHex spaced 4 (next spaced cs)).map fun (l, tail) => (.literal l, tail)
    | 'U' => (readHex spaced 8 (next spaced cs)).map fun (l, tail) => (.literal l, tail)
    | 'p' => (readProperty spaced (next spaced cs)).map fun (q, tail) => (.property q false, tail)
    | 'P' => (readProperty spaced (next spaced cs)).map fun (q, tail) => (.property q true, tail)
    | 'd' => some (.short .digit false, rest)
    | 'D' => some (.short .digit true, rest)
    | 's' => some (.short .space false, rest)
    | 'S' => some (.short .space true, rest)
    | 'w' => some (.short .word false, rest)
    | 'W' => some (.short .word true, rest)
    | 'a' => literal '\x07'
    | 'f' => literal '\x0c'
    | 't' => literal '\t'
    | 'n' => literal '\n'
    | 'r' => literal '\r'
    | 'v' => literal '\x0b'
    | 'A' => some (.assertion .textStart, rest)
    | 'z' => some (.assertion .textEnd, rest)
    | 'b' => (readBoundary spaced rest).map fun (a, tail) => (.assertion a, tail)
    | 'B' => some (.assertion .noBoundary, rest)
    | '<' => some (.assertion .wordStart, rest)
    | '>' => some (.assertion .wordEnd, rest)
    | _ => if isMeta c || isIdle c then literal c else none

/-! ## Brackets -/

def asciiClass? : String → Option AsciiClass
  | "alnum" => some .alnum
  | "alpha" => some .alpha
  | "ascii" => some .ascii
  | "blank" => some .blank
  | "cntrl" => some .cntrl
  | "digit" => some .digit
  | "graph" => some .graph
  | "lower" => some .lower
  | "print" => some .print
  | "punct" => some .punct
  | "space" => some .space
  | "upper" => some .upper
  | "word" => some .word
  | "xdigit" => some .xdigit
  | _ => none

/-- A class of ASCII characters, after the bracket that may open one. -/
def readAsciiClass (cs : List Char) : Option (SetExpression × List Char) :=
  match cs with
  | ':' :: rest =>
    let negated := rest.head? == some '^'
    let named := if negated then rest.drop 1 else rest
    match named.dropWhile (· != ':') with
    | ':' :: ']' :: tail =>
      (asciiClass? (String.ofList (named.takeWhile (· != ':')))).map fun cls => (.ascii cls negated, tail)
    | _ => none
  | _ => none

/-- A character or escape in a bracket. -/
def readSetAtom (spaced : Bool) (cs : List Char) : Option (Atom × List Char) :=
  match cs with
  | [] => none
  | '\\' :: rest => readEscape spaced rest
  | c :: rest => some (.literal ⟨c, false⟩, rest)

/-- An atom as a part of a set.  A condition on a place is none. -/
def setOfAtom? : Atom → Option SetExpression
  | .literal l => some (.literal l)
  | .short cls negated => some (.short cls negated)
  | .property query negated => some (.property query negated)
  | .dot | .assertion _ => none

/-- A character, class or range in a bracket.  A hyphen before a bracket that closes or before another hyphen
makes no range. -/
def readSetItem (spaced : Bool) (cs : List Char) : Option (SetExpression × List Char) :=
  match readSetAtom spaced cs with
  | none => none
  | some (low, rest) =>
    let rest := skip spaced rest
    match rest with
    | [] => none
    | c :: _ =>
      let beyond := peek spaced rest
      if c != '-' || beyond == some ']' || beyond == some '-' then (setOfAtom? low).map fun s => (s, rest)
      else
        match low, readSetAtom spaced (next spaced rest) with
        | .literal a, some (.literal b, tail) => if a.char ≤ b.char then some (.range a b, tail) else none
        | _, _ => none

/-- The hyphens at the front of a bracket, which are characters. -/
def readHyphens (spaced : Bool) : Nat → List Char → List SetExpression × List Char
  | 0, cs => ([], cs)
  | steps + 1, cs =>
    match cs with
    | '-' :: _ =>
      let (others, rest) := readHyphens spaced steps (next spaced cs)
      (.literal ⟨'-', false⟩ :: others, rest)
    | _ => ([], cs)

/-- Put the operation that waits for its right side around it. -/
def combine (pending : Option (SetOperation × SetExpression)) (right : SetExpression) : SetExpression :=
  match pending with
  | some (operation, left) => .combined operation left right
  | none => right

mutual

def readBracket (steps : Nat) (spaced : Bool) (cs : List Char) : Option (Bool × SetExpression × List Char) :=
  match steps with
  | 0 => none
  | steps + 1 =>
    let start := skip spaced cs
    let negated := start.head? == some '^'
    let start := if negated then next spaced start else start
    let (hyphens, rest) := readHyphens spaced start.length start
    match hyphens.isEmpty, rest with
    | true, ']' :: _ =>
      (readSet steps spaced none [.literal ⟨']', false⟩] (next spaced rest)).map fun (s, tail) => (negated, s, tail)
    | _, _ => (readSet steps spaced none hyphens rest).map fun (s, tail) => (negated, s, tail)

/-- What stands in a bracket, from one of its parts on. -/
def readSet (steps : Nat) (spaced : Bool) (pending : Option (SetOperation × SetExpression))
    (parts : List SetExpression) (cs : List Char) : Option (SetExpression × List Char) :=
  match steps with
  | 0 => none
  | steps + 1 =>
    let cs := skip spaced cs
    let operate (operation : SetOperation) (rest : List Char) : Option (SetExpression × List Char) :=
      readSet steps spaced (some (operation, combine pending (.ofParts parts))) [] rest
    match cs with
    | [] => none
    | '[' :: rest =>
      match readAsciiClass rest with
      | some (cls, tail) => readSet steps spaced pending (parts ++ [cls]) tail
      | none =>
        match readBracket steps spaced rest with
        | none => none
        | some (negated, inside, tail) => readSet steps spaced pending (parts ++ [.bracket negated inside]) tail
    | ']' :: rest => some (combine pending (.ofParts parts), rest)
    | '&' :: '&' :: rest => operate .inter rest
    | '-' :: '-' :: rest => operate .diff rest
    | '~' :: '~' :: rest => operate .symmDiff rest
    | _ =>
      match readSetItem spaced cs with
      | none => none
      | some (part, tail) => readSet steps spaced pending (parts ++ [part]) tail

end

/-! ## Repetitions -/

/-- A count in braces, after the brace: the least number, the greatest if there is one, and what follows. -/
def readCounts (spaced : Bool) (cs : List Char) : Option (Nat × Option Nat × List Char) :=
  let close (least : Nat) (most : Option Nat) (rest : List Char) : Option (Nat × Option Nat × List Char) :=
    match rest with
    | '\x7d' :: _ =>
      if most.all (fun m => least ≤ m) then
        match next spaced rest with
        | '?' :: tail => some (least, most, tail)
        | tail => some (least, most, tail)
      else none
    | _ => none
  match readCount spaced (skip spaced cs) with
  | none => none
  | some (least, rest) =>
    match rest with
    | ',' :: _ =>
      match next spaced rest with
      | '\x7d' :: tail => close least none ('\x7d' :: tail)
      | more =>
        match readCount spaced more with
        | none => none
        | some (most, tail) => close least (some most) tail
    | _ => close least (some least) rest

/-- What follows a repetition mark; a question mark right after it asks for few instead of many. -/
def afterMark : List Char → List Char
  | '?' :: rest => rest
  | cs => cs

/-! ## Groups and the whole -/

/-- How a parenthesis opens. -/
inductive Opening where
  | settings (flags : FlagSettings)
  | group (flags : FlagSettings)
  | capture (name : Option (List Char))

/-- What an opening parenthesis begins, after the parenthesis.  Looking ahead or behind is refused. -/
def readOpening (spaced : Bool) (cs : List Char) : Option (Opening × List Char) :=
  let cs := skip spaced cs
  match cs with
  | '?' :: '=' :: _ | '?' :: '!' :: _ | '?' :: '<' :: '=' :: _ | '?' :: '<' :: '!' :: _ => none
  | '?' :: 'P' :: '<' :: rest | '?' :: '<' :: rest =>
    (readGroupName rest).map fun (name, tail) => (.capture (some name), tail)
  | '?' :: rest =>
    match readFlags [] false false rest with
    | some (flags, ':' :: tail) => some (.group flags, tail)
    | some (flags, ')' :: tail) => if flags.isEmpty then none else some (.settings flags, tail)
    | _ => none
  | _ => some (.capture none, cs)

def ofAtom : Atom → Expression
  | .literal l => .literal l
  | .dot => .dot
  | .assertion a => .assertion a
  | .short cls negated => .short cls negated
  | .property query negated => .property query negated

def readAtom (spaced : Bool) (cs : List Char) : Option (Atom × List Char) :=
  match cs with
  | [] => none
  | '\\' :: rest => readEscape spaced rest
  | '.' :: rest => some (.dot, rest)
  | '^' :: rest => some (.assertion .lineStart, rest)
  | '$' :: rest => some (.assertion .lineEnd, rest)
  | c :: rest => some (.literal ⟨c, false⟩, rest)

/-- Repeat the last of the parts read so far, the latest first. -/
def repeatLast (least : Nat) (most : Option Nat) : List Expression → Option (List Expression)
  | last :: before => if last.isRepeatable then some (.repeated least most last :: before) else none
  | [] => none

/-- What a level of a pattern has given so far: the options before, the parts of the current one with the latest
first, and the names of groups. -/
structure Level where
  options : List Expression
  parts : List Expression
  names : List (List Char)

namespace Level

def fresh (names : List (List Char)) : Level := ⟨[], [], names⟩

def add (level : Level) (part : Expression) : Level := { level with parts := part :: level.parts }

/-- The level with its current option closed. -/
def close (level : Level) : Level :=
  { level with options := level.options ++ [.ofParts level.parts.reverse], parts := [] }

def whole (level : Level) : Expression := .ofOptions level.close.options

end Level

/-- Read one level of a pattern up to its end or to a parenthesis that closes it.  The first argument bounds the
steps: each reads at least one character. -/
def readLevel (steps : Nat) (spaced : Bool) (level : Level) (cs : List Char) : Option (Level × List Char) :=
  match steps with
  | 0 => none
  | steps + 1 =>
    let cs := skip spaced cs
    let again (least : Nat) (most : Option Nat) (rest : List Char) : Option (Level × List Char) :=
      match repeatLast least most level.parts with
      | some parts => readLevel steps spaced { level with parts := parts } rest
      | none => none
    match cs with
    | [] => some (level, [])
    | ')' :: _ => some (level, cs)
    | '|' :: rest => readLevel steps spaced level.close rest
    | '?' :: rest => again 0 (some 1) (afterMark rest)
    | '*' :: rest => again 0 none (afterMark rest)
    | '+' :: rest => again 1 none (afterMark rest)
    | '\x7b' :: rest =>
      match readCounts spaced rest with
      | some (least, most, tail) => again least most tail
      | none => none
    | '[' :: rest =>
      match readBracket (rest.length + 1) spaced rest with
      | some (negated, inside, tail) => readLevel steps spaced (level.add (.bracket negated inside)) tail
      | none => none
    | '(' :: rest =>
      let inner (flags : FlagSettings) (captures : Bool) (names : List (List Char)) (body : List Char) :
          Option (Level × List Char) :=
        match readLevel steps ((setting? flags .spaced).getD spaced) (.fresh names) body with
        | some (inside, ')' :: tail) =>
          readLevel steps spaced
            ({ level with names := inside.names }.add (.group flags captures inside.whole)) tail
        | _ => none
      match readOpening spaced rest with
      | some (.settings flags, tail) =>
        readLevel steps ((setting? flags .spaced).getD spaced) (level.add (.settings flags)) tail
      | some (.group flags, body) => inner flags false level.names body
      | some (.capture none, body) => inner [] true level.names body
      | some (.capture (some name), body) =>
        if level.names.contains name then none else inner [] true (name :: level.names) body
      | none => none
    | _ =>
      match readAtom spaced cs with
      | some (atom, tail) => readLevel steps spaced (level.add (ofAtom atom)) tail
      | none => none

def ofText? (s : String) : Option Expression :=
  let cs := s.toList
  match readLevel (cs.length + 1) false (.fresh []) cs with
  | some (level, []) =>
    let whole := level.whole
    if whole.depth ≤ depthLimit then some whole else none
  | _ => none

end Expression
end ProductGraph
