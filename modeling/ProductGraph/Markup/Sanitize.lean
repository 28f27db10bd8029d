import ProductGraph.Markup.Event
import ProductGraph.Text.Words
import ProductGraph.Unicode.Word

/-!
# Removing active content

Before markup is shown, what could act is taken out: whole elements that hold scripts, styles or foreign content,
their tags where they stand alone, event attributes, and addresses that are scripts.  Each kind is removed in one
pass from left to right, one kind after the other; what a removal brings together is not looked at again.

Names are compared without regard to case, which includes the long s and the Kelvin sign.
-/

namespace ProductGraph
namespace Markup

open Unicode (isBlank isWord)

/-- Whether a character is a lower-case letter, case apart. -/
def isLetterOf (letter c : Char) : Bool :=
  lowerLetter c == letter || (letter == 's' && c == '\u017f') || (letter == 'k' && c == '\u212a')

def isLatinLetter (c : Char) : Bool :=
  (('a' ≤ c && c ≤ 'z') || ('A' ≤ c && c ≤ 'Z')) || (c == '\u017f' || c == '\u212a')

/-- What follows a word, case apart. -/
def afterLetters? : List Char → List Char → Option (List Char)
  | [], cs => some cs
  | _ :: _, [] => none
  | letter :: letters, c :: cs => if isLetterOf letter c then afterLetters? letters cs else none

def afterWord? (word : String) (cs : List Char) : Option (List Char) := afterLetters? word.toList cs

def afterChar? (mark : Char) : List Char → Option (List Char)
  | c :: rest => if c = mark then some rest else none
  | [] => none

def afterFirst? (mark : Char) (cs : List Char) : Option (List Char) := afterChar? mark (cs.dropWhile (· != mark))

def skipBlanks (cs : List Char) : List Char := cs.dropWhile isBlank

/-- What follows a tag whose name has been read, unless the name goes on. -/
def afterTagName? (cs : List Char) : Option (List Char) :=
  if cs.head?.any isWord then none else afterFirst? '>' cs

def activeElements : List String := ["script", "style", "iframe", "object", "embed"]

/-- What follows an opening tag of an element. -/
def afterOpening? (name : String) (cs : List Char) : Option (List Char) :=
  ((afterChar? '<' cs).bind (afterWord? name)).bind afterTagName?

/-- What follows a closing tag of an element. -/
def afterClosing? (name : String) (cs : List Char) : Option (List Char) :=
  (((afterChar? '<' cs).bind (afterChar? '/')).bind (afterWord? name)).bind fun rest =>
    afterChar? '>' (skipBlanks rest)

def afterFirstClosing? (name : String) : List Char → Option (List Char)
  | [] => none
  | c :: rest =>
    match afterClosing? name (c :: rest) with
    | some tail => some tail
    | none => afterFirstClosing? name rest

def afterElement? (name : String) (cs : List Char) : Option (List Char) :=
  (afterOpening? name cs).bind (afterFirstClosing? name)

/-- What follows an opening or closing tag of an active element. -/
def afterActiveTag? (cs : List Char) : Option (List Char) :=
  (afterChar? '<' cs).bind fun inside =>
    let named := (afterChar? '/' inside).getD inside
    (activeElements.findSome? fun name => afterWord? name named).bind afterTagName?

def afterQuoted? (quote : Char) (cs : List Char) : Option (List Char) :=
  (afterChar? quote cs).bind (afterFirst? quote)

/-- What a value without quotes is made of. -/
def isBareChar (c : Char) : Bool := !isBlank c && c != '>'

def afterValue? (cs : List Char) : Option (List Char) :=
  (afterQuoted? '"' cs).or ((afterQuoted? '\'' cs).or
    (if cs.head?.any isBareChar then some (cs.dropWhile isBareChar) else none))

def afterEquals? (cs : List Char) : Option (List Char) := (afterChar? '=' (skipBlanks cs)).map skipBlanks

/-- What follows an event attribute and the blanks before it. -/
def afterEvent? (cs : List Char) : Option (List Char) :=
  if cs.head?.any isBlank then
    (afterWord? "on" (skipBlanks cs)).bind fun name =>
      if name.head?.any isLatinLetter then
        (afterEquals? (name.dropWhile isLatinLetter)).bind afterValue?
      else none
  else none

/-- What follows an address that is a script, between quotes. -/
def afterQuotedScript? (quote : Char) (cs : List Char) : Option (List Char) :=
  ((afterChar? quote cs).bind fun inside => afterWord? "javascript:" (skipBlanks inside)).bind (afterFirst? quote)

/-- What follows an address that is a script. -/
def afterScript? (cs : List Char) : Option (List Char) :=
  (afterQuotedScript? '"' cs).or ((afterQuotedScript? '\'' cs).or
    ((afterWord? "javascript:" cs).map fun rest => rest.dropWhile isBareChar))

/-- What follows an attribute whose address is a script, and what stands in its place. -/
def scriptAddress? (cs : List Char) : Option (List Char × List Char) :=
  ((afterWord? "href" cs).or (afterWord? "src" cs)).bind fun rest =>
    ((afterEquals? rest).bind afterScript?).map fun tail =>
      (cs.take (cs.length - rest.length) ++ "=\"#\"".toList, tail)

/-- Replace what a rule finds, from left to right.  The rule gives what is to stand there and what follows. -/
def replaceAll (rule : List Char → Option (List Char × List Char)) : Nat → List Char → List Char
  | 0, cs => cs
  | steps + 1, cs =>
    match cs with
    | [] => []
    | c :: rest =>
      match rule (c :: rest) with
      | some (replacement, tail) => replacement ++ replaceAll rule steps tail
      | none => c :: replaceAll rule steps rest

/-- Put a text in place of what a rule finds. -/
def substitute (rule : List Char → Option (List Char)) (replacement cs : List Char) : List Char :=
  replaceAll (fun rest => (rule rest).map fun tail => (replacement, tail)) cs.length cs

def sanitized (cs : List Char) : List Char :=
  let withoutElements := activeElements.foldl (fun text name => substitute (afterElement? name) [] text) cs
  let withoutTags := substitute afterActiveTag? [] withoutElements
  let withoutEvents := substitute afterEvent? [] withoutTags
  replaceAll scriptAddress? withoutEvents.length withoutEvents

def afterTag? (cs : List Char) : Option (List Char) := (afterChar? '<' cs).bind (afterFirst? '>')

def afterText? : List Char → List Char → Option (List Char)
  | [], cs => some cs
  | _ :: _, [] => none
  | t :: ts, c :: cs => if t = c then afterText? ts cs else none

/-- Put a character in place of a reference to it. -/
def dereference (cs : List Char) (reference : String × Char) : List Char :=
  substitute (afterText? reference.1.toList) [reference.2] cs

/-- The references that plain text resolves, in the order in which it does. -/
def plainReferences : List (String × Char) :=
  [("&lt;", '<'), ("&gt;", '>'), ("&quot;", '"'), ("&#39;", '\''), ("&apos;", '\''), ("&amp;", '&')]

/-- Words with a single blank between each two. -/
def spaced : List (List Char) → List Char
  | [] => []
  | [word] => word
  | word :: rest => word ++ ' ' :: spaced rest

/-- The text of markup, without active content and tags, its words separated by single blanks. -/
def plain (cs : List Char) : List Char :=
  let stripped := substitute afterTag? [' '] (sanitized cs)
  spaced (Text.words (plainReferences.foldl dereference stripped))

/-- The markup without active content. -/
def sanitize (s : String) : String := String.ofList (sanitized s.toList)

/-- The text of markup. -/
def plainText (s : String) : String := String.ofList (plain s.toList)

end Markup
end ProductGraph
