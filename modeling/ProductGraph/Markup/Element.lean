import ProductGraph.Markup.Attribute
import ProductGraph.Text.Words

/-!
# Elements

A document is read into the tree of its elements.  Text is kept where an element holds text alone; between
child elements, and where it is nothing but blanks, it is layout.  Elements whose content is rich text keep it as
it is written, tags included, and have no children.

The last element at the outermost level is the root.  Text outside it is not looked at.
-/

namespace ProductGraph
namespace Markup

/-- An element: its name, its attributes in the order written, its children and its text. -/
inductive Element where
  | mk (name : String) (attributes : List (String × String)) (children : List Element) (text : String)

namespace Element

def name : Element → String
  | mk name _ _ _ => name

def attributes : Element → List (String × String)
  | mk _ attributes _ _ => attributes

def children : Element → List Element
  | mk _ _ children _ => children

def text : Element → String
  | mk _ _ _ text => text

def attribute? (e : Element) (name : String) : Option String :=
  (e.attributes.find? fun a => a.1 == name).map (·.2)

/-- Whether an element has nothing but its name. -/
def isBare (e : Element) : Bool := e.attributes.isEmpty && e.children.isEmpty && e.text.isEmpty

end Element

/-- Why a document has no root element. -/
inductive TreeError where
  | notWellFormed
  | openElement
  | noRoot
  deriving DecidableEq

/-- An element that is still open: its children so far, the latest first, and its text so far. -/
structure OpenElement where
  name : String
  attributes : List (String × String)
  children : List Element
  text : List Char

namespace OpenElement

/-- The element once it is closed.  Text beside children and text of blanks alone is layout. -/
def close (e : OpenElement) : Element :=
  let text := if !e.children.isEmpty || e.text.all Unicode.isBlank then [] else e.text
  .mk e.name e.attributes e.children.reverse (String.ofList text)

def addText (e : OpenElement) (more : List Char) : OpenElement := { e with text := e.text ++ more }

def addChild (e : OpenElement) (child : Element) : OpenElement := { e with children := child :: e.children }

end OpenElement

/-- The elements that are open, the innermost first, and the last element that was closed outside all. -/
structure Tree where
  opened : List OpenElement
  root : Option Element

namespace Tree

/-- Nothing read yet. -/
def empty : Tree := ⟨[], none⟩

/-- Put a complete element where reading stands. -/
def attach (t : Tree) (e : Element) : Tree :=
  match t.opened with
  | innermost :: others => { t with opened := innermost.addChild e :: others }
  | [] => { t with root := some e }

/-- Add text where reading stands; outside all elements it is dropped. -/
def addText (t : Tree) (text : List Char) : Tree :=
  match t.opened with
  | innermost :: others => { t with opened := innermost.addText text :: others }
  | [] => t

end Tree

/-- What is written up to the tag that closes an element, and what follows that tag.  `opened` holds the names of
the elements that are open inside it, and `written` what was read, from the last character back. -/
def rawContent? (name : String) : Nat → (opened : List String) → (written : List Char) → List Char →
    Option (List Char × List Char)
  | 0, _, _, _ => none
  | steps + 1, opened, written, cs =>
    match next cs with
    | .finished | .broken => none
    | .event event rest =>
      let read := (cs.take (cs.length - rest.length)).reverse ++ written
      match event with
      | .opening inner _ => rawContent? name steps (inner :: opened) read rest
      | .closing closed =>
        match opened with
        | innermost :: others => if closed = innermost then rawContent? name steps others read rest else none
        | [] => if closed = name then some (written.reverse, rest) else none
      | .single .. | .text _ | .characterData _ | .aside => rawContent? name steps opened read rest

/-- Read a document from some place on.  `isRich` tells the elements whose content is kept as written. -/
def readTree (isRich : String → Bool) : Nat → Tree → List Char → Except TreeError Tree
  | 0, _, _ => .error .notWellFormed
  | steps + 1, t, cs =>
    match next cs with
    | .finished => .ok t
    | .broken => .error .notWellFormed
    | .event (.opening name written) rest =>
      match attributes? written with
      | none => .error .notWellFormed
      | some attributes =>
        if isRich name then
          match rawContent? name (rest.length + 1) [] [] rest with
          | some (content, tail) =>
            readTree isRich steps (t.attach (.mk name attributes [] (String.ofList content))) tail
          | none => .error .notWellFormed
        else readTree isRich steps { t with opened := ⟨name, attributes, [], []⟩ :: t.opened } rest
    | .event (.single name written) rest =>
      match attributes? written with
      | none => .error .notWellFormed
      | some attributes => readTree isRich steps (t.attach (.mk name attributes [] "")) rest
    | .event (.closing name) rest =>
      match t.opened with
      | innermost :: others =>
        if name = innermost.name then
          readTree isRich steps ({ t with opened := others }.attach innermost.close) rest
        else .error .notWellFormed
      | [] => .error .notWellFormed
    | .event (.text raw) rest =>
      if t.opened.isEmpty then readTree isRich steps t rest
      else
        match resolve? raw with
        | some text => readTree isRich steps (t.addText text) rest
        | none => .error .notWellFormed
    | .event (.characterData content) rest => readTree isRich steps (t.addText content) rest
    | .event .aside rest => readTree isRich steps t rest

/-- The root element of a document. -/
def root (isRich : String → Bool) (document : String) : Except TreeError Element :=
  let cs := withoutMark document.toList
  match readTree isRich (cs.length + 1) .empty cs with
  | .error e => .error e
  | .ok t =>
    if !t.opened.isEmpty then .error .openElement
    else
      match t.root with
      | some e => .ok e
      | none => .error .noRoot

end Markup
end ProductGraph
