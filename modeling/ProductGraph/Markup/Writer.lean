import ProductGraph.Markup.Entity

/-!
# Writing markup

A document is written as a sequence of tokens.  Each tag starts a line of its own, indented by two blanks for
every element it stands in, unless text stands before it: next to text a break would become part of the text.
-/

namespace ProductGraph
namespace Markup

/-- One thing to be written.  Text is given as it is written, with its references. -/
inductive Token where
  | declaration
  | opening (name : String) (attributes : List (String × String))
  | single (name : String) (attributes : List (String × String))
  | closing (name : String)
  | text (written : List Char)

namespace Token

def plain (s : String) : Token := .text (escape s.toList)

/-- The attributes of a tag, a blank before each. -/
def attributesText (attributes : List (String × String)) : List Char :=
  attributes.flatMap fun (name, value) =>
    ' ' :: (name.toList ++ ['=', '"'] ++ escape value.toList ++ ['"'])

/-- A token without its line break. -/
def written : Token → List Char
  | declaration => "<?xml version=\"1.0\" encoding=\"UTF-8\"?>".toList
  | opening name attributes => '<' :: (name.toList ++ attributesText attributes ++ ['>'])
  | single name attributes => '<' :: (name.toList ++ attributesText attributes ++ ['/', '>'])
  | closing name => '<' :: '/' :: (name.toList ++ ['>'])
  | text written => written

/-- The depth at which a token is written, inside so many elements. -/
def level (depth : Nat) : Token → Nat
  | closing _ => depth - 1
  | _ => depth

def depthAfter (depth : Nat) : Token → Nat
  | opening .. => depth + 1
  | closing _ => depth - 1
  | _ => depth

def isText : Token → Bool
  | text _ => true
  | _ => false

def lineBreak (depth : Nat) : List Char := '\n' :: List.replicate (2 * depth) ' '

/-- Write tokens inside so many elements; `breaks` says whether the next tag starts a line. -/
def writeFrom (depth : Nat) (breaks : Bool) : List Token → List Char
  | [] => []
  | token :: rest =>
    (if breaks && !token.isText then lineBreak (token.level depth) else []) ++ token.written ++
      writeFrom (token.depthAfter depth) (!token.isText) rest

/-- Write tokens as a document. -/
def write (tokens : List Token) : String := String.ofList (writeFrom 0 false tokens)

end Token

end Markup
end ProductGraph
