import ProductGraph.Unicode.Blank

/-!
# Identifiers

An item is named by a term, `namespace:local`, or by an absolute URI.  A name without a namespace is bare: it
is no identifier yet, and reading a document puts a namespace before it.
-/

namespace ProductGraph
namespace Identifier

/-- An ASCII letter. -/
def isLetter (c : Char) : Bool := ('A' ≤ c && c ≤ 'Z') || ('a' ≤ c && c ≤ 'z')

def isAlphanumeric (c : Char) : Bool := isLetter c || ('0' ≤ c && c ≤ '9')

def isNameStart (c : Char) : Bool := isLetter c || c == '_'

def isNameChar (c : Char) : Bool := isAlphanumeric c || c == '_' || c == '.' || c == '-'

/-- What the local part of a term may begin with. -/
def isLocalStart (c : Char) : Bool := isAlphanumeric c || c == '_'

/-- What the local part of a term may go on with. -/
def isLocalChar (c : Char) : Bool :=
  isAlphanumeric c || c == '_' || c == '.' || c == '#' || c == '/' || c == '-'

/-- What a URI scheme may go on with. -/
def isSchemeChar (c : Char) : Bool := isAlphanumeric c || c == '+' || c == '.' || c == '-'

def isLocalPart : List Char → Bool
  | [] => false
  | c :: rest => isLocalStart c && rest.all isLocalChar

/-- A term: a name, a colon and a local part that does not begin with a slash. -/
def isTerm : List Char → Bool
  | [] => false
  | c :: rest =>
    isNameStart c &&
      match rest.dropWhile isNameChar with
      | ':' :: after => isLocalPart after
      | _ => false

/-- An absolute URI: a scheme, `://`, and at least one more character, none of them white space. -/
def isUri : List Char → Bool
  | [] => false
  | c :: rest =>
    isLetter c &&
      match rest.dropWhile isSchemeChar with
      | ':' :: '/' :: '/' :: after => !after.isEmpty && after.all (fun d => !Unicode.isBlank d)
      | _ => false

/-- A name without a namespace. -/
def isBare : List Char → Bool
  | [] => false
  | c :: rest => isNameStart c && rest.all isNameChar

end Identifier

/-- Whether a text is a term or an absolute URI. -/
def isIdentifier (s : String) : Bool := Identifier.isTerm s.toList || Identifier.isUri s.toList

/-- Whether a text is a name that still lacks a namespace. -/
def isBareName (s : String) : Bool := Identifier.isBare s.toList

end ProductGraph
