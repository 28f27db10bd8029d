import ProductGraph.Number.Literal
import ProductGraph.Text.Quoted
import ProductGraph.Text.Words

/-!
# Formats

A document is linked data in structured values or markup.  Which of the two is told by name, by the extension
of a file, or by the first character of the document that is no blank.
-/

namespace ProductGraph

/-- A format of documents. -/
inductive Format where
  | jsonLd
  | xml
  deriving DecidableEq

namespace Format

def name : Format → String
  | jsonLd => "jsonld"
  | xml => "xml"

/-- A text with its ASCII letters in lower case. -/
def lowered (s : String) : String := String.ofList (s.toList.map lowerLetter)

/-- The format that a name stands for, case apart. -/
def ofName? (s : String) : Option Format :=
  match lowered s with
  | "jsonld" | "json-ld" | "json" => some jsonLd
  | "xml" => some xml
  | _ => none

/-- What is said of a name that stands for no format. -/
def unknownName (s : String) : String :=
  "unknown format " ++ Text.quoted (lowered s) ++ "; expected one of: jsonld, xml"

/-- The format that an extension of a file stands for, case apart. -/
def ofExtension? (s : String) : Option Format :=
  match lowered s with
  | "jsonld" | "json" => some jsonLd
  | "xml" => some xml
  | _ => none

/-- The format that the beginning of a document shows.  Marks of the byte order and blanks are passed over. -/
def ofBeginning? (document : String) : Option Format :=
  match Text.trimStart (document.toList.dropWhile (· == '\ufeff')) with
  | '\x7b' :: _ | '[' :: _ => some jsonLd
  | '<' :: _ => some xml
  | _ => none

end Format

end ProductGraph
