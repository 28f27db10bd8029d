import ProductGraph.Status

/-!
# Why a document cannot be read or written

Either the text is not well formed in its format, or what it holds is not arranged as a package.
-/

namespace ProductGraph

/-- Why a document cannot be read or written. -/
inductive DocumentError where
  | malformedJson
  | malformedXml
  | packageNotObject
  | graphNotArray
  | unclosedElement
  | noRootElement
  | wrongRootElement (found : String)
  | itemNotObject
  | untypedItem
  deriving DecidableEq

namespace DocumentError

/-- What is wrong with the arrangement of a document, if it is that. -/
def arrangement? : DocumentError → Option String
  | malformedJson | malformedXml => none
  | packageNotObject => some "a JSON-LD package must be an object"
  | graphNotArray => some "@graph must be an array"
  | unclosedElement => some "document ends inside an element"
  | noRootElement => some "document has no root element"
  | wrongRootElement found => some ("root element must be pig:aPackage, found " ++ found)
  | itemNotObject => some "an item must be an object"
  | untypedItem => some "an item must declare its itemType"

def message (e : DocumentError) : String :=
  match e.arrangement? with
  | some fault => "unexpected document structure: " ++ fault
  | none => if e = malformedXml then "document is not valid XML" else "document is not valid JSON"

def status (_ : DocumentError) : Status := .parseFailure

end DocumentError

end ProductGraph
