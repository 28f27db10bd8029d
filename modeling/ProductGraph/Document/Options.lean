/-!
# Options for reading documents

Bare names get a namespace when a document is read: one for classes and another for individuals.  Text without a
language counts as text in a default language where languages are counted.
-/

namespace ProductGraph

/-- What reading a document assumes where the document is silent. -/
structure ReadingOptions where
  classNamespace : String
  dataNamespace : String
  defaultLanguage : String
  deriving DecidableEq

/-- The usual assumptions. -/
def ReadingOptions.standard : ReadingOptions := ⟨"o", "d", "en"⟩

end ProductGraph
