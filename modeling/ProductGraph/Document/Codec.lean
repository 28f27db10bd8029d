import ProductGraph.Document.Format
import ProductGraph.Document.JsonLd.Reader
import ProductGraph.Document.JsonLd.Writer
import ProductGraph.Document.Xml.Reader
import ProductGraph.Document.Xml.Writer

/-!
# Documents and their texts

A document is read from a text in either format and written to one, and so is a single item.
-/

namespace ProductGraph
namespace Document

/-- Read a document from a text. -/
def ofText (format : Format) (options : ReadingOptions) (text : String) : Except DocumentError Document :=
  match format with
  | .jsonLd => JsonLd.read options text
  | .xml => Xml.read options text

def text (document : Document) (format : Format) : Except DocumentError String :=
  match format with
  | .jsonLd => .ok (JsonLd.ofDocument document).pretty
  | .xml => (Xml.documentTokens document).map Markup.Token.write

def itemText (format : Format) (value : Json) : Except DocumentError String :=
  match format with
  | .jsonLd => .ok (JsonLd.ofItem value).pretty
  | .xml => (Xml.itemTokens value).map Markup.Token.write

end Document
end ProductGraph
