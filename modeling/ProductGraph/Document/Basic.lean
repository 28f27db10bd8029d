import ProductGraph.Document.Vocabulary
import ProductGraph.Json.Basic

/-!
# Documents

A document is a set of namespaces, the fields of a header and a list of items.  Its items are named values whose
fields have their own names, not those of a format; whether they are right is not asked here.
-/

namespace ProductGraph

/-- Namespaces by the names that stand for them. -/
abbrev Namespaces := Keyed String

/-- An item as a document holds it. -/
structure DocumentItem where
  kind : Option Kind
  declared : Option String
  value : Json

namespace DocumentItem

/-- The item that a value is, of the kind that the value declares. -/
def ofJson (value : Json) : DocumentItem :=
  let declared := value.textField? "itemType"
  ⟨declared.bind Kind.ofTag?, declared, value⟩

/-- The identifier of an item, if it is a text. -/
def id? (item : DocumentItem) : Option String := item.value.textField? "id"

end DocumentItem

/-- What a document holds. -/
structure Document where
  namespaces : Namespaces
  header : Fields
  items : List DocumentItem

namespace Document

/-- The namespaces that a document declares when it is written: the standard ones, and its own, which win. -/
def declaredNamespaces (own : Namespaces) : Namespaces :=
  Keyed.insertAll (Keyed.ofList Vocabulary.standardNamespaces) own

end Document

end ProductGraph
