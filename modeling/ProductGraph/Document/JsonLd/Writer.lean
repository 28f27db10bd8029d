import ProductGraph.Document.Normal

/-!
# Writing linked data

Fields get their names in linked data and identifiers are wrapped in objects.  The fragments of an individual are
written under the names of their classes, those of one class together in the order in which they stand.
-/

namespace ProductGraph
namespace JsonLd

/-- Give fields the names of linked data instead of their own. -/
def toLinked : Walk := Normal.renamed Vocabulary.linkedOfField?

/-- Whether references in a field are wrapped: not in its own identifier, in text, nor outside the vocabulary. -/
def isWrapped (name : String) : Bool :=
  name != "id" && !Vocabulary.textFields.contains name && Vocabulary.isField name

def ofFields (fields : Fields) : Json :=
  toLinked.run (.object (fields.map fun f => (f.1, if isWrapped f.1 then Normal.wrapping.run f.2 else f.2)))

/-- A fragment as it stands under its class: a literal, or a reference that says which kind of link it is. -/
def entry (kind : Kind) (fragment : Json) : Json :=
  if kind = .propertyValue then
    .ofFields (("@value", (fragment.field? "value").getD .null) ::
      ((fragment.field? "lang").map fun lang => ("@language", lang)).toList)
  else
    .ofFields [("@id", (fragment.field? "idRef").getD .null),
               ("pig:itemType", .object [("@id", .string kind.tag)])]

/-- Entries under the names of their classes, in the order in which the classes first appear. -/
abbrev Groups := List (String × List Json)

namespace Groups

def add : Groups → String → Json → Groups
  | [], hasClass, e => [(hasClass, [e])]
  | (c, entries) :: rest, hasClass, e =>
    if c = hasClass then (c, entries ++ [e]) :: rest else (c, entries) :: add rest hasClass e

end Groups

/-- The entries that the fragments in the fields of an individual become, each with its class.  A fragment that
names no class becomes none. -/
def entries (fields : Fields) : List (String × Json) :=
  Vocabulary.fragmentFields.flatMap fun (name, kind) =>
    (((fields.get? name).bind Json.items?).getD []).filterMap fun fragment =>
      (fragment.textField? "hasClass").map fun hasClass => (hasClass, entry kind fragment)

/-- The fields of an individual with its fragments under the names of their classes. -/
def spread (fields : Fields) : Fields :=
  let groups := (entries fields).foldl (fun acc e => Groups.add acc e.1 e.2) []
  let others : Fields := fields.filter fun f => !(Vocabulary.fragmentFields.map (·.1)).contains f.1
  others.insertAll (groups.map fun g => (g.1, .array g.2))

def ofItem (value : Json) : Json :=
  match value with
  | .object fields =>
    let kind := (value.textField? "itemType").bind Kind.ofTag?
    ofFields (if kind.any Kind.isIndividual then spread fields else fields)
  | _ => value

/-- The fields of a header with the kind of the package filled in. -/
def withPackageKind (header : Fields) : Fields :=
  if header.has "itemType" then header else header.insert "itemType" (.string Kind.package.tag)

/-- A document as linked data. -/
def ofDocument (document : Document) : Json :=
  let context := (Document.declaredNamespaces document.namespaces).map fun n => (n.1, Json.string n.2)
  let header := ((ofFields (withPackageKind document.header)).fields?).getD []
  .object (((Keyed.ofList [("@context", Json.object context)]).insertAll header).insert "@graph"
    (.array (document.items.map fun i => ofItem i.value)))

end JsonLd
end ProductGraph
