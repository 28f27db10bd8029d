import ProductGraph.Package.Basic
import ProductGraph.Schema.Store

/-!
# Packages from documents

A document becomes a package item by item.  An item that is refused does not keep the others out: it is noted with
its place, and stays in the package without content if its kind is known.  A header that is refused keeps the whole
document out.
-/

namespace ProductGraph

/-- An item of a document that was refused. -/
structure ItemFailure where
  index : Nat
  id : Option String
  error : ItemError

def ItemFailure.message (f : ItemFailure) : String :=
  "item " ++ toString f.index ++ " (" ++ f.id.getD "no id" ++ "): [" ++ f.error.status.display ++ "] " ++
    f.error.message

/-- What came of reading a document. -/
structure ImportReport where
  total : Nat
  failures : List ItemFailure
  violation : Option Violation

namespace ImportReport

def instantiated (r : ImportReport) : Nat := r.total - r.failures.length

/-- How many items have content. -/
def summary (r : ImportReport) : String :=
  toString r.instantiated ++ " of " ++ toString r.total ++ " items instantiated"

/-- Whether nothing was refused and nothing is inconsistent. -/
def isClean (r : ImportReport) : Bool := r.failures.isEmpty && r.violation.isNone

/-- The status of the violation if there is one, else of the first failure. -/
def status (r : ImportReport) : Status :=
  match r.violation, r.failures.head? with
  | some v, _ => v.status
  | none, some failure => failure.error.status
  | none, none => .ok

end ImportReport

/-- Why a document does not become a package.  The last reason needs an item whose kind was set apart from its
value; no document that was read from a text has one. -/
inductive PackageError where
  | document (error : DocumentError)
  | schema (error : SchemaError)
  | header (error : ItemError)
  | foreignKind (kind : Kind) (declared : String)

namespace PackageError

def message : PackageError → String
  | document error => error.message
  | schema error => error.message
  | header error => "package header is invalid: " ++ error.message
  | foreignKind kind declared => SetOutcome.foreignKindMessage kind declared

def status : PackageError → Status
  | document error => error.status
  | schema error => error.status
  | header error => error.status
  | foreignKind .. => .kindMismatch

end PackageError

namespace Package

/-- The header that the header fields of a document are. -/
def headerOf (schemas : Validator) (fields : Fields) : Except ItemError PackageHeader :=
  let value := Json.object (Item.withKind .package fields)
  match schemas .package value with
  | some diagnostics => .error (.schema .package diagnostics)
  | none =>
    match PackageHeader.ofJson value with
    | .error reason => .error (.malformed .package reason)
    | .ok header => do
      Validation.text "title" header.title
      Validation.text "description" header.description
      return header

/-- The item that an item of a document becomes, if its kind is known, and why it was refused, if it was. -/
def instantiate (schemas : Validator) (d : DocumentItem) : Except PackageError (Option Item × Option ItemError) :=
  match d.kind with
  | none => .ok (none, some (.unknownKind d.declared))
  | some kind =>
    match (Item.empty kind).set schemas d.value with
    | (item, .accepted) => .ok (some item, none)
    | (item, .refused error) => .ok (some item, some error)
    | (_, .foreignKind kind declared) => .error (.foreignKind kind declared)

/-- The items that the items of a document become, from a place on, and the failures among them. -/
def instantiateFrom (schemas : Validator) (index : Nat) :
    List DocumentItem → Except PackageError (List Item × List ItemFailure)
  | [] => .ok ([], [])
  | d :: rest => do
    let (item, error) ← instantiate schemas d
    let (items, failures) ← instantiateFrom schemas (index + 1) rest
    return (item.toList ++ items, (error.map fun e => ⟨index, d.id?, e⟩).toList ++ failures)

/-- The package that a document becomes. -/
def ofDocument (schemas : Validator) (checks : CheckSet) (defaultLanguage : String) (document : Document) :
    Except PackageError (Package × ImportReport) := do
  let header ← (headerOf schemas document.header).mapError .header
  let (items, failures) ← instantiateFrom schemas 0 document.items
  let package : Package := ⟨header, document.namespaces, items⟩
  return (package, ⟨document.items.length, failures, package.check checks defaultLanguage⟩)

/-- The package that a text becomes. -/
def ofText (schemas : Validator) (checks : CheckSet) (options : ReadingOptions) (format : Format) (text : String) :
    Except PackageError (Package × ImportReport) := do
  let document ← (Document.ofText format options text).mapError .document
  ofDocument schemas checks options.defaultLanguage document

/-- The package that a text becomes with the schemas of a cache, loaded now if they are not there yet. -/
def ofTextCached [SchemaCompiler] (cache : SchemaCache) (files : FileReader) (checks : CheckSet)
    (options : ReadingOptions) (format : Format) (text : String) :
    SchemaCache × Except PackageError (Package × ImportReport) :=
  let (cache, schemas) := cache.get files
  (cache, (schemas.mapError .schema).bind fun schemas => ofText schemas.validator checks options format text)

end Package

end ProductGraph
