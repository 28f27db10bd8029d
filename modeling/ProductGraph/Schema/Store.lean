import ProductGraph.Files.Tree
import ProductGraph.Item.Basic
import ProductGraph.Json.Reader
import ProductGraph.Schema.Documents

/-!
# Loading schemas

The schemas of all kinds are needed together.  They come from a source: the library itself, a directory with a
file for each kind, or an address on the network.  All documents are loaded before the first one is compiled, so
a document that is missing is reported before one that makes no sense, whatever their kinds.

What makes a schema of a document is a compiler, and loading works with any.  A cache loads from its source when it
is first asked and keeps what it got.  A failure is not kept, and once schemas are there the source is never looked
at again.
-/

namespace ProductGraph

/-- Why schemas cannot be had. -/
inductive SchemaError where
  | load (kind : Kind) (reason : String)
  | parse (kind : Kind)
  | compile (kind : Kind)
  deriving DecidableEq

namespace SchemaError

def message : SchemaError → String
  | load kind reason => "failed to load schema for " ++ kind.tag ++ ": " ++ reason
  | parse kind => "schema for " ++ kind.tag ++ " is not valid JSON"
  | compile kind => "schema for " ++ kind.tag ++ " does not compile"

def status (_ : SchemaError) : Status := .schemaLoad

end SchemaError

/-- Where schemas come from. -/
inductive SchemaSource where
  | library
  | directory (path : String)
  | address (url : String)
  deriving DecidableEq

namespace SchemaSource

def path (directory : String) (kind : Kind) : String :=
  Path.joined directory (kind.schemaName ++ ".json")

/-- The address of the document for a kind. -/
def url (base : String) (kind : Kind) : String :=
  String.ofList (base.toList.reverse.dropWhile (· == '/')).reverse ++ "/" ++ kind.schemaName ++ ".json"

/-- Why a document cannot be fetched.  There is no network here: an address without a scheme is no request, one
with a scheme other than that of the web is refused, and all others cannot be reached. -/
def unreachable (url : String) : String :=
  let cs := url.toList
  let scheme := String.ofList ((cs.takeWhile Identifier.isSchemeChar).map lowerLetter)
  match cs.dropWhile Identifier.isSchemeChar with
  | ':' :: '/' :: '/' :: host =>
    if scheme == "http" || scheme == "https" then
      if host.head?.all (· == '/') then "builder error" else "error sending request for url (" ++ url ++ ")"
    else "builder error for url (" ++ url ++ ")"
  | _ => "builder error"

/-- The document for a kind, with a way to read files. -/
def load (source : SchemaSource) (files : FileReader) (kind : Kind) : Except SchemaError Json :=
  match source with
  | library => .ok (SchemaDocument.ofKind kind)
  | directory base =>
    let path := path base kind
    match files path with
    | .error e => .error (.load kind (path ++ ": " ++ e.message))
    | .ok text =>
      match Json.ofText? text with
      | some document => .ok document
      | none => .error (.parse kind)
  | address base => .error (.load kind (url base kind ++ ": " ++ unreachable (url base kind)))

/-- The files that loading from a source reads. -/
def paths : SchemaSource → List String
  | directory base => Kind.all.map (path base)
  | library | address _ => []

end SchemaSource

/-- What compiles schemas.  A document that is one becomes a list of faults for each value.  References may lead out
of a document, and then they are followed while it is compiled; that is what the files are for. -/
class SchemaCompiler where
  compile? : FileReader → Json → Option (Json → List Fault)

/-- The compiler for the documents of the library.  It knows the common keywords and follows references within a
document; a keyword that it does not know says nothing. -/
instance SchemaCompiler.ofKeywords : SchemaCompiler where
  compile? _ document := (CompiledSchema.ofDocument? document).map CompiledSchema.faults

/-- Compiled schemas by kind. -/
abbrev Schemas := List (Kind × (Json → List Fault))

namespace Schemas

/-- Compile the documents of some kinds, in order. -/
def compile [SchemaCompiler] (files : FileReader) (documents : List (Kind × Json)) : Except SchemaError Schemas :=
  documents.mapM fun (kind, document) =>
    match SchemaCompiler.compile? files document with
    | some schema => .ok (kind, schema)
    | none => .error (.compile kind)

/-- Load the documents of all kinds, in order. -/
def loadAll (source : SchemaSource) (files : FileReader) : Except SchemaError (List (Kind × Json)) :=
  Kind.all.mapM fun kind => (source.load files kind).map fun document => (kind, document)

/-- Load and compile the schemas of all kinds. -/
def ofSource [SchemaCompiler] (source : SchemaSource) (files : FileReader) : Except SchemaError Schemas :=
  (loadAll source files).bind (compile files)

/-- The schemas of the library, none of which refers to a file. -/
def library [SchemaCompiler] : Schemas :=
  (compile FileReader.empty (Kind.all.map fun kind => (kind, SchemaDocument.ofKind kind))).toOption.getD []

/-- What the schema of a kind says about a value: its faults in one line. -/
def validator (schemas : Schemas) : Validator := fun kind value =>
  match schemas.find? (fun entry => entry.1 == kind) with
  | some entry =>
    let faults := entry.2 value
    if faults.isEmpty then none else some (Fault.diagnostics faults)
  | none => some ("no schema registered for " ++ kind.tag)

end Schemas

/-- A source of schemas and what was loaded from it, if anything was. -/
structure SchemaCache where
  source : SchemaSource
  loaded : Option Schemas

namespace SchemaCache

/-- A cache that has not been asked yet. -/
def fresh (source : SchemaSource) : SchemaCache := ⟨source, none⟩

def isLoaded (cache : SchemaCache) : Bool := cache.loaded.isSome

/-- The schemas, loaded now if they are not there yet. -/
def get [SchemaCompiler] (cache : SchemaCache) (files : FileReader) : SchemaCache × Except SchemaError Schemas :=
  match cache.loaded with
  | some schemas => (cache, .ok schemas)
  | none =>
    match Schemas.ofSource cache.source files with
    | .ok schemas => ({ cache with loaded := some schemas }, .ok schemas)
    | .error e => (cache, .error e)

/-- What the schema of a kind says about a value, the schemas loaded now if they are not there yet. -/
def validate [SchemaCompiler] (cache : SchemaCache) (files : FileReader) (kind : Kind) (value : Json) :
    SchemaCache × Except SchemaError (Option String) :=
  let (cache, schemas) := cache.get files
  (cache, schemas.map fun schemas => schemas.validator kind value)

end SchemaCache

end ProductGraph
