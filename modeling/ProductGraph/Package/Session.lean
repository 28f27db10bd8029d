import ProductGraph.Package.Import

/-!
# Sessions with files that change

Between two uses of a cache the files that its schemas come from may change.  A session holds files, kept in a store
of some sort, and a cache; each step changes a file or asks the cache, alone or for something that needs schemas.
-/

namespace ProductGraph

/-- A step of a session. -/
inductive SessionStep where
  | write (path : Path) (text : String)
  | delete (path : Path)
  | get
  | validate (kind : Kind) (value : Json)
  | importText (checks : CheckSet) (options : ReadingOptions) (format : Format) (text : String)

/-- What a step comes to. -/
inductive SessionAnswer where
  | done
  | schemas (result : Except SchemaError Schemas)
  | complaint (result : Except SchemaError (Option String))
  | package (result : Except PackageError (Package × ImportReport))

/-- Files that may change and a cache of schemas. -/
structure SchemaSession (σ : Type) where
  files : σ
  cache : SchemaCache

namespace SchemaSession

variable {σ : Type} [FileStore σ] [SchemaCompiler]

def reader (session : SchemaSession σ) : FileReader := FileStore.read session.files

/-- The session after a step, and what the step comes to. -/
def take (session : SchemaSession σ) : SessionStep → SchemaSession σ × SessionAnswer
  | .write path text => ({ session with files := FileStore.write session.files path text }, .done)
  | .delete path => ({ session with files := FileStore.delete session.files path }, .done)
  | .get =>
    let (cache, result) := session.cache.get session.reader
    ({ session with cache }, .schemas result)
  | .validate kind value =>
    let (cache, result) := session.cache.validate session.reader kind value
    ({ session with cache }, .complaint result)
  | .importText checks options format text =>
    let (cache, result) := Package.ofTextCached session.cache session.reader checks options format text
    ({ session with cache }, .package result)

/-- The session after steps one after another. -/
def after (session : SchemaSession σ) : List SessionStep → SchemaSession σ
  | [] => session
  | step :: rest => (session.take step).1.after rest

end SchemaSession

/-- A session over a tree of files. -/
abbrev Session := SchemaSession FileTree

end ProductGraph
