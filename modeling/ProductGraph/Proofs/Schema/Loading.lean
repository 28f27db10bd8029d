import ProductGraph.Proofs.Outcome
import ProductGraph.Schema.Store

namespace ProductGraph

/-!
# Loading the schemas of a directory

Schemas are loaded together or not at all.  Loading succeeds if every kind has a document that can be read and makes a
schema.  If it fails, the failure is that of one document: the first in the order of the kinds that cannot be read, or,
if all of them can, the first that makes no schema.  So a document that makes no schema is passed over as long as a
later one is missing.

What a file says is taken from a reader of files, and which documents make schemas from a compiler; nothing is said
about how the files came there, or about what a schema demands.
-/

open Outcome (mapM_eq_error mapM_eq_map exists_of_mapM map_eq_ok)

namespace SchemaSource

/-- The file of a kind holds a document. -/
def HasDocument (base : String) (files : FileReader) (kind : Kind) (document : Json) : Prop :=
  ∃ text, files (path base kind) = .ok text ∧ Json.ofText? text = some document

/-- The document of a kind is not there, and how this is reported: its file cannot be read, or what the file says is no
structured value. -/
inductive Unavailable (base : String) (files : FileReader) (kind : Kind) : SchemaError → Prop
  | missing {reason : FileError} (unread : files (path base kind) = .error reason) :
      Unavailable base files kind (.load kind (path base kind ++ ": " ++ reason.message))
  | noValue {text : String} (read : files (path base kind) = .ok text) (broken : Json.ofText? text = none) :
      Unavailable base files kind (.parse kind)

variable {base : String} {files : FileReader} {kind : Kind}

theorem load_directory_eq_ok {document : Json} :
    (directory base).load files kind = .ok document ↔ HasDocument base files kind document := by
  simp only [load, HasDocument]
  cases files (path base kind) with
  | error reason => simp
  | ok text => cases parsed : Json.ofText? text <;> simp [parsed]

theorem load_directory_eq_error {e : SchemaError} :
    (directory base).load files kind = .error e ↔ Unavailable base files kind e := by
  constructor
  · intro failed
    simp only [load] at failed
    cases read : files (path base kind) with
    | error reason =>
        simp only [read] at failed
        cases failed
        exact .missing read
    | ok text =>
        simp only [read] at failed
        cases parsed : Json.ofText? text with
        | some document => simp [parsed] at failed
        | none =>
            simp only [parsed] at failed
            cases failed
            exact .noValue read parsed
  · rintro (unread | ⟨read, broken⟩)
    · simp only [load, unread]
    · simp only [load, read, broken]

end SchemaSource

namespace Schemas

open SchemaSource (HasDocument Unavailable)

/-- Some schemas are those of a directory: one for each kind, made of the document of the kind. -/
def AreIn [SchemaCompiler] (base : String) (files : FileReader) (schemas : Schemas) : Prop :=
  ∃ schema : Kind → Json → List Fault, schemas = Kind.all.map (fun kind => (kind, schema kind)) ∧
    ∀ kind, ∃ document, HasDocument base files kind document ∧
      SchemaCompiler.compile? files document = some (schema kind)

/-- Why the schemas of a directory cannot be had: the first document that is not there, or, if all are, the first that
makes no schema. -/
inductive FirstFault [SchemaCompiler] (base : String) (files : FileReader) : SchemaError → Prop
  | unavailable {before after : List Kind} {kind : Kind} {e : SchemaError} (order : Kind.all = before ++ kind :: after)
      (earlier : ∀ k ∈ before, ∃ document, HasDocument base files k document)
      (here : Unavailable base files kind e) : FirstFault base files e
  | noSchema {before after : List Kind} {kind : Kind} {document : Json} (order : Kind.all = before ++ kind :: after)
      (there : ∀ k, ∃ document, HasDocument base files k document)
      (earlier : ∀ k ∈ before, ∃ document schema,
        HasDocument base files k document ∧ SchemaCompiler.compile? files document = some schema)
      (here : HasDocument base files kind document) (broken : SchemaCompiler.compile? files document = none) :
      FirstFault base files (.compile kind)

variable {base : String} {files : FileReader} {documents : Kind → Json}

/-! ## Documents -/

theorem load_entry_eq_ok {kind : Kind} {document : Json} (there : HasDocument base files kind document) :
    ((SchemaSource.directory base).load files kind).map (fun document => (kind, document)) = .ok (kind, document) :=
  map_eq_ok.mpr ⟨document, SchemaSource.load_directory_eq_ok.mpr there, rfl⟩

theorem load_entry_eq_error {kind : Kind} {e : SchemaError} :
    ((SchemaSource.directory base).load files kind).map (fun document => (kind, document)) = .error e ↔
      Unavailable base files kind e := by
  rw [← SchemaSource.load_directory_eq_error]
  cases (SchemaSource.directory base).load files kind <;> simp [Except.map]

theorem loadAll_eq_ok (there : ∀ kind, HasDocument base files kind (documents kind)) :
    loadAll (.directory base) files = .ok (Kind.all.map fun kind => (kind, documents kind)) :=
  mapM_eq_map fun kind _ => load_entry_eq_ok (there kind)

/-- If all documents are loaded, every kind has one. -/
theorem exists_documents {loaded : List (Kind × Json)} (done : loadAll (.directory base) files = .ok loaded) :
    ∃ documents : Kind → Json, ∀ kind, HasDocument base files kind (documents kind) := by
  have each : ∀ kind, ∃ document, HasDocument base files kind document := by
    intro kind
    rcases exists_of_mapM done kind kind.mem_all with ⟨entry, loads⟩
    rcases map_eq_ok.mp loads with ⟨document, loads, _⟩
    exact ⟨document, SchemaSource.load_directory_eq_ok.mp loads⟩
  exact Classical.skolem.mp each

/-- A kind has one document. -/
theorem document_eq {kind : Kind} {document : Json} (there : HasDocument base files kind document)
    (alsoThere : HasDocument base files kind (documents kind)) : document = documents kind := by
  rcases there with ⟨text, read, parsed⟩
  rcases alsoThere with ⟨_, alsoRead, alsoParsed⟩
  rw [read] at alsoRead
  cases alsoRead
  rw [parsed] at alsoParsed
  exact Option.some.inj alsoParsed

/-! ## Schemas -/

variable [SchemaCompiler]

/-- What compiling the document of one kind comes to. -/
def entry (files : FileReader) (documents : Kind → Json) (kind : Kind) :
    Except SchemaError (Kind × (Json → List Fault)) :=
  match SchemaCompiler.compile? files (documents kind) with
  | some schema => .ok (kind, schema)
  | none => .error (.compile kind)

theorem compile_map (files : FileReader) (documents : Kind → Json) :
    compile files (Kind.all.map fun kind => (kind, documents kind)) = Kind.all.mapM (entry files documents) :=
  List.mapM_map

theorem entry_eq_ok {kind : Kind} {made : Kind × (Json → List Fault)} :
    entry files documents kind = .ok made ↔ ∃ schema, SchemaCompiler.compile? files (documents kind) = some schema ∧
      (kind, schema) = made := by
  rw [entry]
  cases SchemaCompiler.compile? files (documents kind) <;> simp

theorem entry_eq_error {kind : Kind} {e : SchemaError} :
    entry files documents kind = .error e ↔
      SchemaCompiler.compile? files (documents kind) = none ∧ .compile kind = e := by
  rw [entry]
  cases SchemaCompiler.compile? files (documents kind) <;> simp

/-- With every document there, the schemas are what the documents compile to. -/
theorem ofSource_eq (there : ∀ kind, HasDocument base files kind (documents kind)) :
    ofSource (.directory base) files = Kind.all.mapM (entry files documents) := by
  rw [ofSource, loadAll_eq_ok there]
  exact compile_map files documents

/-! ## What loading comes to -/

/-- Loading gives exactly the schemas of the directory. -/
theorem ofSource_eq_ok {schemas : Schemas} :
    ofSource (.directory base) files = .ok schemas ↔ AreIn base files schemas := by
  constructor
  · intro done
    cases loaded : loadAll (.directory base) files with
    | error e =>
        rw [ofSource, loaded] at done
        cases done
    | ok list =>
        rcases exists_documents loaded with ⟨documents, there⟩
        rw [ofSource_eq there] at done
        have each : ∀ kind, ∃ schema, SchemaCompiler.compile? files (documents kind) = some schema := by
          intro kind
          rcases exists_of_mapM done kind kind.mem_all with ⟨_, made⟩
          rcases entry_eq_ok.mp made with ⟨schema, compiles, _⟩
          exact ⟨schema, compiles⟩
        rcases Classical.skolem.mp each with ⟨schema, compiles⟩
        rw [mapM_eq_map fun kind _ => entry_eq_ok.mpr ⟨schema kind, compiles kind, rfl⟩] at done
        cases done
        exact ⟨schema, rfl, fun kind => ⟨documents kind, there kind, compiles kind⟩⟩
  · rintro ⟨schema, rfl, each⟩
    rcases Classical.skolem.mp each with ⟨documents, made⟩
    rw [ofSource_eq fun kind => (made kind).1]
    exact mapM_eq_map fun kind _ => entry_eq_ok.mpr ⟨schema kind, (made kind).2, rfl⟩

/-- Loading fails exactly for the first document at fault. -/
theorem ofSource_eq_error {e : SchemaError} :
    ofSource (.directory base) files = .error e ↔ FirstFault base files e := by
  constructor
  · intro failed
    -- Nothing is compiled before everything is loaded, so the two sorts of fault never compete.
    cases loaded : loadAll (.directory base) files with
    | error d =>
        rw [ofSource, loaded] at failed
        cases failed
        rcases mapM_eq_error.mp loaded with ⟨before, kind, after, order, earlier, here⟩
        refine .unavailable order (fun k member => ?_) (load_entry_eq_error.mp here)
        rcases earlier k member with ⟨_, loads⟩
        rcases map_eq_ok.mp loads with ⟨document, loads, _⟩
        exact ⟨document, SchemaSource.load_directory_eq_ok.mp loads⟩
    | ok list =>
        rcases exists_documents loaded with ⟨documents, there⟩
        rw [ofSource_eq there] at failed
        rcases mapM_eq_error.mp failed with ⟨before, kind, after, order, earlier, here⟩
        rcases entry_eq_error.mp here with ⟨broken, rfl⟩
        refine .noSchema order (fun k => ⟨documents k, there k⟩) (fun k member => ?_) (there kind) broken
        rcases earlier k member with ⟨_, made⟩
        rcases entry_eq_ok.mp made with ⟨schema, compiles, _⟩
        exact ⟨documents k, schema, there k, compiles⟩
  · rintro (⟨order, earlier, here⟩ | ⟨order, there, earlier, here, broken⟩)
    · have failed : loadAll (.directory base) files = .error e := by
        refine mapM_eq_error.mpr ⟨_, _, _, order, fun k member => ?_, load_entry_eq_error.mpr here⟩
        rcases earlier k member with ⟨document, has⟩
        exact ⟨_, load_entry_eq_ok has⟩
      rw [ofSource, failed]
      rfl
    · rcases Classical.skolem.mp there with ⟨documents, has⟩
      rw [ofSource_eq has]
      refine mapM_eq_error.mpr ⟨_, _, _, order, fun k member => ?_, entry_eq_error.mpr ⟨?_, rfl⟩⟩
      · rcases earlier k member with ⟨document, schema, alsoHas, compiles⟩
        rw [document_eq alsoHas (has k)] at compiles
        exact ⟨_, entry_eq_ok.mpr ⟨schema, compiles, rfl⟩⟩
      · rwa [← document_eq here (has _)]

/-- The schemas of a directory can be had, or there is a first document at fault. -/
theorem areIn_or_firstFault (base : String) (files : FileReader) :
    (∃ schemas, AreIn base files schemas) ∨ ∃ e, FirstFault base files e := by
  cases read : ofSource (.directory base) files with
  | ok schemas => exact .inl ⟨schemas, ofSource_eq_ok.mp read⟩
  | error e => exact .inr ⟨e, ofSource_eq_error.mp read⟩

end Schemas
end ProductGraph
