import ProductGraph.Command.Request
import ProductGraph.Package.Import
import ProductGraph.Render.Package

/-!
# What a command does

A task reads its document, finds out the format, gets the schemas, and only then looks into the document.  What goes
wrong on this way is reported and nothing else is done; items that are refused do not stop a task.

The outcome is what is written and the exit code: zero for success, one for a package that is not clean, two where
there is no package to speak of.
-/

namespace ProductGraph
namespace Command

/-- What a command writes and the code that it ends with. -/
structure Outcome where
  exitCode : Nat
  output : String
  errors : List String
  deriving DecidableEq

namespace Outcome

def success (output : String) : Outcome := ⟨0, output, []⟩

/-- A failure that leaves nothing to do. -/
def failure (message : String) : Outcome := ⟨2, "", ["pig: " ++ message]⟩

end Outcome

def usage : String :=
  "Usage: pig <validate|convert|render> [OPTIONS] <FILE>\n\n" ++
  "validate  check a package: --skip <CHECK>, once for each check to leave out\n" ++
  "convert   write a package in another format: -t, --to <FORMAT>\n" ++
  "render    show a package as text: -l, --lang <LANG>\n\n" ++
  "A file named - is standard input.  Every action takes -f, --format <jsonld|xml>, and --schema-dir <DIR> or\n" ++
  "--schema-url <URL>.\n"

def version : String := "pig 0.1.0\n"

def misuse : Outcome := ⟨2, "", [usage]⟩

namespace Task

def document (task : Task) (input : Except FileError String) (files : FileReader) : Except String String :=
  if task.file == "-" then input.mapError fun e => "failed to read stdin: " ++ e.message
  else (files task.file).mapError fun e => "failed to read " ++ task.file ++ ": " ++ e.message

/-- The format of a document: as it is given, as the name of the file shows, or as the document begins. -/
def formatOf (task : Task) (document : String) : Except String Format :=
  match task.format.or (((Path.extension? task.file).bind Format.ofExtension?).or (Format.ofBeginning? document)) with
  | some format => .ok format
  | none => .error "cannot tell the input format; pass --format jsonld|xml"

def checks (task : Task) : CheckSet :=
  match task.action with
  | .validate checks => checks
  | _ => .all

/-- The package of a task and how reading it went. -/
def package (task : Task) (input : Except FileError String) (files : FileReader) :
    Except String (Package × ImportReport) := do
  let document ← task.document input files
  let format ← task.formatOf document
  let told (e : PackageError) : String := "[" ++ e.status.display ++ "] " ++ e.message
  let schemas ← (Schemas.ofSource task.schemas files).mapError fun e => told (.schema e)
  (Package.ofText schemas.validator task.checks task.options format document).mapError told

/-- The report of reading a package, as it is shown. -/
def reportText (report : ImportReport) : String :=
  let verdict :=
    match report.violation with
    | none => "consistent"
    | some v => "inconsistent: [" ++ v.status.display ++ "] " ++ v.message
  report.summary ++ "\n" ++ String.join (report.failures.map fun f => "  " ++ f.message ++ "\n") ++ verdict ++ "\n"

def finish (action : Action) (package : Package) (report : ImportReport) : Outcome :=
  match action with
  | .validate _ => ⟨if report.isClean then 0 else 1, reportText report, []⟩
  | .convert target =>
    let skipped := report.failures.map fun f => "skipped " ++ f.message
    match package.text target with
    | .ok text => ⟨0, text ++ "\n", skipped⟩
    | .error e => ⟨2, "", skipped ++ ["pig: failed to encode as " ++ target.name ++ ": " ++ e.message]⟩
  | .render lang => .success (Render.package package lang)

def run (task : Task) (input : Except FileError String) (files : FileReader) : Outcome :=
  match task.package input files with
  | .ok (package, report) => finish task.action package report
  | .error message => .failure message

def paths (task : Task) : List String := (if task.file == "-" then [] else [task.file]) ++ task.schemas.paths

end Task

namespace Request

def run (request : Request) (input : Except FileError String) (files : FileReader) : Outcome :=
  match request with
  | .task t => t.run input files
  | .help => .success usage
  | .version => .success Command.version
  | .misuse => Command.misuse

def paths : Request → List String
  | .task t => t.paths
  | _ => []

def readsInput : Request → Bool
  | .task t => t.file == "-"
  | _ => false

end Request

end Command
end ProductGraph
