import ProductGraph.Command.Outcome

/-!
# The program

The command line is read, then the files that it may need, then it is done.  All decisions are made elsewhere.
-/

namespace ProductGraph
namespace Command

/-- The reason for which a file cannot be read. -/
def fileError : IO.Error → FileError
  | .noFileOrDirectory .. => .notFound
  | .inappropriateType .. => .isADirectory
  | e => .other (toString e)

/-- Read a text, keeping the reason if it cannot be read. -/
def readText (source : IO ByteArray) : IO (Except FileError String) := do
  match ← source.toBaseIO with
  | .error e => return .error (fileError e)
  | .ok bytes =>
    match String.fromUTF8? bytes with
    | some text => return .ok text
    | none => return .error .notText

/-- The environment, as far as it concerns the program. -/
def environment : IO Environment := do
  let names := ["PIG_ONTOLOGY_PREFIX", "PIG_DATA_PREFIX", "PIG_DEFAULT_LANGUAGE", "PIG_SCHEMA_DIR", "PIG_SCHEMA_URL"]
  let values ← names.mapM fun name => return (name, ← IO.getEnv name)
  return fun name => (values.find? (fun v => v.1 == name)).bind (·.2)

/-- Run the program with some arguments and return its exit code. -/
def perform (args : List String) : IO UInt32 := do
  let request := Request.ofArguments (← environment) args
  let input ← if request.readsInput then readText (do (← IO.getStdin).readBinToEnd) else pure (.ok "")
  let texts ← request.paths.mapM fun (path : String) => return (path, ← readText (IO.FS.readBinFile path))
  let files : FileReader := fun path => ((texts.find? (fun t => t.1 == path)).map (·.2)).getD (.error .notFound)
  let outcome := request.run input files
  (← IO.getStdout).putStr outcome.output
  outcome.errors.forM fun line => do (← IO.getStderr).putStrLn line
  return outcome.exitCode.toUInt32

end Command
end ProductGraph

def main (args : List String) : IO UInt32 := ProductGraph.Command.perform args
