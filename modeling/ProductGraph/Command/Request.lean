import ProductGraph.Consistency.Basic
import ProductGraph.Document.Format
import ProductGraph.Document.Options
import ProductGraph.Schema.Store

/-!
# What a command line asks for

A command line names an action, the file of a document and options.  Options and the file may come in any order;
an option may be spelled long or short, with its value attached or after it, and only one of them may be repeated.
After a bare double hyphen nothing is an option.

What the command line leaves open may be said by the environment.  A line that makes no sense is misuse; nothing is
read or written for it.
-/

namespace ProductGraph
namespace Command

/-- What the environment says under a name. -/
abbrev Environment := String → Option String

/-- An action of the program. -/
inductive Verb where
  | validate
  | convert
  | render
  deriving DecidableEq

namespace Verb

def all : List Verb := [validate, convert, render]

def name : Verb → String
  | validate => "validate"
  | convert => "convert"
  | render => "render"

def ofName? (s : String) : Option Verb := all.find? (fun v => v.name == s)

end Verb

/-- An option of an action. -/
inductive Setting where
  | format
  | schemaDirectory
  | schemaAddress
  | skip
  | target
  | lang
  deriving DecidableEq

namespace Setting

def long : Setting → String
  | format => "format"
  | schemaDirectory => "schema-dir"
  | schemaAddress => "schema-url"
  | skip => "skip"
  | target => "to"
  | lang => "lang"

def letter? : Setting → Option Char
  | format => some 'f'
  | target => some 't'
  | lang => some 'l'
  | _ => none

def ofVerb : Verb → List Setting
  | .validate => [format, schemaDirectory, schemaAddress, skip]
  | .convert => [format, schemaDirectory, schemaAddress, target]
  | .render => [format, schemaDirectory, schemaAddress, lang]

/-- How an option is named on a command line. -/
inductive Name where
  | word (word : String)
  | letter (letter : Char)
  deriving DecidableEq

def ofName? (verb : Verb) (name : Name) : Option Setting :=
  (ofVerb verb).find? fun o =>
    match name with
    | .word word => o.long == word
    | .letter letter => o.letter? == some letter

end Setting

/-- What was read from a command line so far. -/
structure Settings where
  file : Option String
  format : Option Format
  schemaDirectory : Option String
  schemaAddress : Option String
  skip : List Check
  target : Option Format
  lang : Option String

namespace Settings

def empty : Settings := ⟨none, none, none, none, [], none, none⟩

/-- A value for what has none yet. -/
def fresh {α : Type} (old new : Option α) : Option α := if old.isSome then none else new

/-- A path; there is no empty one. -/
def path? (s : String) : Option String := if s.isEmpty then none else some s

/-- The settings with an option set, unless its value makes no sense or it has one. -/
def put? (s : Settings) (option : Setting) (value : String) : Option Settings :=
  match option with
  | .format => (fresh s.format (Format.ofName? value)).map fun f => { s with format := some f }
  | .schemaDirectory => (fresh s.schemaDirectory (path? value)).map fun d => { s with schemaDirectory := some d }
  | .schemaAddress => (fresh s.schemaAddress (some value)).map fun a => { s with schemaAddress := some a }
  | .skip => (Check.ofName? value).map fun c => { s with skip := s.skip ++ [c] }
  | .target => (fresh s.target (Format.ofName? value)).map fun f => { s with target := some f }
  | .lang => (fresh s.lang (some value)).map fun l => { s with lang := some l }

/-- The settings with the file, unless there is one. -/
def putFile? (s : Settings) (value : String) : Option Settings :=
  (fresh s.file (path? value)).map fun f => { s with file := some f }

end Settings

/-- What the arguments of an action come to. -/
inductive Arguments where
  | settings (settings : Settings)
  | help
  | misuse

namespace Arguments

/-- Go on with settings if there are any. -/
def after (settings : Option Settings) (next : Settings → Arguments) : Arguments :=
  match settings with
  | some s => next s
  | none => misuse

/-- The files among arguments that are no options. -/
def ofFiles (s : Settings) : List String → Arguments
  | [] => settings s
  | file :: rest => after (s.putFile? file) fun s => ofFiles s rest

/-- Whether an argument can be the value of an option before it. -/
def isValue (arg : String) : Bool := arg.toList.head? != some '-' || arg == "-"

/-- An argument as it is looked at where a value is not expected: an option with the value attached to it, the end
of all options, or a file. -/
inductive Shape where
  | option (name : Setting.Name) (attached : Option String)
  | endOfOptions
  | file

def shape (arg : String) : Shape :=
  match arg.toList with
  | ['-', '-'] => .endOfOptions
  | '-' :: '-' :: body =>
    let attached := match body.dropWhile (· != '=') with | _ :: value => some (String.ofList value) | [] => none
    .option (.word (String.ofList (body.takeWhile (· != '=')))) attached
  | '-' :: letter :: body =>
    let attached := match body with | [] => none | '=' :: value => some (String.ofList value) | _ => some (String.ofList body)
    .option (.letter letter) attached
  | _ => .file

def Shape.isHelp : Shape → Bool
  | .option (.word word) attached => word == "help" && attached.isNone
  | .option (.letter letter) _ => letter == 'h'
  | _ => false

def Shape.isVersion : Shape → Bool
  | .option (.word word) attached => word == "version" && attached.isNone
  | .option (.letter letter) _ => letter == 'V'
  | _ => false

/-- What the arguments of an action come to, from left to right; `waiting` is an option whose value comes next.
Asking for help ends the reading. -/
def ofList (verb : Verb) (waiting : Option Setting) (s : Settings) : List String → Arguments
  | [] => if waiting.isSome then misuse else settings s
  | arg :: rest =>
    match waiting, shape arg with
    | some option, _ => if isValue arg then after (s.put? option arg) fun s => ofList verb none s rest else misuse
    | none, .endOfOptions => ofFiles s rest
    | none, .file => after (s.putFile? arg) fun s => ofList verb none s rest
    | none, .option name attached =>
      if (Shape.option name attached).isHelp then help
      else
        match Setting.ofName? verb name, attached with
        | some option, some value => after (s.put? option value) fun s => ofList verb none s rest
        | some option, none => ofList verb (some option) s rest
        | none, _ => misuse

end Arguments

/-- What is done with a package once it is read. -/
inductive Action where
  | validate (checks : CheckSet)
  | convert (target : Format)
  | render (lang : String)

/-- A task: a document, where its schemas come from, what to assume, and what to do. -/
structure Task where
  file : String
  format : Option Format
  schemas : SchemaSource
  options : ReadingOptions
  action : Action

/-- What a command line asks for. -/
inductive Request where
  | task (task : Task)
  | help
  | version
  | misuse

namespace Request

/-- What the environment says, unless it is blank. -/
def said (environment : Environment) (name usual : String) : String :=
  ((environment name).filter (fun s => !Text.isBlankText s)).getD usual

def readingOptions (environment : Environment) : ReadingOptions :=
  ⟨said environment "PIG_ONTOLOGY_PREFIX" ReadingOptions.standard.classNamespace,
   said environment "PIG_DATA_PREFIX" ReadingOptions.standard.dataNamespace,
   said environment "PIG_DEFAULT_LANGUAGE" ReadingOptions.standard.defaultLanguage⟩

/-- Where schemas come from; nothing if two places are named or one cannot be. -/
def source? (directory address : Option String) : Option SchemaSource :=
  match directory, address with
  | none, none => some .library
  | some directory, none => (Settings.path? directory).map .directory
  | none, some address => some (.address address)
  | some _, some _ => none

def action? (verb : Verb) (s : Settings) : Option Action :=
  match verb with
  | .validate => some (.validate (s.skip.foldl CheckSet.without CheckSet.all))
  | .convert => s.target.map .convert
  | .render => some (.render (s.lang.getD "en"))

def task? (environment : Environment) (verb : Verb) (s : Settings) : Option Task := do
  let file ← s.file
  let action ← action? verb s
  let schemas ← source? (s.schemaDirectory.or (environment "PIG_SCHEMA_DIR"))
    (s.schemaAddress.or (environment "PIG_SCHEMA_URL"))
  return ⟨file, s.format, schemas, readingOptions environment, action⟩

/-- Whether arguments ask for help with a command. -/
def isHelpTopic : List String → Bool
  | [] => true
  | [topic] => topic == "help" || (Verb.ofName? topic).isSome
  | _ => false

def ofArguments (environment : Environment) : List String → Request
  | [] => misuse
  | first :: rest =>
    match Verb.ofName? first with
    | some verb =>
      match Arguments.ofList verb none .empty rest with
      | .settings s => ((task? environment verb s).map task).getD misuse
      | .help => help
      | .misuse => misuse
    | none =>
      if (Arguments.shape first).isHelp || (first == "help" && isHelpTopic rest) then help
      else if (Arguments.shape first).isVersion then version
      else misuse

end Request

end Command
end ProductGraph
