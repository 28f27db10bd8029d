import ProductGraph.Document.Basic
import ProductGraph.Document.Options
import ProductGraph.Identifier
import ProductGraph.Item.Writing
import ProductGraph.Json.Printer
import ProductGraph.Json.Walk
import ProductGraph.Markup.Fragment
import ProductGraph.Time.Timestamp

/-!
# The normal form of fields

Documents spell the same content in several ways: a reference may be wrapped in an object, a text may be a single
entry or a list of them, a number may be written as text, a name may lack its namespace.  Reading a document
brings each field to one form.

Nothing is refused here.  A value that none of the spellings explains stays as it is, so that validation can say
what is wrong with it.
-/

namespace ProductGraph
namespace Normal

/-! ## Walks over a whole value -/

/-- Rename the fields of every object.  Of fields that come to the same name the last one stays. -/
def renamed (newName? : String → Option String) : Walk :=
  ⟨id, fun fields => .object (Keyed.ofList (fields.map fun f => ((newName? f.1).getD f.1, f.2)))⟩

/-- An object that is nothing but an identifier is that identifier. -/
def unwrapped (fields : Fields) : Json :=
  match fields with
  | [(name, .string s)] => if name == "id" then .string s else .object fields
  | _ => .object fields

/-- Take every identifier out of the object that wraps it. -/
def unwrapping : Walk := ⟨id, unwrapped⟩

/-- A text that is an identifier, wrapped in an object. -/
def wrapped (value : Json) : Json :=
  match value with
  | .string s => if isIdentifier s then .object [("id", .string s)] else value
  | _ => value

/-- Wrap every identifier in an object. -/
def wrapping : Walk := ⟨wrapped, .object⟩

/-! ## Spellings of single values -/

mutual

/-- The entries of a text in several languages, in whichever way it is spelled. -/
def languageTexts : Json → List LanguageText
  | .null => []
  | .array list => languageTextsOfItems list
  | .object fields =>
    [⟨((Keyed.get? fields "value").bind Json.scalarText?).getD "", (Keyed.get? fields "lang").bind Json.text?⟩]
  | value => [⟨(Json.scalarText? value).getD "", none⟩]

/-- The entries that several values spell. -/
def languageTextsOfItems : List Json → List LanguageText
  | [] => []
  | value :: rest => languageTexts value ++ languageTextsOfItems rest

end

/-- Names that a literal with a language or a type may have. -/
def literalNames : List String := ["value", "lang", "@type"]

/-- An object that is nothing but a literal is its value. -/
def literal (fields : Fields) : Json :=
  if fields.names.all literalNames.contains then (fields.get? "value").getD (.object fields) else .object fields

mutual

/-- A value, or the values of an array, without the objects that make them literals. -/
def plain : Json → Json
  | .object fields => literal fields
  | .array list => .array (plainItems list)
  | value => value

/-- The items of an array without the objects that make them literals. -/
def plainItems : List Json → List Json
  | [] => []
  | value :: rest => plain value :: plainItems rest

end

def onText (change : String → String) (value : Json) : Json :=
  match value with
  | .string s => .string (change s)
  | _ => value

def onTexts (change : String → String) (value : Json) : Json :=
  match value with
  | .array list => .array (list.map (onText change))
  | _ => onText change value

/-- The items of an array; any other value is its only item. -/
def itemsOf (value : Json) : List Json :=
  match value with
  | .array list => list
  | _ => [value]

/-- A name with a namespace; anything but a bare name has one or needs none. -/
def inNamespace (scope : String) (s : String) : String :=
  if isBareName s then scope ++ ":" ++ s else s

/-- A text that is a count as that count. -/
def count (value : Json) : Json :=
  match value with
  | .string s =>
    if Text.trimmed s == "unbounded" then .nat unbounded
    else
      match unsigned? (Nat.pow 2 64) (Text.trim s.toList) with
      | some n => .nat n
      | none => value
  | _ => value

def number (value : Json) : Json :=
  match value with
  | .string s =>
    match RealValue.ofText? (Text.trim s.toList) with
    | some (.finite x) => .number (.real x)
    | _ => value
  | _ => value

/-! ## Fields -/

/-- A field of a fragment; its kind is told by where it stands. -/
def fragmentField? (options : ReadingOptions) (name : String) (value : Json) : Option Json :=
  match name with
  | "itemType" => none
  | "hasClass" => some (onTexts (inNamespace options.classNamespace) (plain value))
  | "idRef" => some (onTexts (inNamespace options.dataNamespace) (plain value))
  | "value" => some (((Json.scalarText? value).map .string).getD value)
  | _ => some value

def fragment (options : ReadingOptions) (value : Json) : Json :=
  match value with
  | .object fields =>
    .object (fields.filterMap fun f => (fragmentField? options f.1 f.2).map fun v => (f.1, v))
  | _ => value

/-- The namespace that bare identifiers of a kind belong to. -/
def identifierNamespace (options : ReadingOptions) (kind : Option Kind) : String :=
  if kind.any Kind.isClass then options.classNamespace else options.dataNamespace

/-- The entries of a text; those of a rich text are markup. -/
def textEntry (name : String) (entry : LanguageText) : Json :=
  Writing.languageText
    (if Vocabulary.richFields.contains name then { entry with value := Markup.asMarkup entry.value } else entry)

/-- A field that holds no text, references in it unwrapped. -/
def plainField (options : ReadingOptions) (kind : Option Kind) (name : String) (value : Json) : Json :=
  if (Vocabulary.fragmentFields.map (·.1)).contains name then .array ((itemsOf value).map (fragment options))
  else
    let value := plain value
    if name == "id" then onTexts (inNamespace (identifierNamespace options kind)) value
    else if name == "idRef" then onTexts (inNamespace options.dataNamespace) value
    else if name == "modified" then onTexts Time.canonical value
    else if Vocabulary.classFields.contains name then onTexts (inNamespace options.classNamespace) value
    else if Vocabulary.countFields.contains name then count value
    else if Vocabulary.numberFields.contains name then number value
    else value

/-- A field of an item or a header, if there is such a field and it says anything. -/
def field? (options : ReadingOptions) (kind : Option Kind) (name : String) (value : Json) : Option Json :=
  if !Vocabulary.isField name then none
  else if Vocabulary.textFields.contains name then
    let entries := languageTexts value
    if entries.isEmpty then none else some (.array (entries.map (textEntry name)))
  else
    let value := plainField options kind name (unwrapping.run value)
    if value.isNull then none else some value

/-- The fields of an item or a header. -/
def fields (options : ReadingOptions) (kind : Option Kind) (given : Fields) : Fields :=
  given.filterMap fun f => (field? options kind f.1 f.2).map fun v => (f.1, v)

end Normal
end ProductGraph
