import ProductGraph.Item.Data
import ProductGraph.Markup.Sanitize
import ProductGraph.Text.Wrap

/-!
# Items as text

An item is shown by its kind and identifier, where it comes from, its description as plain text, what it declares,
its properties and its links.  Texts in several languages are shown in one.
-/

namespace ProductGraph
namespace Render

def inQuotes (s : String) : String := "\"" ++ s ++ "\""

def cut (s : String) : String := String.ofList (Text.truncate 60 s.toList)

def occurs (min max : Option Nat) : String :=
  let upper := max.getD 1
  toString (min.getD 0) ++ ".." ++ if upper = unbounded then "*" else toString upper

def valueText (p : PropertyValue) : String :=
  match p.lang with
  | some lang => cut p.value ++ " (" ++ lang ++ ")"
  | none => cut p.value

def list (ids : List String) : String := if ids.isEmpty then "(none)" else Text.join ", " ids

def line (s : String) : String := s ++ "\n"

/-- A line that shows something, if it is there. -/
def lineOf {α : Type} (thing : Option α) (text : α → String) : String :=
  match thing with
  | some a => line (text a)
  | none => ""

def propertyLine (p : PropertyValue) : String := line ("  " ++ p.hasClass ++ "  " ++ valueText p)

/-- A link, with an arrow that shows its direction. -/
def linkLine (arrow : String) (l : LinkValue) : String := line ("  " ++ l.hasClass ++ "  " ++ arrow ++ " " ++ l.idRef)

/-- The first line: kind, identifier and title. -/
def heading (d : ItemData) (lang : String) : String :=
  line ("[" ++ d.kind.tag ++ "]" ++
    match d.identifiable with
    | none => ""
    | some i =>
      " " ++ i.id ++
        match LanguageText.preferred i.title lang with
        | some title => "  " ++ inQuotes title
        | none => "")

/-- What an item comes from: its parent, or its class unless that is its kind; and when it was modified. -/
def origin (d : ItemData) : List String :=
  (match d.parent? with
    | some parent => ["specializes: " ++ parent]
    | none => ((d.hasClass.filter (· != d.kind.tag)).map ("class: " ++ ·)).toList) ++
    ((d.individual.bind (·.modified)).map ("modified: " ++ ·)).toList

def description (d : ItemData) (lang : String) : String :=
  match d.identifiable.bind fun i => LanguageText.preferred i.description lang with
  | some text => "\n" ++ line (String.ofList (Text.wrap 80 (Markup.plain text.toList)))
  | none => ""

/-- What an item declares, or what a fragment is. -/
def declaration (d : ItemData) : String :=
  match d with
  | .propertyClass p =>
    "\n" ++ line ("datatype: " ++ p.datatype.getD "(inherited)" ++ "  occurs: " ++ occurs p.minCount p.maxCount)
  | .linkClass l => lineOf l.eligibleEndpoint fun ids => "\nEligible endpoints: " ++ list ids
  | .entityClass e =>
    (lineOf e.element.eligibleProperty fun ids => "\nEligible properties: " ++ list ids) ++
      lineOf e.eligibleTargetLink fun ids => "Eligible target links: " ++ list ids
  | .relationshipClass r =>
    (lineOf r.element.eligibleProperty fun ids => "\nEligible properties: " ++ list ids) ++
      (lineOf r.eligibleSourceLink fun id => "Source link: " ++ id) ++
      lineOf r.eligibleTargetLink fun id => "Target link: " ++ id
  | .property p => propertyLine p
  | .sourceLink l | .targetLink l => linkLine "→" l
  | .entity _ | .relationship _ => ""

def properties (d : ItemData) : String :=
  if d.properties.isEmpty then "" else "\nProperties:\n" ++ String.join (d.properties.map propertyLine)

def links (d : ItemData) : String :=
  if d.sourceLinks.isEmpty && d.targetLinks.isEmpty then ""
  else
    "\nLinks:\n" ++ String.join (d.sourceLinks.map (linkLine "←")) ++ String.join (d.targetLinks.map (linkLine "→"))

/-- An item as text, in a language. -/
def item (d : ItemData) (lang : String) : String :=
  heading d lang ++ (if (origin d).isEmpty then "" else line (Text.join "  " (origin d))) ++ description d lang ++
    declaration d ++ properties d ++ links d

end Render
end ProductGraph
