import ProductGraph.Package.Basic
import ProductGraph.Render.Item

/-!
# Packages as text

A package is shown by its title and a rule below it, then its items kind by kind, a line each, and last the items
without content.
-/

namespace ProductGraph
namespace Render

/-- What the line of an item shows after its identifier and title. -/
def remark (d : ItemData) : String :=
  match d with
  | .propertyClass p =>
    (match p.datatype with | some datatype => "  " ++ datatype | none => "") ++
      " [" ++ occurs p.minCount p.maxCount ++ "]"
  | .entity _ | .relationship _ => match d.hasClass with | some c => "  (" ++ c ++ ")" | none => ""
  | .property p => p.hasClass ++ "  " ++ valueText p
  | .sourceLink l | .targetLink l => l.hasClass ++ "  → " ++ l.idRef
  | _ => match d.parent? with | some parent => "  < " ++ parent | none => ""

/-- The identifier and title of an item in a line. -/
def entry (d : ItemData) (lang : String) : String :=
  match d.identifiable with
  | none => ""
  | some i =>
    i.id ++
      match LanguageText.preferred i.title lang with
      | some title => "  " ++ inQuotes (cut title)
      | none => ""

/-- The kinds with the headings that their items stand under. -/
def sections : List (Kind × String) :=
  [(.propertyClass, "PROPERTY CLASSES"), (.linkClass, "LINK CLASSES"), (.entityClass, "ENTITY CLASSES"),
   (.relationshipClass, "RELATIONSHIP CLASSES"), (.entityInstance, "ENTITIES"),
   (.relationshipInstance, "RELATIONSHIPS"), (.propertyValue, "PROPERTY VALUES"),
   (.sourceLinkValue, "SOURCE LINKS"), (.targetLinkValue, "TARGET LINKS")]

/-- Lines under a heading with their number; nothing if there are none. -/
def headed (label : String) (lines : List String) : String :=
  if lines.isEmpty then ""
  else "\n" ++ line (label ++ " (" ++ toString lines.length ++ ")") ++ String.join (lines.map fun l => line ("  " ++ l))

def title (p : Package) (lang : String) : String :=
  "PIG Package" ++ (match p.header.id with | some id => " " ++ id | none => "") ++
    (match LanguageText.preferred p.header.title lang with | some t => "  " ++ inQuotes t | none => "") ++
    "  " ++ toString p.items.length ++ (if p.items.length = 1 then " item" else " items")

def emptyItem (item : Item) : String := item.fixedId.getD "(no id)" ++ "  [" ++ item.kind.tag ++ "]"

/-- A package as text, in a language. -/
def package (p : Package) (lang : String) : String :=
  let title := title p lang
  line title ++ line (String.ofList (List.replicate title.length '─')) ++
    String.join (sections.map fun (kind, label) =>
      headed label ((p.graph.ofKind kind).map fun d => entry d lang ++ remark d)) ++
    headed "INVALID" ((p.items.filter fun i => !i.isValid).map emptyItem)

end Render
end ProductGraph
