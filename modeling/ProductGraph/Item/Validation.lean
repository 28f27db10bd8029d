import ProductGraph.Item.Error
import ProductGraph.Pattern.Meaning
import ProductGraph.Time.Timestamp

/-!
# What a single item has to obey

These checks see one item and nothing else.  Whether what it refers to exists is a question about the graph.
The first rule that is broken is reported: texts before the origin of a class, and that before what is peculiar
to a kind.
-/

namespace ProductGraph
namespace Validation

/-- What is wrong with an entry among so many.  A lone entry may go without a language tag. -/
def entryFault? (entries : Nat) (entry : LanguageText) : Option TextFault :=
  match entry.lang with
  | none => if 1 < entries then some (.untagged entries) else none
  | some lang =>
    if lang.isEmpty then some .emptyTag
    else if LanguageText.isTag lang then none
    else some (.notATag lang)

/-- The first entry at fault, from a position on. -/
def textFrom (field : String) (count index : Nat) : List LanguageText → Except ItemError Unit
  | [] => .ok ()
  | entry :: rest =>
    match entryFault? count entry with
    | some fault => .error (.text field index fault)
    | none => textFrom field count (index + 1) rest

/-- A text in several languages: of two or more entries each has a language tag. -/
def text (field : String) (entries : List LanguageText) : Except ItemError Unit :=
  textFrom field entries.length 0 entries

/-- A class is a root, which names its own kind as its class, or specializes another; never both. -/
def classOrigin (d : ItemData) (i : Identifiable) : Except ItemError Unit :=
  match d.hasClass, i.specializes with
  | some _, some _ | none, none => .error (.classOrigin i.id)
  | some root, none => if root = d.kind.tag then .ok () else .error (.rootClass i.id d.kind.tag root)
  | none, some _ => .ok ()

/-- The first entry that a list holds already, after some entries. -/
def repeatedAfter (seen : List String) : List String → Option String
  | [] => none
  | entry :: rest => if seen.contains entry then some entry else repeatedAfter (entry :: seen) rest

def noRepetition (id field : String) (entries : Option (List String)) : Except ItemError Unit :=
  match repeatedAfter [] (entries.getD []) with
  | some entry => .error (.duplicateEntry id field entry)
  | none => .ok ()

def refuseIf (broken : Bool) (error : ItemError) : Except ItemError Unit :=
  if broken then .error error else .ok ()

/-- The least count is not above the greatest. -/
def countRange (p : PropertyClass) : Except ItemError Unit :=
  match p.minCount, p.maxCount with
  | some min, some max => refuseIf (max < min) (.countRange p.identifiable.id min max)
  | _, _ => .ok ()

/-- The least value is not above the greatest. -/
def inclusiveRange (p : PropertyClass) : Except ItemError Unit :=
  match p.minInclusive, p.maxInclusive with
  | some min, some max => refuseIf (max.lt min) (.inclusiveRange p.identifiable.id min max)
  | _, _ => .ok ()

def pattern [PatternLimit] (p : PropertyClass) : Except ItemError Unit :=
  match p.pattern with
  | some pattern => refuseIf (!Pattern.isPattern pattern) (.invalidPattern p.identifiable.id pattern)
  | none => .ok ()

/-- Facets apply to the datatype that the class declares itself; an inherited one is not looked at. -/
def facets (p : PropertyClass) : Except ItemError Unit :=
  match p.datatype with
  | none => .ok ()
  | some term => do
    let datatype := Datatype.ofTerm term
    let mismatch (facet : String) : ItemError := .facetMismatch p.identifiable.id facet term
    refuseIf (!datatype.isTextual && p.maxLength.isSome) (mismatch "maxLength")
    refuseIf (!datatype.isTextual && p.pattern.isSome) (mismatch "pattern")
    refuseIf (!datatype.isNumeric && p.minInclusive.isSome) (mismatch "minInclusive")
    refuseIf (!datatype.isNumeric && p.maxInclusive.isSome) (mismatch "maxInclusive")

/-- The rules for the definition of a property. -/
def propertyClass [PatternLimit] (p : PropertyClass) : Except ItemError Unit := do
  countRange p
  inclusiveRange p
  pattern p
  facets p
  noRepetition p.identifiable.id "composedProperty" p.composedProperty

def individual (kind : Kind) (i : Identifiable) (own : Individual) : Except ItemError Unit := do
  refuseIf i.specializes.isSome (.specializesNotAllowed kind i.id)
  match own.modified with
  | some modified => refuseIf (!Time.isTimestamp modified) (.invalidTimestamp i.id modified)
  | none => .ok ()
  match own.revision with
  | some revision => refuseIf (own.priorRevision.contains revision) (.priorRevision i.id revision)
  | none => .ok ()

/-- An edge has at least one source and one target. -/
def edge (r : Relationship) : Except ItemError Unit := do
  refuseIf r.hasSourceLink.isEmpty (.missingLink r.identifiable.id "source")
  refuseIf r.hasTargetLink.isEmpty (.missingLink r.identifiable.id "target")

def texts (i : Identifiable) : Except ItemError Unit := do
  text "title" i.title
  text "description" i.description

/-- The rules for an item of any kind. -/
def item [PatternLimit] (d : ItemData) : Except ItemError Unit := do
  match d with
  | .propertyClass p =>
    texts p.identifiable
    classOrigin d p.identifiable
    propertyClass p
  | .linkClass l =>
    texts l.identifiable
    classOrigin d l.identifiable
    noRepetition l.identifiable.id "eligibleEndpoint" l.eligibleEndpoint
  | .entityClass e =>
    texts e.identifiable
    classOrigin d e.identifiable
    noRepetition e.identifiable.id "eligibleProperty" e.element.eligibleProperty
    noRepetition e.identifiable.id "eligibleTargetLink" e.eligibleTargetLink
  | .relationshipClass r =>
    texts r.identifiable
    classOrigin d r.identifiable
    noRepetition r.identifiable.id "eligibleProperty" r.element.eligibleProperty
  | .entity e =>
    texts e.identifiable
    individual .entityInstance e.identifiable e.individual
  | .relationship r =>
    texts r.identifiable
    individual .relationshipInstance r.identifiable r.individual
    edge r
  | .property _ | .sourceLink _ | .targetLink _ => .ok ()

end Validation
end ProductGraph
