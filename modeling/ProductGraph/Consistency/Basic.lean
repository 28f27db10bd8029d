import ProductGraph.Datatype
import ProductGraph.Kind
import ProductGraph.Number.Layout
import ProductGraph.Status
import ProductGraph.Text.Words

/-!
# Checks and violations

Eight checks look at a graph as a whole.  Each finds at most one violation, which names the item at fault, the
field or class that is concerned and the cause.  Any set of checks may be asked for; they run in a fixed order.
-/

namespace ProductGraph

/-- A check of a whole graph. -/
inductive Check where
  | duplicateIds
  | classReferences
  | specializationCycles
  | cardinality
  | linkTargets
  | eligibleProperties
  | eligibleLinks
  | valueConstraints
  deriving DecidableEq

namespace Check

/-- Every check, in the order in which they run. -/
def all : List Check :=
  [duplicateIds, classReferences, specializationCycles, cardinality, linkTargets, eligibleProperties, eligibleLinks,
   valueConstraints]

def name : Check → String
  | duplicateIds => "duplicate-ids"
  | classReferences => "class-references"
  | specializationCycles => "specialization-cycles"
  | cardinality => "cardinality"
  | linkTargets => "link-targets"
  | eligibleProperties => "eligible-properties"
  | eligibleLinks => "eligible-links"
  | valueConstraints => "value-constraints"

def ofName? (s : String) : Option Check := all.find? (fun c => c.name == s)

/-- What is said of a name that no check has. -/
def unknownName (s : String) : String :=
  "unknown check " ++ Text.quoted s ++ "; expected one of: " ++ Text.join ", " (all.map name)

end Check

/-- A set of checks. -/
structure CheckSet where
  contains : Check → Bool

namespace CheckSet

def all : CheckSet := ⟨fun _ => true⟩

def none : CheckSet := ⟨fun _ => false⟩

def only (checks : List Check) : CheckSet := ⟨fun c => checks.contains c⟩

def without (set : CheckSet) (check : Check) : CheckSet := ⟨fun c => set.contains c && c != check⟩

/-- The checks of a set, in the order in which they run. -/
def toList (set : CheckSet) : List Check := Check.all.filter set.contains

end CheckSet

/-- The end of an edge that a link leads to. -/
inductive LinkRole where
  | source
  | target
  deriving DecidableEq

def LinkRole.name : LinkRole → String
  | source => "source"
  | target => "target"

/-- What is wrong with a graph. -/
inductive Cause where
  | sharedIdentifier (first second : Nat)
  | unresolved (reference : String)
  | wrongKind (reference : String) (found expected : Kind)
  | cycle (path : List String)
  | tooFewInLanguage (lang : String) (count min : Nat)
  | tooManyInLanguage (lang : String) (count max : Nat)
  | tooFew (count min : Nat)
  | tooMany (count max : Nat)
  | unresolvedTarget (target : String)
  | ineligibleEndpoint (target : String) (ofClass : String)
  | ineligibleProperty (property : String) (ofClass : String)
  | ineligibleLink (role : LinkRole) (link : String) (ofClass : String)
  | notOfDatatype (text : String) (datatype : Datatype)
  | tooLong (length max : Nat)
  | mismatch (text : String) (pattern : String)
  | belowMinimum (text : String) (min : Binary64)
  | aboveMaximum (text : String) (max : Binary64)
  deriving DecidableEq

namespace Cause

def message : Cause → String
  | sharedIdentifier first second =>
    "identifier is used by items " ++ toString first ++ " and " ++ toString second
  | unresolved reference => reference ++ " does not resolve"
  | wrongKind reference found expected => reference ++ " is a " ++ found.tag ++ ", expected a " ++ expected.tag
  | cycle path => "specialization cycle: " ++ Text.join " -> " path
  | tooFewInLanguage lang count min =>
    "too few values for language " ++ lang ++ " (" ++ toString count ++ " < minCount " ++ toString min ++ ")"
  | tooManyInLanguage lang count max =>
    "too many values for language " ++ lang ++ " (" ++ toString count ++ " > maxCount " ++ toString max ++ ")"
  | tooFew count min => "too few occurrences (" ++ toString count ++ " < minCount " ++ toString min ++ ")"
  | tooMany count max => "too many occurrences (" ++ toString count ++ " > maxCount " ++ toString max ++ ")"
  | unresolvedTarget target => "link target " ++ target ++ " does not resolve"
  | ineligibleEndpoint target ofClass =>
    "target " ++ target ++ " of class " ++ ofClass ++ " is not an eligible endpoint"
  | ineligibleProperty property ofClass =>
    "property " ++ property ++ " is not eligible for class " ++ ofClass
  | ineligibleLink role link ofClass =>
    role.name ++ " link " ++ link ++ " is not eligible for class " ++ ofClass
  | notOfDatatype text datatype => Text.quoted text ++ " is not a valid " ++ datatype.label ++ " value"
  | tooLong length max => toString length ++ " characters exceed maxLength " ++ toString max
  | mismatch text pattern => Text.quoted text ++ " does not match pattern " ++ Text.quoted pattern
  | belowMinimum text min => text ++ " is below minInclusive " ++ min.plain
  | aboveMaximum text max => text ++ " is above maxInclusive " ++ max.plain

def status : Cause → Status
  | sharedIdentifier .. => .duplicateIdentifier
  | unresolved _ | unresolvedTarget _ => .missingReference
  | wrongKind .. => .kindMismatch
  | cycle _ => .specializationCycle
  | tooFewInLanguage .. | tooManyInLanguage .. | tooFew .. | tooMany .. => .cardinalityViolation
  | ineligibleEndpoint .. | ineligibleProperty .. | ineligibleLink .. => .notEligible
  | notOfDatatype .. | tooLong .. | mismatch .. | belowMinimum .. | aboveMaximum .. => .valueConstraint

end Cause

/-- A violation that a check finds. -/
structure Violation where
  check : Check
  item : String
  field : Option String
  cause : Cause
  deriving DecidableEq

namespace Violation

/-- What a violation says about the item. -/
def reason (v : Violation) : String := v.cause.message

def status (v : Violation) : Status := v.cause.status

def message (v : Violation) : String :=
  let place := match v.field with | some field => " [" ++ field ++ "]" | none => ""
  v.check.name ++ ": " ++ v.item ++ place ++ ": " ++ v.reason

end Violation

end ProductGraph
