/-!
# Status codes

Every outcome of the library carries a number whose hundreds digit names its category, so that a caller can
branch on the category without knowing the single causes.
-/

namespace ProductGraph

/-- What an operation came to: success, or the kind of failure. -/
inductive Status where
  | ok
  | parseFailure
  | unknownItemKind
  | schemaLoad
  | schemaViolation
  | malformedItem
  | immutableField
  | invalidText
  | semanticViolation
  | missingReference
  | kindMismatch
  | notEligible
  | cardinalityViolation
  | valueConstraint
  | duplicateIdentifier
  | specializationCycle
  deriving DecidableEq

namespace Status

def all : List Status :=
  [.ok, .parseFailure, .unknownItemKind, .schemaLoad, .schemaViolation, .malformedItem, .immutableField,
   .invalidText, .semanticViolation, .missingReference, .kindMismatch, .notEligible, .cardinalityViolation,
   .valueConstraint, .duplicateIdentifier, .specializationCycle]

def code : Status → Nat
  | ok => 0
  | parseFailure => 100
  | unknownItemKind => 101
  | schemaLoad => 102
  | schemaViolation => 200
  | malformedItem => 201
  | immutableField => 300
  | invalidText => 400
  | semanticViolation => 401
  | missingReference => 500
  | kindMismatch => 501
  | notEligible => 502
  | cardinalityViolation => 600
  | valueConstraint => 601
  | duplicateIdentifier => 700
  | specializationCycle => 800

def name : Status → String
  | ok => "Ok"
  | parseFailure => "ParseFailure"
  | unknownItemKind => "UnknownItemKind"
  | schemaLoad => "SchemaLoad"
  | schemaViolation => "SchemaViolation"
  | malformedItem => "MalformedItem"
  | immutableField => "ImmutableField"
  | invalidText => "InvalidText"
  | semanticViolation => "SemanticViolation"
  | missingReference => "MissingReference"
  | kindMismatch => "KindMismatch"
  | notEligible => "NotEligible"
  | cardinalityViolation => "CardinalityViolation"
  | valueConstraint => "ValueConstraint"
  | duplicateIdentifier => "DuplicateIdentifier"
  | specializationCycle => "SpecializationCycle"

def isOk (s : Status) : Bool := s = ok

/-- The category that the hundreds digit of a code stands for. -/
def category (s : Status) : String :=
  match s.code / 100 with
  | 0 => "ok"
  | 1 => "parse_failure"
  | 2 => "schema_violation"
  | 3 => "immutability_violation"
  | 4 => "semantic_violation"
  | 5 => "reference_violation"
  | 6 => "cardinality_violation"
  | 7 => "duplicate_identifier"
  | _ => "specialization_cycle"

/-- The code and its category, as reports show them. -/
def display (s : Status) : String := toString s.code ++ " " ++ s.category

end Status

end ProductGraph
