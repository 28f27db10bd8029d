import ProductGraph.Item.Reading
import ProductGraph.Status

/-!
# Why an item is refused

Every cause has its own constructor, which keeps what the message needs.  The causes fall into the categories of
`Status`; all that concern the meaning of a single item share one.
-/

namespace ProductGraph

/-- What is wrong with an entry of a text in several languages. -/
inductive TextFault where
  | untagged (entries : Nat)
  | emptyTag
  | notATag (lang : String)
  deriving DecidableEq

/-- A cause for which an item is refused. -/
inductive ItemError where
  | unknownKind (declared : Option String)
  | schema (kind : Kind) (diagnostics : String)
  | malformed (kind : Kind) (reason : ReadError)
  | immutable (field : String) (was : String) (now : Option String)
  | text (field : String) (index : Nat) (fault : TextFault)
  | classOrigin (id : String)
  | rootClass (id : String) (expected : String) (found : String)
  | specializesNotAllowed (kind : Kind) (id : String)
  | countRange (id : String) (min max : Nat)
  | inclusiveRange (id : String) (min max : Binary64)
  | invalidPattern (id : String) (pattern : String)
  | facetMismatch (id : String) (facet : String) (datatype : String)
  | duplicateEntry (id : String) (field : String) (entry : String)
  | invalidTimestamp (id : String) (value : String)
  | priorRevision (id : String) (revision : String)
  | missingLink (id : String) (role : String)

/-- The wording of what is wrong with an entry. -/
def TextFault.message : TextFault → String
  | untagged entries => "entry has no language tag; all " ++ toString entries ++ " entries need one"
  | emptyTag => "language tag must not be empty"
  | notATag lang => Text.quoted lang ++ " is not a language tag"

namespace ItemError

def message : ItemError → String
  | unknownKind declared => "item kind could not be determined (itemType " ++ Text.quotedOption declared ++ ")"
  | schema kind diagnostics => kind.tag ++ " does not conform to its schema: " ++ diagnostics
  | malformed kind reason => kind.tag ++ " could not be read: " ++ reason.message
  | immutable field was now =>
    field ++ " is immutable once set: " ++ Text.quoted was ++ " cannot become " ++ Text.quotedOption now
  | text field index fault => field ++ "[" ++ toString index ++ "]: " ++ fault.message
  | classOrigin id => "class " ++ Text.quoted id ++ " must carry exactly one of hasClass or specializes"
  | rootClass id expected found =>
    "root class " ++ Text.quoted id ++ " must have hasClass " ++ Text.quoted expected ++ ", got " ++
      Text.quoted found
  | specializesNotAllowed kind id => kind.tag ++ " " ++ Text.quoted id ++ " must not specialize another item"
  | countRange id min max =>
    Text.quoted id ++ ": minCount " ++ toString min ++ " exceeds maxCount " ++ toString max
  | inclusiveRange id min max =>
    Text.quoted id ++ ": minInclusive " ++ min.plain ++ " exceeds maxInclusive " ++ max.plain
  | invalidPattern id pattern =>
    Text.quoted id ++ ": pattern " ++ Text.quoted pattern ++ " is not a valid regular expression"
  | facetMismatch id facet datatype =>
    Text.quoted id ++ ": facet " ++ facet ++ " does not apply to datatype " ++ datatype
  | duplicateEntry id field entry =>
    Text.quoted id ++ ": " ++ field ++ " lists " ++ Text.quoted entry ++ " more than once"
  | invalidTimestamp id value =>
    Text.quoted id ++ ": modified must be an ISO 8601 date-time or date, got " ++ Text.quoted value
  | priorRevision id revision =>
    Text.quoted id ++ ": priorRevision must not contain the current revision " ++ Text.quoted revision
  | missingLink id role => "relationship " ++ Text.quoted id ++ " needs at least one " ++ role ++ " link"

def status : ItemError → Status
  | unknownKind _ => .unknownItemKind
  | schema .. => .schemaViolation
  | malformed .. => .malformedItem
  | immutable .. => .immutableField
  | text .. => .invalidText
  | _ => .semanticViolation

end ItemError

end ProductGraph
