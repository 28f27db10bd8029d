import ProductGraph.Consistency.Basic
import ProductGraph.Graph.Declaration
import ProductGraph.Number.Literal
import ProductGraph.Pattern.Meaning
import ProductGraph.Time.Duration
import ProductGraph.Time.Timestamp

/-!
# Values

The value of a property is text.  It has to be a literal of the datatype of its class, blanks around it apart, and
has to keep the bounds, the length and the pattern that the class declares.  A class that is not found asks for
nothing.
-/

namespace ProductGraph

/-- A decimal: an optional sign, and digits of any script with a point before, among or after them. -/
def isDecimalText (cs : List Char) : Bool :=
  let (_, body) := splitSign cs
  let whole := body.takeWhile Unicode.isDigit
  match body.dropWhile Unicode.isDigit with
  | [] => !whole.isEmpty
  | '.' :: fraction => fraction.all Unicode.isDigit && !(whole.isEmpty && fraction.isEmpty)
  | _ => false

namespace Datatype

/-- Whether a text without blanks around it is a literal of a datatype. -/
def isLiteral (datatype : Datatype) (cs : List Char) : Bool :=
  match datatype with
  | string | other _ => true
  | boolean => ["true", "false", "1", "0"].contains (String.ofList cs)
  | integer => isSigned 128 cs
  | decimal => isDecimalText cs
  | double | float => ["INF", "-INF", "NaN"].contains (String.ofList cs) || (RealValue.ofText? cs).isSome
  | dateTime => Time.isDateTimeText cs
  | date => Time.isDateText cs
  | anyUri => !cs.isEmpty && !cs.any Unicode.isBlank
  | duration => Time.isDuration cs

/-- Whether a text is a literal of a datatype, blanks around it apart. -/
def admits (datatype : Datatype) (text : String) : Bool := datatype.isLiteral (Text.trim text.toList)

end Datatype

namespace Consistency

/-- The number that a text is compared as; what cannot be read as one is not a number. -/
def numberOf (text : String) : RealValue := (RealValue.ofText? (Text.trim text.toList)).getD .notANumber

def lengthCause? (g : Graph) (property text : String) : Option Cause :=
  (g.facet? property PropertyClass.maxLength).bind fun max =>
    if max < text.length then some (.tooLong text.length max) else none

def patternCause? [PatternLimit] (g : Graph) (property text : String) : Option Cause :=
  (g.facet? property PropertyClass.pattern).bind fun pattern =>
    if Pattern.rejects pattern text then some (.mismatch text pattern) else none

def boundCause? (g : Graph) (property text : String) : Option Cause :=
  ((g.facet? property PropertyClass.minInclusive).bind fun min =>
      if (numberOf text).below min then some (.belowMinimum text min) else none).or
    ((g.facet? property PropertyClass.maxInclusive).bind fun max =>
      if (numberOf text).above max then some (.aboveMaximum text max) else none)

def valueCause? [PatternLimit] (g : Graph) (value : PropertyValue) : Option Cause :=
  if (g.propertyClass? value.hasClass).isNone then none
  else
    let datatype := (g.datatype? value.hasClass).getD .string
    if !datatype.admits value.value then some (.notOfDatatype value.value datatype)
    else
      (lengthCause? g value.hasClass value.value).or <|
        (patternCause? g value.hasClass value.value).or <|
          if datatype.isNumeric then boundCause? g value.hasClass value.value else none

def valuesOf : ItemData → List PropertyValue
  | .property p => [p]
  | d => d.properties

/-- A value that its property class does not admit. -/
def valueConstraints [PatternLimit] (g : Graph) : Option Violation :=
  g.items.findSome? fun d =>
    (valuesOf d).findSome? fun value =>
      (valueCause? g value).map fun cause => ⟨.valueConstraints, d.label, some value.hasClass, cause⟩

end Consistency
end ProductGraph
