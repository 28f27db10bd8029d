import ProductGraph.Text.Quoted

/-!
# Datatypes of property values

A property class may declare one of ten datatypes by its term.  A term outside the ten is kept as it is, and
its values are opaque text.
-/

namespace ProductGraph

/-- The datatype that a property class declares. -/
inductive Datatype where
  | string
  | boolean
  | integer
  | double
  | decimal
  | float
  | dateTime
  | date
  | anyUri
  | duration
  | other (term : String)
  deriving DecidableEq

namespace Datatype

def ofTerm (term : String) : Datatype :=
  match term with
  | "xs:string" => string
  | "xs:boolean" => boolean
  | "xs:integer" => integer
  | "xs:double" => double
  | "xs:decimal" => decimal
  | "xs:float" => float
  | "xs:dateTime" => dateTime
  | "xs:date" => date
  | "xs:anyURI" => anyUri
  | "xs:duration" => duration
  | term => other term

def label : Datatype → String
  | string => "String"
  | boolean => "Boolean"
  | integer => "Integer"
  | double => "Double"
  | decimal => "Decimal"
  | float => "Float"
  | dateTime => "DateTime"
  | date => "Date"
  | anyUri => "AnyUri"
  | duration => "Duration"
  | other term => "Other(" ++ Text.quoted term ++ ")"

/-- Whether the datatype is one of the ten whose values are checked. -/
def isSupported : Datatype → Bool
  | other _ => false
  | _ => true

/-- Whether values of the datatype are numbers, which alone may be bounded. -/
def isNumeric : Datatype → Bool
  | integer | double | decimal | float => true
  | _ => false

/-- Whether values of the datatype are text, which alone may be bounded in length or matched by a pattern. -/
def isTextual : Datatype → Bool
  | string | other _ => true
  | _ => false

end Datatype

end ProductGraph
