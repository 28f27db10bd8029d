import ProductGraph.Consistency.Basic
import ProductGraph.Graph.Declaration

/-!
# Cardinality

The values of a property are counted for each individual: text for each language apart, everything else together.
The counts have to lie within the bounds of the property class.  A property that the class of an individual lists
must not be missing if it has to occur, unless a class that specializes it occurs instead.
-/

namespace ProductGraph
namespace Consistency

/-- Put one more thing with the others of its name, or after all names if there are none. -/
def putUnder {α : Type} (name : String) (thing : α) : List (String × List α) → List (String × List α)
  | [] => [(name, [thing])]
  | (other, things) :: rest =>
    if other = name then (other, things ++ [thing]) :: rest else (other, things) :: putUnder name thing rest

/-- Things under their names, in the order in which the names first appear. -/
def groupedBy {α : Type} (name : α → String) (things : List α) : List (String × List α) :=
  things.foldl (fun groups thing => putUnder (name thing) thing groups) []

/-- What is wrong with so many values in a language. -/
def languageCause? (min max : Nat) (lang : String) (count : Nat) : Option Cause :=
  if count < min then some (.tooFewInLanguage lang count min)
  else if max < count then some (.tooManyInLanguage lang count max)
  else none

def countCause? (min max count : Nat) : Option Cause :=
  if count < min then some (.tooFew count min)
  else if max < count then some (.tooMany count max)
  else none

def occurrenceCause? (g : Graph) (defaultLanguage : String) (property : String) (values : List PropertyValue) :
    Option Cause :=
  if (g.propertyClass? property).isNone then none
  else if g.isText property then
    (groupedBy (fun v => v.lang.getD defaultLanguage) values).findSome? fun (lang, group) =>
      languageCause? (g.minCount property) (g.maxCount property) lang group.length
  else countCause? (g.minCount property) (g.maxCount property) values.length

/-- What is wrong with a property of which an individual has no value. -/
def absenceCause? (g : Graph) (defaultLanguage : String) (property : String) : Option Cause :=
  if (g.propertyClass? property).isNone || g.minCount property = 0 then none
  else if g.isText property then some (.tooFewInLanguage defaultLanguage 0 (g.minCount property))
  else some (.tooFew 0 (g.minCount property))

/-- A property of an individual that occurs too often or not often enough. -/
def individualCardinality (g : Graph) (defaultLanguage : String) (d : ItemData) : Option (String × Cause) :=
  let groups := groupedBy PropertyValue.hasClass d.properties
  let listed := ((d.hasClass.bind g.properties?).getD []).filter fun property =>
    !groups.any fun group => g.isA group.1 property
  (groups.findSome? fun (property, values) =>
      (occurrenceCause? g defaultLanguage property values).map fun cause => (property, cause)).or
    (listed.findSome? fun property => (absenceCause? g defaultLanguage property).map fun cause => (property, cause))

/-- An individual with a property that occurs too often or not often enough. -/
def cardinality (g : Graph) (defaultLanguage : String) : Option Violation :=
  g.individuals.findSome? fun d =>
    (individualCardinality g defaultLanguage d).map fun (property, cause) =>
      ⟨.cardinality, d.label, some property, cause⟩

end Consistency
end ProductGraph
