import ProductGraph.Document.Vocabulary

/-!
# The layout of markup

The elements that are neither items nor named fields: the package and its graph, and the restriction that carries
the datatype of a property class, how often it occurs and the facets of its values.
-/

namespace ProductGraph
namespace Xml

def packageElement : String := Kind.package.tag

def graphElement : String := "pig:graph"

def typeElement : String := "xs:simpleType"

def restrictionElement : String := "xs:restriction"

/-- The elements of facets with the fields that they carry. -/
def facets : List (String × String) :=
  [("xs:maxLength", "maxLength"), ("xs:pattern", "pattern"), ("xs:minInclusive", "minInclusive"),
   ("xs:maxInclusive", "maxInclusive")]

/-- How markup carries a field, if it is in the vocabulary. -/
def form? (field : String) : Option MarkupForm := (Vocabulary.ofField? field).map (·.markup)

end Xml
end ProductGraph
