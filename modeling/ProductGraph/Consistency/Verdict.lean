import ProductGraph.Consistency.Cardinality
import ProductGraph.Consistency.Eligibility
import ProductGraph.Consistency.Reference
import ProductGraph.Consistency.Value

/-!
# The verdict on a graph

The checks that are asked for run one after the other, and the first violation is the verdict.
-/

namespace ProductGraph
namespace Graph

/-- What a check finds. -/
def violation? [PatternLimit] (g : Graph) (defaultLanguage : String) : Check → Option Violation
  | .duplicateIds => Consistency.duplicateIds g
  | .classReferences => Consistency.classReferences g
  | .specializationCycles => Consistency.specializationCycles g
  | .cardinality => Consistency.cardinality g defaultLanguage
  | .linkTargets => Consistency.linkTargets g
  | .eligibleProperties => Consistency.eligibleProperties g
  | .eligibleLinks => Consistency.eligibleLinks g
  | .valueConstraints => Consistency.valueConstraints g

/-- The first thing that some checks find; nothing if the graph is consistent. -/
def check [PatternLimit] (g : Graph) (requested : CheckSet) (defaultLanguage : String) : Option Violation :=
  requested.toList.findSome? (g.violation? defaultLanguage)

end Graph
end ProductGraph
