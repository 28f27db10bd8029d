import ProductGraph.Proofs.Consistency.Mirror
import ProductGraph.Proofs.Graph.Inheritance

namespace ProductGraph

/-!
# What the checks of eligibility decide

Three checks ask what may stand with what.  They restrict in two ways.  What the classes upward list is joined, so a
class can only add to it; what a class says of the ends of a link or of an edge replaces what was said above.  Either
way nothing is restricted as long as nothing is said, and everything is as soon as an empty list is.

Whatever is allowed is allowed with all that specializes it.  At the end of a link a class stands for itself and
anything else for its class.
-/

open Relation (ReflTransGen)

namespace ItemData

/-- An item is a link or has one. -/
def HasLink (d : ItemData) (l : LinkValue) : Prop :=
  l ∈ d.sourceLinks ∨ l ∈ d.targetLinks ∨ d = .sourceLink l ∨ d = .targetLink l

end ItemData

namespace Graph

variable {g : Graph}

theorem exists_hasClass_of_mem_individuals {d : ItemData} (individual : d ∈ g.individuals) :
    ∃ c, d.hasClass = some c := by
  have isOne := (List.mem_filter.mp individual).2
  cases d with
  | entity e => exact ⟨e.hasClass, rfl⟩
  | relationship r => exact ⟨r.hasClass, rfl⟩
  | _ => cases isOne

/-- A class is one that some item upward from another lists, or specializes it. -/
def IsListed (g : Graph) (lists : ItemData → Option (List String)) (id c : String) : Prop :=
  ∃ listed, g.Lists lists id listed ∧ ReflTransGen g.Specializes c listed

/-- The properties of an individual are among those that its class allows. -/
def AllowsProperties (g : Graph) (d : ItemData) : Prop :=
  ∀ c, d.hasClass = some c → g.Restricts ItemData.listedProperties c →
    ∀ v ∈ d.properties, g.IsListed ItemData.listedProperties c v.hasClass

/-- The links of a node are among those that are listed for its class, and those of an edge are of the class that is
declared for the end in question. -/
def AllowsLinks (g : Graph) : ItemData → Prop
  | .entity e => g.Restricts ItemData.listedTargetLinks e.hasClass →
      ∀ l ∈ e.hasTargetLink, g.IsListed ItemData.listedTargetLinks e.hasClass l.hasClass
  | .relationship r =>
    (∀ c, g.Nearest ItemData.declaredSourceLink c r.hasClass →
      ∀ l ∈ r.hasSourceLink, ReflTransGen g.Specializes l.hasClass c) ∧
    (∀ c, g.Nearest ItemData.declaredTargetLink c r.hasClass →
      ∀ l ∈ r.hasTargetLink, ReflTransGen g.Specializes l.hasClass c)
  | _ => True

/-- A link leads to an item, and if endpoints are declared for the class of the link, this item is a class that is an
endpoint or of a class that is one. -/
def LeadsAsDeclared (g : Graph) (l : LinkValue) : Prop :=
  ∃ target, g.get? l.idRef = some target ∧
    ∀ endpoints, g.Nearest ItemData.declaredEndpoints endpoints l.hasClass →
      ∃ c, (if target.kind.isClass then some l.idRef else target.hasClass) = some c ∧
        ∃ e ∈ endpoints, ReflTransGen g.Specializes c e

end Graph

namespace Consistency

open ProductGraph.Graph

variable {g : Graph} {lang : String}

/-- None of some classes is foreign exactly if each is one that is allowed or specializes it. -/
theorem hasForeign_eq_false_iff {allowed : Option (List String)} {classes : List String} :
    hasForeign g allowed classes = false ↔ (allowed.isSome = true →
      ∀ c ∈ classes, ∃ a ∈ allowed.getD [], ReflTransGen g.Specializes c a) := by
  cases allowed with
  | none => simp [hasForeign]
  | some list => simp [hasForeign, ← isA_iff_reflTransGen]

/-- The same for a single class that is allowed. -/
theorem hasForeign_single_eq_false_iff {allowed : Option String} {classes : List String} :
    hasForeign g (allowed.map ([·])) classes = false ↔
      ∀ a, allowed = some a → ∀ c ∈ classes, ReflTransGen g.Specializes c a := by
  rw [hasForeign_eq_false_iff]
  cases allowed with
  | none => simp
  | some a => simp

theorem mem_linksOf_iff {d : ItemData} {l : LinkValue} : l ∈ linksOf d ↔ d.HasLink l := by
  cases d <;> simp [linksOf, ItemData.HasLink, ItemData.sourceLinks, ItemData.targetLinks, eq_comm]

/-- What a link leads to counts as the class that it is, or else as that of its class. -/
theorem classAtEnd_of_get? {id : String} {d : ItemData} (found : g.get? id = some d) :
    (if d.kind.isClass then some id else d.hasClass) = some (classAtEnd d) := by
  have named := id?_of_get? found
  have label : d.label = id := by rw [ItemData.label, named]
  rw [classAtEnd, label]
  split
  · rfl
  · rename_i notClass
    cases d with
    | entity e => rfl
    | relationship r => rfl
    | property _ => cases named
    | sourceLink _ => cases named
    | targetLink _ => cases named
    | _ => exact absurd rfl notClass

/-- Nothing is wrong with a link exactly if it leads where its class says. -/
theorem targetCause?_eq_none_iff {l : LinkValue} : targetCause? g l = none ↔ g.LeadsAsDeclared l := by
  rw [← Option.not_isSome_iff_eq_none, isSome_targetCause?, LeadsAsDeclared]
  cases found : g.get? l.idRef with
  | none => simp
  | some target =>
      simp only [Option.some.injEq, exists_eq_left', classAtEnd_of_get? found, ← endpoints?_eq_some_iff]
      rw [Bool.not_eq_true, hasForeign_eq_false_iff]
      cases g.endpoints? l.hasClass with
      | none => simp
      | some endpoints => simp

theorem eligibleProperties_eq_none_iff :
    eligibleProperties g = none ↔ ∀ d ∈ g.individuals, g.AllowsProperties d := by
  rw [← Option.not_isSome_iff_eq_none, isSome_eligibleProperties, Bool.not_eq_true, List.any_eq_false]
  refine forall₂_congr fun d individual => ?_
  rcases exists_hasClass_of_mem_individuals individual with ⟨c, isClass⟩
  simp only [Bool.not_eq_true, hasForeign_eq_false_iff, AllowsProperties, isClass, Option.some.injEq, forall_eq',
    Option.getD_some, List.forall_mem_map, properties?_isSome_iff, mem_properties?_iff, IsListed]

theorem eligibleLinks_eq_none_iff : eligibleLinks g = none ↔ ∀ d ∈ g.individuals, g.AllowsLinks d := by
  rw [← Option.not_isSome_iff_eq_none, isSome_eligibleLinks, Bool.not_eq_true, List.any_eq_false]
  refine forall₂_congr fun d _ => ?_
  rw [Bool.not_eq_true, List.any_eq_false]
  simp only [Bool.not_eq_true]
  cases d with
  | entity e =>
      simp only [allowedLinks, AllowsLinks, List.forall_mem_singleton, hasForeign_eq_false_iff, List.forall_mem_map,
        targetLinks?_isSome_iff, mem_targetLinks?_iff, IsListed]
  | relationship r =>
      rw [allowedLinks, AllowsLinks, List.forall_mem_cons, List.forall_mem_singleton]
      simp only [hasForeign_single_eq_false_iff, List.forall_mem_map, sourceLink?_eq_some_iff,
        targetLink?_eq_some_iff]
  | _ => simp [allowedLinks, AllowsLinks]

theorem linkTargets_eq_none_iff :
    linkTargets g = none ↔ ∀ d ∈ g.items, ∀ l, d.HasLink l → g.LeadsAsDeclared l := by
  simp only [linkTargets, List.findSome?_eq_none_iff, Option.map_eq_none_iff, targetCause?_eq_none_iff,
    mem_linksOf_iff]

end Consistency

namespace Graph

/-- Each of the three checks of eligibility alone finds nothing exactly if what it looks at is allowed: the properties
of individuals, the links of individuals, and what links lead to. -/
theorem check_eligibility_eq_none_iff (g : Graph) (lang : String) :
    (g.check (.only [.eligibleProperties]) lang = none ↔ ∀ d ∈ g.individuals, g.AllowsProperties d) ∧
      (g.check (.only [.eligibleLinks]) lang = none ↔ ∀ d ∈ g.individuals, g.AllowsLinks d) ∧
      (g.check (.only [.linkTargets]) lang = none ↔ ∀ d ∈ g.items, ∀ l, d.HasLink l → g.LeadsAsDeclared l) := by
  simp only [check_only, violation?]
  exact ⟨Consistency.eligibleProperties_eq_none_iff, Consistency.eligibleLinks_eq_none_iff,
    Consistency.linkTargets_eq_none_iff⟩

end Graph
end ProductGraph
