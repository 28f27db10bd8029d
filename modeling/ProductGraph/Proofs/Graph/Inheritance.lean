import ProductGraph.Graph.Declaration
import ProductGraph.Proofs.Graph.Closure

namespace ProductGraph

/-!
# What is taken over from above

A class takes over what the nearest class upward says that says it; the lists of what individuals may have are joined.
Both are computed on the line upward.  Here they are said by the steps of specialization alone: who the nearest is, by
going up past items that say nothing, and what is listed, by any item that steps lead to.

The nearest is at most one, because every item has one parent.  So what is computed is the nearest as soon as it is one
that is nearest, and it is computed whenever there is one: an item that steps lead to is in the line.
-/

namespace ItemData

variable {α : Type}

/-- What an item declares as a property class. -/
def declared (declares : PropertyClass → Option α) : ItemData → Option α
  | propertyClass p => declares p
  | _ => none

/-- The classes that the ends of a link may have, as declared by a link class. -/
def declaredEndpoints : ItemData → Option (List String)
  | linkClass l => l.eligibleEndpoint
  | _ => none

def declaredSourceLink : ItemData → Option String
  | relationshipClass c => c.eligibleSourceLink
  | _ => none

def declaredTargetLink : ItemData → Option String
  | relationshipClass c => c.eligibleTargetLink
  | _ => none

def listedProperties (d : ItemData) : Option (List String) := d.element.bind (·.eligibleProperty)

def listedTargetLinks : ItemData → Option (List String)
  | entityClass e => e.eligibleTargetLink
  | _ => none

end ItemData

namespace Graph

open Relation (ReflTransGen)

variable {α : Type} {g : Graph} {id : String} {tells : ItemData → Option α}

/-- Steps of specialization lead to an identifier under which an item is found. -/
def Upward (g : Graph) (id : String) (d : ItemData) : Prop :=
  ∃ x, ReflTransGen g.Specializes id x ∧ g.get? x = some d

/-- The line upward consists of the items that steps lead to. -/
theorem mem_line_iff {d : ItemData} : d ∈ g.line id ↔ g.Upward id d := by
  constructor
  · intro member
    rcases exists_get?_of_mem_line member with ⟨x, found⟩
    have passed : x ∈ g.lineage id := List.mem_filterMap.mpr ⟨d, member, id?_of_get? found⟩
    exact ⟨x, (mem_lineage_iff_reflTransGen.mp passed).2, found⟩
  · rintro ⟨x, steps, found⟩
    have passed : x ∈ g.lineage id := mem_lineage_iff_reflTransGen.mpr ⟨Option.isSome_of_eq_some found, steps⟩
    rcases List.mem_filterMap.mp passed with ⟨e, member, named⟩
    rcases exists_get?_of_mem_line member with ⟨y, alsoFound⟩
    -- Both are found under the one identifier that the second has.
    cases named.symm.trans (id?_of_get? alsoFound)
    cases found.symm.trans alsoFound
    exact member

/-! ## The nearest that says something -/

/-- The nearest item upward that says anything says this. -/
inductive Nearest (g : Graph) (tells : ItemData → Option α) (said : α) : String → Prop
  | own {id : String} {d : ItemData} (found : g.get? id = some d) (spoken : tells d = some said) :
      Nearest g tells said id
  | above {id parent : String} {d : ItemData} (found : g.get? id = some d) (silent : tells d = none)
      (named : d.parent? = some parent) (onward : Nearest g tells said parent) : Nearest g tells said id

namespace Nearest

variable {said other : α}

theorem unique (nearest : g.Nearest tells said id) (alsoNearest : g.Nearest tells other id) : said = other := by
  induction nearest with
  | own found spoken =>
      cases alsoNearest with
      | own alsoFound alsoSpoken =>
          cases found.symm.trans alsoFound
          exact Option.some.inj (spoken.symm.trans alsoSpoken)
      | above alsoFound silent =>
          cases found.symm.trans alsoFound
          exact absurd (spoken.symm.trans silent) (Option.some_ne_none _)
  | above found silent named _ ih =>
      cases alsoNearest with
      | own alsoFound spoken =>
          cases found.symm.trans alsoFound
          exact absurd (spoken.symm.trans silent) (Option.some_ne_none _)
      | above alsoFound _ alsoNamed onward =>
          cases found.symm.trans alsoFound
          cases named.symm.trans alsoNamed
          exact ih onward

theorem exists_get? (nearest : g.Nearest tells said id) : ∃ d, g.get? id = some d := by
  cases nearest with
  | own found => exact ⟨_, found⟩
  | above found => exact ⟨_, found⟩

/-- The nearest is an item that steps lead to. -/
theorem exists_upward (nearest : g.Nearest tells said id) : ∃ d, g.Upward id d ∧ tells d = some said := by
  induction nearest with
  | own found spoken => exact ⟨_, ⟨_, .refl, found⟩, spoken⟩
  | @above id parent _ found _ named onward ih =>
      rcases ih with ⟨d, ⟨x, steps, reached⟩, spoken⟩
      rcases onward.exists_get? with ⟨e, there⟩
      have step : g.Specializes id parent :=
        ⟨by rw [parentOf?, found, Option.bind_some, named], Option.isSome_of_eq_some there⟩
      exact ⟨d, ⟨x, .head step steps, reached⟩, spoken⟩

end Nearest

/-- What a walk finds first is what the nearest says that its start leads to. -/
theorem nearest_of_ancestorsFrom {steps : Nat} {passed : List String} {parent : Option String} {said : α}
    (first : (g.ancestorsFrom steps passed parent).findSome? tells = some said) :
    ∃ start, parent = some start ∧ g.Nearest tells said start := by
  fun_induction g.ancestorsFrom steps passed parent with
  | case1 => cases first
  | case2 => cases first
  | case3 => cases first
  | case4 => cases first
  | case5 steps passed start fresh item found ih =>
      refine ⟨start, rfl, ?_⟩
      rw [List.findSome?_cons] at first
      cases spoken : tells item with
      | some here =>
          rw [spoken] at first
          exact .own found (spoken.trans first)
      | none =>
          rw [spoken] at first
          rcases ih first with ⟨parent, named, onward⟩
          exact .above found spoken named onward

theorem nearest_of_inherited {said : α} (first : g.inherited id tells = some said) : g.Nearest tells said id := by
  rw [inherited, line, List.findSome?_append, Option.or_eq_some_iff] at first
  rcases first with here | ⟨notHere, above⟩
  · rcases List.exists_of_findSome?_eq_some here with ⟨d, isFound, spoken⟩
    exact .own (Option.mem_toList.mp isFound) spoken
  · rcases nearest_of_ancestorsFrom above with ⟨parent, isNamed, onward⟩
    rcases Option.bind_eq_some_iff.mp isNamed with ⟨d, found, named⟩
    have silent : tells d = none := List.findSome?_eq_none_iff.mp notHere d (Option.mem_toList.mpr found)
    exact .above found silent named onward

/-- What is taken over is what the nearest says. -/
theorem inherited_eq_some_iff {said : α} : g.inherited id tells = some said ↔ g.Nearest tells said id := by
  constructor
  · exact nearest_of_inherited
  · intro nearest
    rcases nearest.exists_upward with ⟨d, upward, spoken⟩
    have any : (g.inherited id tells).isSome = true := by
      rw [inherited, List.isSome_findSome?, List.any_eq_true]
      exact ⟨d, mem_line_iff.mpr upward, Option.isSome_of_eq_some spoken⟩
    rcases Option.isSome_iff_exists.mp any with ⟨other, first⟩
    rw [first, nearest.unique (nearest_of_inherited first)]

/-- What counts for an identifier: what the nearest says, and what is standard if nothing is said. -/
def Effective (g : Graph) (tells : ItemData → Option α) (standard : α) (id : String) (said : α) : Prop :=
  g.Nearest tells said id ∨ (∀ other, ¬ g.Nearest tells other id) ∧ said = standard

theorem effective_iff {standard said : α} :
    g.Effective tells standard id said ↔ (g.inherited id tells).getD standard = said := by
  simp only [Effective, ← inherited_eq_some_iff]
  cases g.inherited id tells with
  | none => simp [eq_comm]
  | some here => simp

theorem facet?_eq_some_iff {declares : PropertyClass → Option α} {said : α} :
    g.facet? id declares = some said ↔ g.Nearest (ItemData.declared declares) said id := by
  rw [← inherited_eq_some_iff]
  rfl

theorem endpoints?_eq_some_iff {endpoints : List String} :
    g.endpoints? id = some endpoints ↔ g.Nearest ItemData.declaredEndpoints endpoints id := by
  rw [← inherited_eq_some_iff]
  rfl

theorem sourceLink?_eq_some_iff {link : String} :
    g.sourceLink? id = some link ↔ g.Nearest ItemData.declaredSourceLink link id := by
  rw [← inherited_eq_some_iff]
  rfl

theorem targetLink?_eq_some_iff {link : String} :
    g.targetLink? id = some link ↔ g.Nearest ItemData.declaredTargetLink link id := by
  rw [← inherited_eq_some_iff]
  rfl

/-! ## Lists that are joined -/

section Lists

variable {lists : ItemData → Option (List String)}

/-- Some item that steps lead to has a list. -/
def Restricts (g : Graph) (lists : ItemData → Option (List String)) (id : String) : Prop :=
  ∃ d list, g.Upward id d ∧ lists d = some list

/-- Some item that steps lead to has a list with a name in it. -/
def Lists (g : Graph) (lists : ItemData → Option (List String)) (id name : String) : Prop :=
  ∃ d list, g.Upward id d ∧ lists d = some list ∧ name ∈ list

theorem joined_isSome_iff {all : List (List String)} : (joined all).isSome = true ↔ ∃ list, list ∈ all := by
  rw [joined]
  cases all with
  | nil => simp
  | cons first rest => simp

theorem getD_joined (all : List (List String)) : (joined all).getD [] = all.flatten := by
  rw [joined]
  cases all with
  | nil => rfl
  | cons first rest => rfl

theorem joined_line_isSome_iff : (joined ((g.line id).filterMap lists)).isSome = true ↔ g.Restricts lists id := by
  simp only [joined_isSome_iff, Restricts, List.mem_filterMap, mem_line_iff]
  exact exists_comm

theorem mem_joined_line_iff {name : String} :
    name ∈ (joined ((g.line id).filterMap lists)).getD [] ↔ g.Lists lists id name := by
  simp only [getD_joined, List.mem_flatten, List.mem_filterMap, mem_line_iff]
  constructor
  · rintro ⟨list, ⟨d, upward, has⟩, member⟩
    exact ⟨d, list, upward, has, member⟩
  · rintro ⟨d, list, upward, has, member⟩
    exact ⟨list, ⟨d, upward, has⟩, member⟩

end Lists

theorem properties?_eq : g.properties? id =
    (joined ((g.line id).filterMap ItemData.listedProperties)).map List.eraseDups := rfl

theorem properties?_isSome_iff : (g.properties? id).isSome = true ↔ g.Restricts ItemData.listedProperties id := by
  rw [← joined_line_isSome_iff, properties?_eq, Option.isSome_map]

/-- A class allows the properties that are listed upward, although each is named once. -/
theorem mem_properties?_iff {name : String} :
    name ∈ (g.properties? id).getD [] ↔ g.Lists ItemData.listedProperties id name := by
  rw [← mem_joined_line_iff, properties?_eq]
  cases joined ((g.line id).filterMap ItemData.listedProperties) with
  | none => exact Iff.rfl
  | some list => exact List.mem_eraseDups

theorem targetLinks?_isSome_iff : (g.targetLinks? id).isSome = true ↔ g.Restricts ItemData.listedTargetLinks id :=
  joined_line_isSome_iff

theorem mem_targetLinks?_iff {name : String} :
    name ∈ (g.targetLinks? id).getD [] ↔ g.Lists ItemData.listedTargetLinks id name :=
  mem_joined_line_iff

end Graph
end ProductGraph
