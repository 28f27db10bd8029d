import ProductGraph.Proofs.Consistency.Order
import ProductGraph.Proofs.Graph.Specialized

namespace ProductGraph

/-!
# The verdict does not see specializations that say nothing

A class is specialized by a new one that declares nothing, and an individual is moved to it.  The verdict stays the
same: what a check asks about the new class has the answer that it has for the old one, what it asks about other
classes is answered from items that the new class does not concern, and the new class itself breaks no rule.

This includes graphs that break rules already, and in whatever way.  What a violation says may change, since it may
name the class of the individual.
-/

open ItemData

namespace Consistency

variable {c d e sub : ItemData} {old fresh : String}

/-! ## What the checks look at is named -/

theorem mem_names_of_mem_linksOf {l : LinkValue} (member : l ∈ linksOf d) :
    l.hasClass ∈ d.names ∧ l.idRef ∈ d.names := by
  have ofLists (within : l ∈ d.sourceLinks ++ d.targetLinks) : l.hasClass ∈ d.names ∧ l.idRef ∈ d.names :=
    (List.mem_append.mp within).elim mem_names_of_mem_sourceLinks mem_names_of_mem_targetLinks
  cases d with
  | sourceLink => simp_all [linksOf, names]
  | targetLink => simp_all [linksOf, names]
  | _ => exact ofLists member

theorem mem_names_of_mem_valuesOf {v : PropertyValue} (member : v ∈ valuesOf d) : v.hasClass ∈ d.names := by
  cases d with
  | property => simp_all [valuesOf, names]
  | _ => exact mem_names_of_mem_properties member

theorem mem_names_of_mem_allowedLinks {g : Graph} {role : LinkRole × Option (List String) × List LinkValue}
    (member : role ∈ allowedLinks g d) {l : LinkValue} (inside : l ∈ role.2.2) : l.hasClass ∈ d.names := by
  cases d with
  | entity e =>
      cases List.mem_singleton.mp member
      exact (mem_names_of_mem_targetLinks (d := .entity e) inside).1
  | relationship r =>
      rcases List.mem_cons.mp member with rfl | last
      · exact (mem_names_of_mem_sourceLinks (d := .relationship r) inside).1
      · cases List.mem_singleton.mp last
        exact (mem_names_of_mem_targetLinks (d := .relationship r) inside).1
  | _ => cases member

/-! ## What does not change with the class -/

theorem linksOf_of_reclassed (moved : Reclassed old fresh d e) : linksOf e = linksOf d := by
  cases moved <;> rfl

theorem valuesOf_of_reclassed (moved : Reclassed old fresh d e) : valuesOf e = valuesOf d := by
  cases moved <;> rfl

theorem linksOf_of_specialization? (bare : c.specialization? fresh = some sub) : linksOf sub = [] := by
  cases c <;> cases bare <;> rfl

theorem valuesOf_of_specialization? (bare : c.specialization? fresh = some sub) : valuesOf sub = [] := by
  cases c <;> cases bare <;> rfl

end Consistency

namespace Graph
namespace Specialized

open Consistency

variable {g h : Graph} {c sub d e : ItemData} {old fresh : String}

/-! ## Items -/

/-- Some item has a property exactly if one had before, provided that the moved individuals have it as they had before
and the new class does not have it. -/
theorem any_items (s : Specialized g h c sub old fresh) {test other : ItemData → Bool} (silent : other sub = false)
    (agree : ∀ d ∈ g.items, ∀ e, Reclassed old fresh d e → other e = test d) :
    h.items.any other = g.items.any test := by
  rcases s.items with ⟨moved, made, reclassed⟩
  have within : List.Forall₂ (fun d e => d ∈ g.items ∧ Reclassed old fresh d e) g.items moved :=
    (List.forall₂_and_left _ _).mpr ⟨fun _ member => member, reclassed⟩
  rw [made, List.any_append, List.any_cons, List.any_nil, silent, Bool.or_false, Bool.or_false]
  exact any_eq_of_related (fun both => agree _ both.1 _ both.2) within

theorem any_individuals (s : Specialized g h c sub old fresh) {test other : ItemData → Bool}
    (agree : ∀ d ∈ g.items, ∀ e, Reclassed old fresh d e → d.kind.isIndividual = true → other e = test d) :
    h.individuals.any other = g.individuals.any test := by
  have noIndividual : sub.kind.isIndividual = false := by
    have isClass := isClass_of_specialization? s.bare
    cases kind : sub.kind <;> simp_all [Kind.isClass, Kind.isIndividual]
  rw [individuals, individuals, List.any_filter, List.any_filter]
  refine s.any_items (by rw [noIndividual]; rfl) fun d member e moved => ?_
  rw [moved.resembles.kind_eq]
  cases individual : d.kind.isIndividual with
  | false => rfl
  | true => rw [agree d member e moved individual]

/-! ## References -/

/-- A reference to the new class is as good as one to the old one. -/
theorem isSome_referenceCause? (s : Specialized g h c sub old fresh) (r : Reference) :
    (referenceCause? h r).isSome = (referenceCause? g { r with target := standsFor old fresh r.target }).isSome := by
  by_cases added : r.target = fresh
  · rw [referenceCause?, referenceCause?, added, s.get?_fresh, standsFor_fresh, s.resolves]
    simp only [kind_of_specialization? s.bare]
    split <;> rfl
  · rw [standsFor_of_ne old added, s.mirrors.isSome_referenceCause? added]

/-- An individual that was moved refers to the new class instead of the old one, and to nothing else that is new. -/
theorem references_eq (s : Specialized g h c sub old fresh) (member : d ∈ g.items) (moved : Reclassed old fresh d e) :
    references d = (references e).map fun r => { r with target := standsFor old fresh r.target } := by
  have known : ∀ {id : String}, id ∈ d.names → standsFor old fresh id = id := fun named =>
    standsFor_of_ne old (s.ne_of_mem_names member named)
  rw [references, references, moved.resembles.kind_eq, moved.resembles.parent?_eq, moved.properties_eq,
    moved.sourceLinks_eq, moved.targetLinks_eq, s.hasClass_eq member moved]
  cases d.kind.isClass with
  | true =>
      cases named : d.parent? with
      | none => rfl
      | some parent => simp [known (mem_names_of_parent? named)]
  | false =>
      simp only [Bool.false_eq_true, if_false, List.map_append, List.map_map]
      refine congrArg₂ (· ++ ·) (congrArg₂ (· ++ ·) ?_ ?_) (congrArg₂ (· ++ ·) ?_ ?_)
      · cases e.hasClass <;> cases d.kind.classKind <;> rfl
      · exact List.map_congr_left fun p inside => by simp [known (mem_names_of_mem_properties inside)]
      · exact List.map_congr_left fun l inside => by simp [known (mem_names_of_mem_sourceLinks inside).1]
      · exact List.map_congr_left fun l inside => by simp [known (mem_names_of_mem_targetLinks inside).1]

theorem isSome_classReferences (s : Specialized g h c sub old fresh) :
    (classReferences h).isSome = (classReferences g).isSome := by
  rw [Consistency.isSome_classReferences, Consistency.isSome_classReferences]
  refine s.any_items ?_ fun d member e moved => ?_
  · -- The new class refers to the old one, which is found and of its kind.
    have only : references sub = [⟨"specializes", old, sub.kind⟩] := by
      rw [references, isClass_of_specialization? s.bare, parent?_of_specialization? s.bare, id?_of_get? s.resolves]
      rfl
    rw [only, List.any_cons, List.any_nil, Bool.or_false, s.isSome_referenceCause?,
      standsFor_of_ne old s.old_ne, referenceCause?, s.resolves, kind_of_specialization? s.bare]
    simp
  · rw [s.references_eq member moved, List.any_map]
    exact List.any_congr rfl s.isSome_referenceCause?

theorem isSome_specializationCycles (s : Specialized g h c sub old fresh) :
    (specializationCycles h).isSome = (specializationCycles g).isSome := by
  rw [Consistency.isSome_specializationCycles, Consistency.isSome_specializationCycles]
  refine s.any_items ?_ fun d member e moved => ?_
  · rw [id?_of_specialization? s.bare, Option.any_some, s.cycle?_fresh, Bool.and_false]
  · rw [moved.resembles.parent?_eq, moved.resembles.id?_eq]
    cases own : d.id? with
    | none => rfl
    | some id =>
        rw [Option.any_some, Option.any_some,
          s.mirrors.isSome_cycle? (s.ne_of_mem_names member (mem_names_of_id? own))]

/-! ## Individuals and their classes -/

/-- An individual has a class, which the class that it was moved to stands for. -/
theorem exists_hasClass (s : Specialized g h c sub old fresh) (member : d ∈ g.items) (moved : Reclassed old fresh d e)
    (individual : d.kind.isIndividual = true) :
    ∃ id, e.hasClass = some id ∧ d.hasClass = some (standsFor old fresh id) := by
  have same := s.hasClass_eq member moved
  cases ofClass : e.hasClass with
  | some id => exact ⟨id, rfl, by rw [same, ofClass]; rfl⟩
  | none =>
      rw [ofClass] at same
      cases d with
      | entity => cases same
      | relationship => cases same
      | _ => cases individual

theorem isSome_cardinality (s : Specialized g h c sub old fresh) (lang : String) :
    (cardinality h lang).isSome = (cardinality g lang).isSome := by
  rw [Consistency.isSome_cardinality, Consistency.isSome_cardinality]
  refine s.any_individuals fun d member e moved individual => ?_
  rcases s.exists_hasClass member moved individual with ⟨id, there, here⟩
  refine s.mirrors.isSome_individualCardinality lang (moved.properties_eq ▸ .refl _)
    (fun v inside => s.ne_of_mem_names member (mem_names_of_mem_properties inside)) ?_ ?_
  · rw [there, here, Option.bind_some, Option.bind_some, s.properties?_eq]
  · rw [here, Option.bind_some]
    cases listed : g.properties? (standsFor old fresh id) with
    | none => nofun
    | some list => exact fun p inside => s.ne_of_mem_properties? listed inside

theorem isSome_eligibleProperties (s : Specialized g h c sub old fresh) :
    (eligibleProperties h).isSome = (eligibleProperties g).isSome := by
  rw [Consistency.isSome_eligibleProperties, Consistency.isSome_eligibleProperties]
  refine s.any_individuals fun d member e moved individual => ?_
  rcases s.exists_hasClass member moved individual with ⟨id, there, here⟩
  rw [there, here, Option.getD_some, Option.getD_some, s.properties?_eq, moved.properties_eq]
  refine s.mirrors.hasForeign_eq _ (.refl _) (List.forall_mem_map.mpr fun v inside => ?_)
  exact s.ne_of_mem_names member (mem_names_of_mem_properties inside)

/-- The class that an individual was moved to allows the links that its own class allowed. -/
theorem allowedLinks_eq (s : Specialized g h c sub old fresh) (member : d ∈ g.items) (moved : Reclassed old fresh d e) :
    allowedLinks h e = allowedLinks g d := by
  have same := s.hasClass_eq member moved
  cases moved with
  | same =>
      cases d with
      | entity => rw [allowedLinks, allowedLinks, s.targetLinks?_eq, ← Option.some.inj same]
      | relationship =>
          rw [allowedLinks, allowedLinks, s.sourceLink?_eq, s.targetLink?_eq, ← Option.some.inj same]
      | _ => rfl
  | entity e ofClass => rw [allowedLinks, allowedLinks, s.targetLinks?_eq, standsFor_fresh, ofClass]
  | relationship r ofClass =>
      rw [allowedLinks, allowedLinks, s.sourceLink?_eq, s.targetLink?_eq, standsFor_fresh, ofClass]

theorem isSome_eligibleLinks (s : Specialized g h c sub old fresh) :
    (eligibleLinks h).isSome = (eligibleLinks g).isSome := by
  rw [Consistency.isSome_eligibleLinks, Consistency.isSome_eligibleLinks]
  refine s.any_individuals fun d member e moved individual => ?_
  rw [s.allowedLinks_eq member moved]
  refine any_eq_of_mem fun role inside => s.mirrors.hasForeign_eq _ (.refl _) (List.forall_mem_map.mpr fun l own => ?_)
  exact s.ne_of_mem_names member (mem_names_of_mem_allowedLinks inside own)

/-! ## Ends of links -/

/-- The new class is as good at the end of a link as the old one. -/
theorem hasForeign_singleton (s : Specialized g h c sub old fresh) {link : String} (id : String) :
    hasForeign h (g.endpoints? link) [id] = hasForeign g (g.endpoints? link) [standsFor old fresh id] := by
  cases allowed : g.endpoints? link with
  | none => rfl
  | some endpoints =>
      have same : (endpoints.any fun e => h.isA id e) = endpoints.any fun e => g.isA (standsFor old fresh id) e :=
        any_eq_of_mem fun e inside => s.isA_eq id (s.ne_of_mem_endpoints? allowed inside)
      simp only [hasForeign, Option.any_some, List.any_cons, List.any_nil, same]

/-- The class that an item counts as at the end of a link is its own, or the one that its own stands for. -/
theorem classAtEnd_eq (s : Specialized g h c sub old fresh) (member : d ∈ g.items) (moved : Reclassed old fresh d e)
    {id : String} (own : d.id? = some id) : classAtEnd d = standsFor old fresh (classAtEnd e) := by
  rw [classAtEnd, classAtEnd, moved.resembles.kind_eq, moved.resembles.label_eq]
  cases isClass : d.kind.isClass with
  | true => simp [label, own, standsFor_of_ne old (s.ne_of_mem_names member (mem_names_of_id? own))]
  | false =>
      have individual : d.kind.isIndividual = true := by
        cases d with
        | entity => rfl
        | relationship => rfl
        | property => cases own
        | sourceLink => cases own
        | targetLink => cases own
        | _ => cases isClass
      rcases s.exists_hasClass member moved individual with ⟨ofClass, there, here⟩
      simp [there, here]

theorem isSome_linkTargets (s : Specialized g h c sub old fresh) :
    (linkTargets h).isSome = (linkTargets g).isSome := by
  rw [Consistency.isSome_linkTargets, Consistency.isSome_linkTargets]
  refine s.any_items (by rw [linksOf_of_specialization? s.bare]; rfl) fun d member e moved => ?_
  rw [linksOf_of_reclassed moved]
  refine any_eq_of_mem fun link inside => ?_
  have known := mem_names_of_mem_linksOf inside
  refine s.mirrors.isSome_targetCause? (s.ne_of_mem_names member known.2) (s.ne_of_mem_names member known.1) ?_
  intro target target' here there
  rcases s.found (s.ne_of_mem_names member known.2) with ⟨none, _⟩ | ⟨x, x', here', there', alsoMoved⟩
  · exact absurd (none.symm.trans here) nofun
  · cases here.symm.trans here'
    cases there.symm.trans there'
    rw [s.hasForeign_singleton, s.classAtEnd_eq (mem_of_get? here) alsoMoved (id?_of_get? here)]

theorem isSome_valueConstraints (s : Specialized g h c sub old fresh) :
    (valueConstraints h).isSome = (valueConstraints g).isSome := by
  rw [Consistency.isSome_valueConstraints, Consistency.isSome_valueConstraints]
  refine s.any_items (by rw [valuesOf_of_specialization? s.bare]; rfl) fun d member e moved => ?_
  rw [valuesOf_of_reclassed moved]
  refine any_eq_of_mem fun v inside => ?_
  rw [s.mirrors.valueCause?_eq (s.ne_of_mem_names member (mem_names_of_mem_valuesOf inside))]

/-! ## Verdicts -/

/-- The identifier of the new class is the only one that was added. -/
theorem ids_eq (s : Specialized g h c sub old fresh) : h.ids = g.ids ++ [fresh] := by
  rcases s.items with ⟨moved, made, reclassed⟩
  rw [ids, made, List.filterMap_append, List.filterMap_cons_some (id?_of_specialization? s.bare), List.filterMap_nil,
    filterMap_eq_of_related (·.resembles.id?_eq) reclassed]
  rfl

theorem isSome_duplicateIds (s : Specialized g h c sub old fresh) (lang : String) :
    (h.violation? lang .duplicateIds).isSome = (g.violation? lang .duplicateIds).isSome := by
  have new : fresh ∉ g.ids := by
    intro used
    rcases List.mem_filterMap.mp used with ⟨d, member, own⟩
    exact s.unnamed d member (mem_names_of_id? own)
  rw [Bool.eq_iff_iff, Graph.isSome_duplicateIds, Graph.isSome_duplicateIds, s.ids_eq, List.nodup_append_comm,
    List.singleton_append, List.nodup_cons, and_iff_right new]

/-- Every check finds something in both graphs or in neither. -/
theorem isSome_violation? (s : Specialized g h c sub old fresh) (lang : String) (check : Check) :
    (h.violation? lang check).isSome = (g.violation? lang check).isSome := by
  cases check with
  | duplicateIds => exact s.isSome_duplicateIds lang
  | classReferences => exact s.isSome_classReferences
  | specializationCycles => exact s.isSome_specializationCycles
  | cardinality => exact s.isSome_cardinality lang
  | linkTargets => exact s.isSome_linkTargets
  | eligibleProperties => exact s.isSome_eligibleProperties
  | eligibleLinks => exact s.isSome_eligibleLinks
  | valueConstraints => exact s.isSome_valueConstraints

end Specialized

/-- The check that a verdict names, or that it names none, stays the same if a class is specialized by a new one that
says nothing, and an individual of the class is moved to the new one. -/
theorem check_of_specialized {before after : List ItemData} {c d sub moved : ItemData} {old fresh : String}
    (resolves : (⟨before ++ d :: after⟩ : Graph).get? old = some c) (bare : c.specialization? fresh = some sub)
    (unnamed : ∀ e ∈ before ++ d :: after, fresh ∉ e.names) (ofClass : d.hasClass = some old)
    (reclassed : d.withClass? fresh = some moved) (requested : CheckSet) (lang : String) :
    ((⟨before ++ moved :: after ++ [sub]⟩ : Graph).check requested lang).map Violation.check =
      ((⟨before ++ d :: after⟩ : Graph).check requested lang).map Violation.check := by
  have others (list : List ItemData) : List.Forall₂ (Reclassed old fresh) list list :=
    List.forall₂_same.mpr fun e _ => .same e
  have s : Specialized ⟨before ++ d :: after⟩ ⟨before ++ moved :: after ++ [sub]⟩ c sub old fresh :=
    ⟨resolves, bare, unnamed, _, rfl,
      List.rel_append (others before) (.cons (.of_withClass? ofClass reclassed) (others after))⟩
  rw [map_check_check, map_check_check]
  congr 1
  funext check
  exact s.isSome_violation? lang check

/-- The car with two colours, moved to a class of sports cars that takes over all from the class of cars. -/
theorem check_of_specialized_car :
    ∃ sub moved, ItemData.specialization? (carClasses[1]) "ex:SportsCar" = some sub ∧
      (colouredCar ["red", "blue"]).withClass? "ex:SportsCar" = some moved ∧
      ((⟨carClasses ++ moved :: [] ++ [sub]⟩ : Graph).check .all "en").map Violation.check =
        ((⟨carClasses ++ [colouredCar ["red", "blue"]]⟩ : Graph).check .all "en").map Violation.check ∧
      ((⟨carClasses ++ [colouredCar ["red", "blue"]]⟩ : Graph).check .all "en").map Violation.check =
        some .cardinality :=
  have resolves : (⟨carClasses ++ [colouredCar ["red", "blue"]]⟩ : Graph).get? "ex:Car" = some carClasses[1] := rfl
  ⟨_, _, rfl, rfl, check_of_specialized resolves rfl (by decide) rfl rfl .all "en", by decide⟩

end Graph
end ProductGraph
