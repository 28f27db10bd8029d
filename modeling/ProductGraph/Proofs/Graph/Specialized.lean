import ProductGraph.Proofs.Graph.Mirror
import ProductGraph.Proofs.Item.Written

namespace ProductGraph

/-!
# Specializations that say nothing

A class may be specialized by one that declares nothing itself, and individuals of the class may be moved to it.  The
new class stands for the old one: a walk from it finds the new class first, which has nothing to say, and then all that
a walk from the old class finds.

The identifier of the new class has to be one that no item names.  Nothing else is asked of the graph: identifiers may
be used twice, and parents may lead nowhere or back to where they came from.
-/

namespace ItemData

variable {c d e sub : ItemData} {old fresh id : String}

/-! ## What items name -/

theorem mem_names_of_id? (own : d.id? = some id) : id ∈ d.names := by
  cases d <;> cases own <;> simp [names, Identifiable.names]

theorem mem_names_of_parent? (named : d.parent? = some id) : id ∈ d.names := by
  cases d <;> simp_all [parent?, identifiable, names, Identifiable.names]

theorem mem_names_of_hasClass (named : d.hasClass = some id) : id ∈ d.names := by
  cases d <;> simp_all [hasClass, names]

theorem mem_names_of_mem_properties {p : PropertyValue} (member : p ∈ d.properties) : p.hasClass ∈ d.names := by
  have named := List.mem_map_of_mem (f := PropertyValue.hasClass) member
  cases d with
  | entity => exact List.mem_append_left _ (List.mem_append_right _ named)
  | relationship => exact List.mem_append_left _ (List.mem_append_left _ (List.mem_append_right _ named))
  | _ => cases member

theorem mem_names_of_mem_allNames {l : LinkValue} {links : List LinkValue} (member : l ∈ links) :
    l.hasClass ∈ LinkValue.allNames links ∧ l.idRef ∈ LinkValue.allNames links :=
  ⟨List.mem_flatMap.mpr ⟨l, member, List.mem_cons_self⟩,
    List.mem_flatMap.mpr ⟨l, member, List.mem_cons_of_mem _ List.mem_cons_self⟩⟩

theorem mem_names_of_mem_sourceLinks {l : LinkValue} (member : l ∈ d.sourceLinks) :
    l.hasClass ∈ d.names ∧ l.idRef ∈ d.names := by
  cases d with
  | relationship =>
      exact (mem_names_of_mem_allNames member).imp
        (fun named => List.mem_append_left _ (List.mem_append_right _ (List.mem_cons_of_mem _ named)))
        fun named => List.mem_append_left _ (List.mem_append_right _ (List.mem_cons_of_mem _ named))
  | _ => cases member

theorem mem_names_of_mem_targetLinks {l : LinkValue} (member : l ∈ d.targetLinks) :
    l.hasClass ∈ d.names ∧ l.idRef ∈ d.names := by
  cases d with
  | entity =>
      exact (mem_names_of_mem_allNames member).imp
        (fun named => List.mem_append_right _ (List.mem_cons_of_mem _ named))
        fun named => List.mem_append_right _ (List.mem_cons_of_mem _ named)
  | relationship =>
      exact (mem_names_of_mem_allNames member).imp (List.mem_append_right _) (List.mem_append_right _)
  | _ => cases member

theorem mem_names_of_eligibleProperty {list : List String} (declared : d.element.bind (·.eligibleProperty) = some list)
    (member : id ∈ list) : id ∈ d.names := by
  cases d <;> simp_all [element, names]

theorem mem_names_of_eligibleEndpoint {l : LinkClass} {list : List String} (declared : l.eligibleEndpoint = some list)
    (member : id ∈ list) : id ∈ (linkClass l).names := by
  simp [names, declared, member]

/-! ## The class that says nothing else -/

/-- The class with an identifier that specializes a class and says nothing else; only classes have one. -/
def specialization? (c : ItemData) (fresh : String) : Option ItemData :=
  let identity (parent : Identifiable) : Identifiable := ⟨fresh, some parent.id, [], []⟩
  match c with
  | propertyClass p =>
    some (propertyClass ⟨identity p.identifiable, none, none, none, none, none, none, none, none, none⟩)
  | linkClass l => some (linkClass ⟨identity l.identifiable, none, none⟩)
  | entityClass e => some (entityClass ⟨identity e.identifiable, ⟨none, none⟩, none, none⟩)
  | relationshipClass r => some (relationshipClass ⟨identity r.identifiable, ⟨none, none⟩, none, none, none⟩)
  | _ => none

section Specialization

variable (bare : c.specialization? fresh = some sub)
include bare

theorem id?_of_specialization? : sub.id? = some fresh := by
  cases c <;> cases bare <;> rfl

theorem parent?_of_specialization? : sub.parent? = c.id? := by
  cases c <;> cases bare <;> rfl

theorem kind_of_specialization? : sub.kind = c.kind := by
  cases c <;> cases bare <;> rfl

theorem isClass_of_specialization? : sub.kind.isClass = true := by
  cases c <;> cases bare <;> rfl

/-- What individuals never say and what each class leaves out when it says nothing is not said. -/
theorem eligibleProperty_of_specialization? : sub.element.bind (·.eligibleProperty) = none := by
  cases c <;> cases bare <;> rfl

end Specialization

/-! ## Individuals of another class -/

def withClass? (d : ItemData) (id : String) : Option ItemData :=
  match d with
  | entity e => some (entity { e with hasClass := id })
  | relationship r => some (relationship { r with hasClass := id })
  | _ => none

/-- The same item, or an individual of one class moved to another class. -/
inductive Reclassed (old fresh : String) : ItemData → ItemData → Prop
  | same (d : ItemData) : Reclassed old fresh d d
  | entity (e : Entity) (ofClass : e.hasClass = old) :
      Reclassed old fresh (.entity e) (.entity { e with hasClass := fresh })
  | relationship (r : Relationship) (ofClass : r.hasClass = old) :
      Reclassed old fresh (.relationship r) (.relationship { r with hasClass := fresh })

namespace Reclassed

variable {d e : ItemData}

theorem of_withClass? (ofClass : d.hasClass = some old) (moved : d.withClass? fresh = some e) :
    Reclassed old fresh d e := by
  cases d with
  | entity =>
      cases moved
      exact .entity _ (Option.some.inj ofClass)
  | relationship =>
      cases moved
      exact .relationship _ (Option.some.inj ofClass)
  | _ => cases moved

theorem resembles (h : Reclassed old fresh d e) : Resembles d e := by
  cases h with
  | same => exact .same d
  | entity => exact .entity rfl
  | relationship => exact .relationship rfl

theorem properties_eq (h : Reclassed old fresh d e) : e.properties = d.properties := by
  cases h <;> rfl

theorem sourceLinks_eq (h : Reclassed old fresh d e) : e.sourceLinks = d.sourceLinks := by
  cases h <;> rfl

theorem targetLinks_eq (h : Reclassed old fresh d e) : e.targetLinks = d.targetLinks := by
  cases h <;> rfl

end Reclassed
end ItemData

open ItemData

namespace Graph

/-! ## A graph with a class more -/

/-- The class that an identifier stands for where a class was added that says nothing: the old one for the new one,
and any other for itself. -/
def standsFor (old fresh id : String) : String := if id = fresh then old else id

theorem standsFor_fresh (old fresh : String) : standsFor old fresh fresh = old :=
  if_pos rfl

theorem standsFor_of_ne (old : String) {fresh id : String} (known : id ≠ fresh) : standsFor old fresh id = id :=
  if_neg known

/-- The one graph with a class more, at its end, that specializes a class and says nothing else; individuals of the
one class may have moved to the other. -/
structure Specialized (g h : Graph) (c sub : ItemData) (old fresh : String) : Prop where
  resolves : g.get? old = some c
  bare : c.specialization? fresh = some sub
  unnamed : ∀ d ∈ g.items, fresh ∉ d.names
  items : ∃ moved, h.items = moved ++ [sub] ∧ List.Forall₂ (Reclassed old fresh) g.items moved

namespace Specialized

variable {g h : Graph} {c sub : ItemData} {old fresh id : String}

/-- What items name is known, that is, not the new class. -/
theorem ne_of_mem_names (s : Specialized g h c sub old fresh) {d : ItemData} (member : d ∈ g.items)
    (named : id ∈ d.names) : id ≠ fresh := by
  rintro rfl
  exact s.unnamed d member named

theorem old_ne (s : Specialized g h c sub old fresh) : old ≠ fresh :=
  s.ne_of_mem_names (mem_of_get? s.resolves) (mem_names_of_id? (id?_of_get? s.resolves))

/-- Items under the same identifier in lists of items that were moved to another class. -/
theorem find?_of_reclassed {first second : List ItemData} (moved : List.Forall₂ (Reclassed old fresh) first second)
    (id : String) :
    ((first.find? fun d => d.id? == some id) = none ∧ (second.find? fun d => d.id? == some id) = none) ∨
      ∃ d e, (first.find? fun d => d.id? == some id) = some d ∧ (second.find? fun d => d.id? == some id) = some e ∧
        Reclassed old fresh d e := by
  induction moved with
  | nil => exact .inl ⟨rfl, rfl⟩
  | @cons d e _ _ here _ ih =>
      rw [List.find?_cons, List.find?_cons, here.resembles.id?_eq]
      cases d.id? == some id with
      | true => exact .inr ⟨d, e, rfl, rfl, here⟩
      | false => exact ih

theorem get?_fresh (s : Specialized g h c sub old fresh) : h.get? fresh = some sub := by
  rcases s.items with ⟨moved, made, reclassed⟩
  have own : ([sub].find? fun d => d.id? == some fresh) = some sub :=
    List.find?_cons_of_pos (beq_iff_eq.mpr (id?_of_specialization? s.bare))
  have absent : g.get? fresh = none := by
    cases found : g.get? fresh with
    | none => rfl
    | some d => exact absurd rfl (s.ne_of_mem_names (mem_of_get? found) (mem_names_of_id? (id?_of_get? found)))
  have alsoAbsent : (moved.find? fun d => d.id? == some fresh) = none := by
    rcases find?_of_reclassed reclassed fresh with ⟨_, there⟩ | ⟨d, _, here, _, _⟩
    · exact there
    · exact absurd (absent.symm.trans here) (Option.some_ne_none d).symm
  rw [get?, made, List.find?_append, alsoAbsent, own]
  rfl

/-- Under any other identifier the same item is found, or an individual that was moved. -/
theorem found (s : Specialized g h c sub old fresh) (known : id ≠ fresh) :
    (g.get? id = none ∧ h.get? id = none) ∨
      ∃ d e, g.get? id = some d ∧ h.get? id = some e ∧ Reclassed old fresh d e := by
  rcases s.items with ⟨moved, made, reclassed⟩
  have other : ([sub].find? fun d => d.id? == some id) = none := by
    simp [id?_of_specialization? s.bare, Ne.symm known]
  have only : h.get? id = moved.find? fun d => d.id? == some id := by
    rw [get?, made, List.find?_append, other, Option.or_none]
  rw [only]
  exact find?_of_reclassed reclassed id

theorem mirrors (s : Specialized g h c sub old fresh) : Mirrors (· ≠ fresh) g h where
  found _ known := (s.found known).imp (fun none => none) fun ⟨d, e, here, there, moved⟩ =>
    ⟨d, e, here, there, moved.resembles⟩
  parents _ member _ named := s.ne_of_mem_names member (mem_names_of_parent? named)

/-! ## Walks -/

theorem parentOf?_fresh (s : Specialized g h c sub old fresh) : h.parentOf? fresh = some old := by
  rw [parentOf?, s.get?_fresh, Option.bind_some, parent?_of_specialization? s.bare, id?_of_get? s.resolves]

/-- The walk from the new class finds it and then what the walk from the old class finds. -/
theorem line_fresh (s : Specialized g h c sub old fresh) :
    ∃ above, h.line fresh = sub :: above ∧ List.Forall₂ Resembles (g.line old) above := by
  refine ⟨h.ancestors fresh, by rw [Graph.line, s.get?_fresh]; rfl, ?_⟩
  have steps : g.items.length < g.items.length + h.items.length + 1 := by omega
  have alsoSteps : h.items.length < g.items.length + h.items.length + 2 := by omega
  have unpassed : [fresh].contains old = false := by simp [s.old_ne]
  -- The one walk has passed the new class and the other has not, but neither comes to it.
  have passed : ∀ id, id ≠ fresh → [old, fresh].contains id = [old].contains id := by
    intro id known
    simp [known]
  rw [Graph.line, ancestors_eq steps, ancestors_eq alsoSteps, s.parentOf?_fresh, Graph.ancestorsFrom, unpassed,
    s.resolves]
  rcases s.mirrors.found old s.old_ne with ⟨here, _⟩ | ⟨d, e, here, there, related⟩
  · exact absurd (s.resolves.symm.trans here) (Option.some_ne_none c)
  · cases s.resolves.symm.trans here
    rw [there]
    refine .cons related ?_
    rw [related.parent?_eq, parentOf?, s.resolves]
    exact s.mirrors.ancestorsFrom _ passed fun id named =>
      s.mirrors.parents c (mem_of_get? s.resolves) id named

/-- No walk from the new class comes back to it. -/
theorem cycle?_fresh (s : Specialized g h c sub old fresh) : (h.cycle? fresh).isSome = false := by
  rw [Bool.eq_false_iff, ne_eq, cycle?_isSome_iff]
  rintro ⟨n, positive, back⟩
  rcases Nat.exists_eq_succ_of_ne_zero (Nat.ne_of_gt positive) with ⟨n, rfl⟩
  rw [climb?_succ, s.parentOf?_fresh, Option.bind_some] at back
  rcases s.mirrors.climb?_eq s.old_ne n with ⟨same, known⟩
  exact known fresh (same ▸ back) rfl

theorem isA_eq (s : Specialized g h c sub old fresh) (id : String) {ancestor : String} (known : ancestor ≠ fresh) :
    h.isA id ancestor = g.isA (standsFor old fresh id) ancestor := by
  by_cases added : id = fresh
  · subst added
    rcases s.line_fresh with ⟨above, line, related⟩
    have self : old ∈ g.lineage old := by
      rw [lineage, Graph.line, s.resolves]
      exact List.mem_filterMap.mpr ⟨c, List.mem_cons_self, id?_of_get? s.resolves⟩
    have ids : h.lineage id = id :: g.lineage old := by
      rw [lineage, line, List.filterMap_cons_some (id?_of_specialization? s.bare), lineage,
        filterMap_eq_of_related (·.id?_eq) related]
    rw [Bool.eq_iff_iff, isA, isA, standsFor_fresh, ids]
    by_cases same : ancestor = old
    · simp [same, self]
    · simp [known, Ne.symm known, Ne.symm same]
  · rw [standsFor_of_ne old added, s.mirrors.isA_eq added]

/-! ## Declarations -/

section Declarations

variable {α : Type} {f : ItemData → Option α}

/-- What the new class does not say it takes over as the old one does. -/
theorem inherited_eq (s : Specialized g h c sub old fresh) (classes : SaidByClasses f) (silent : f sub = none)
    (id : String) : h.inherited id f = g.inherited (standsFor old fresh id) f := by
  by_cases added : id = fresh
  · subst added
    rcases s.line_fresh with ⟨above, line, related⟩
    rw [inherited, line, List.findSome?_cons, silent, standsFor_fresh]
    exact findSome?_eq_of_related classes.eq related
  · rw [standsFor_of_ne old added, s.mirrors.inherited_eq added classes]

theorem filterMap_line_eq (s : Specialized g h c sub old fresh) (classes : SaidByClasses f) (silent : f sub = none)
    (id : String) : (h.line id).filterMap f = (g.line (standsFor old fresh id)).filterMap f := by
  by_cases added : id = fresh
  · subst added
    rcases s.line_fresh with ⟨above, line, related⟩
    rw [line, List.filterMap_cons_none silent, standsFor_fresh]
    exact filterMap_eq_of_related classes.eq related
  · rw [standsFor_of_ne old added, s.mirrors.filterMap_line_eq added classes]

end Declarations

theorem sourceLink?_eq (s : Specialized g h c sub old fresh) (id : String) :
    h.sourceLink? id = g.sourceLink? (standsFor old fresh id) :=
  s.inherited_eq ⟨fun _ => rfl, fun _ => rfl⟩ (by have bare := s.bare; cases c <;> cases bare <;> rfl) id

theorem targetLink?_eq (s : Specialized g h c sub old fresh) (id : String) :
    h.targetLink? id = g.targetLink? (standsFor old fresh id) :=
  s.inherited_eq ⟨fun _ => rfl, fun _ => rfl⟩ (by have bare := s.bare; cases c <;> cases bare <;> rfl) id

theorem properties?_eq (s : Specialized g h c sub old fresh) (id : String) :
    h.properties? id = g.properties? (standsFor old fresh id) := by
  rw [properties?, properties?,
    s.filterMap_line_eq ⟨fun _ => rfl, fun _ => rfl⟩ (eligibleProperty_of_specialization? s.bare)]

theorem targetLinks?_eq (s : Specialized g h c sub old fresh) (id : String) :
    h.targetLinks? id = g.targetLinks? (standsFor old fresh id) :=
  congrArg joined (s.filterMap_line_eq ⟨fun _ => rfl, fun _ => rfl⟩
    (by have bare := s.bare; cases c <;> cases bare <;> rfl) id)

/-- The ends that a class of links allows were allowed by an item. -/
theorem ne_of_mem_endpoints? (s : Specialized g h c sub old fresh) {link : String} {endpoints : List String}
    (allowed : g.endpoints? link = some endpoints) (member : id ∈ endpoints) : id ≠ fresh := by
  rcases List.exists_of_findSome?_eq_some allowed with ⟨d, inLine, declared⟩
  cases d with
  | linkClass =>
      exact s.ne_of_mem_names (mem_items_of_mem_line inLine) (mem_names_of_eligibleEndpoint declared member)
  | _ => cases declared

/-- The properties that a class allows were allowed by items. -/
theorem ne_of_mem_properties? (s : Specialized g h c sub old fresh) {ofClass : String} {listed : List String}
    (allowed : g.properties? ofClass = some listed) (member : id ∈ listed) : id ≠ fresh := by
  rcases Option.map_eq_some_iff.mp allowed with ⟨all, isJoined, rfl⟩
  rw [List.mem_eraseDups] at member
  have inSome : id ∈ ((g.line ofClass).filterMap fun d => d.element.bind (·.eligibleProperty)).flatten := by
    rw [joined] at isJoined
    split at isJoined
    · cases isJoined
    · cases isJoined
      exact member
  rcases List.mem_flatten.mp inSome with ⟨list, inLists, inList⟩
  rcases List.mem_filterMap.mp inLists with ⟨d, inLine, declared⟩
  exact s.ne_of_mem_names (mem_items_of_mem_line inLine) (mem_names_of_eligibleProperty declared inList)

/-! ## Individuals -/

/-- The class that an individual was moved to stands for the one that it had. -/
theorem hasClass_eq (s : Specialized g h c sub old fresh) {d e : ItemData} (member : d ∈ g.items)
    (moved : Reclassed old fresh d e) : d.hasClass = e.hasClass.map (standsFor old fresh) := by
  cases moved with
  | same =>
      cases ofClass : d.hasClass with
      | none => rfl
      | some id => rw [Option.map_some, standsFor_of_ne old (s.ne_of_mem_names member (mem_names_of_hasClass ofClass))]
  | entity e ofClass => simp [hasClass, ofClass, standsFor_fresh]
  | relationship r ofClass => simp [hasClass, ofClass, standsFor_fresh]

end Specialized
end Graph
end ProductGraph
