import Mathlib.Data.Finset.Card
import ProductGraph.Proofs.Graph.Climb

namespace ProductGraph
namespace Graph

/-!
# The line upward

The items that an item specializes are collected by a walk that ends at the first parent that is not found or was
passed before, and that is allowed a bounded number of steps.  None of the three cuts off anything: the bound is never
reached, a parent that is not found has no parent, and what is met after a repetition was met before it.  So an item
with an identifier is in the line exactly if some climb leads to this identifier, and being a class or specializing it
is what a climb decides.
-/

variable {g : Graph}

/-! ## Bounds on the steps of a walk -/

/-- The number of identifiers of a graph that a walk has not passed. -/
def unpassed (g : Graph) (passed : List String) : Nat := (g.ids.toFinset \ passed.toFinset).card

theorem unpassed_le (g : Graph) (passed : List String) : g.unpassed passed ≤ g.items.length :=
  (Finset.card_le_card Finset.sdiff_subset).trans
    ((List.toFinset_card_le _).trans (List.length_filterMap_le ItemData.id? g.items))

theorem unpassed_lt {parent : String} {d : ItemData} (found : g.get? parent = some d) {passed : List String}
    (before : passed.contains parent = false) : g.unpassed (parent :: passed) < g.unpassed passed := by
  have known : parent ∈ g.ids := mem_ids_of_mem (mem_of_get? found) (id?_of_get? found)
  have fresh : parent ∉ passed := fun member => absurd (List.contains_iff_mem.mpr member) (by rw [before]; nofun)
  rw [unpassed, unpassed, List.toFinset_cons, Finset.sdiff_insert]
  exact Finset.card_erase_lt_of_mem
    (Finset.mem_sdiff.mpr ⟨List.mem_toFinset.mpr known, fun member => fresh (List.mem_toFinset.mp member)⟩)

/-- A walk with a step for each identifier that is left takes no other course with more steps. -/
theorem ancestorsFrom_eq {steps more : Nat} {passed : List String} {parent : Option String}
    (enough : g.unpassed passed < steps) (alsoEnough : g.unpassed passed < more) :
    g.ancestorsFrom steps passed parent = g.ancestorsFrom more passed parent := by
  induction steps generalizing more passed parent with
  | zero => exact absurd enough (Nat.not_lt_zero _)
  | succ steps ih =>
      rcases Nat.exists_eq_succ_of_ne_zero (Nat.ne_of_gt (Nat.zero_lt_of_lt alsoEnough)) with ⟨more, rfl⟩
      cases parent with
      | none => rfl
      | some parent =>
          rw [ancestorsFrom, ancestorsFrom]
          split
          · rfl
          · rename_i before
            cases found : g.get? parent with
            | none => rfl
            | some d =>
                have fewer := unpassed_lt found (Bool.not_eq_true _ ▸ before)
                simp only
                rw [ih (Nat.lt_of_lt_of_le fewer (Nat.le_of_lt_succ enough))
                  (Nat.lt_of_lt_of_le fewer (Nat.le_of_lt_succ alsoEnough))]

theorem ancestors_eq {steps : Nat} (enough : g.items.length < steps) (id : String) :
    g.ancestors id = g.ancestorsFrom steps [id] (g.parentOf? id) :=
  ancestorsFrom_eq (Nat.lt_succ_of_le (g.unpassed_le _)) (Nat.lt_of_le_of_lt (g.unpassed_le _) enough)

/-- The items that a walk finds are found under their identifiers. -/
theorem exists_get?_of_mem_ancestorsFrom {steps : Nat} {passed : List String} {parent : Option String} {d : ItemData}
    (member : d ∈ g.ancestorsFrom steps passed parent) : ∃ id, g.get? id = some d := by
  fun_induction g.ancestorsFrom steps passed parent with
  | case1 => cases member
  | case2 => cases member
  | case3 => cases member
  | case4 => cases member
  | case5 _ _ parent _ item found ih =>
      rcases List.mem_cons.mp member with rfl | later
      · exact ⟨parent, found⟩
      · exact ih later

theorem exists_get?_of_mem_line {id : String} {d : ItemData} (member : d ∈ g.line id) : ∃ x, g.get? x = some d := by
  rcases List.mem_append.mp member with here | later
  · exact ⟨id, Option.mem_toList.mp here⟩
  · exact exists_get?_of_mem_ancestorsFrom later

theorem mem_items_of_mem_line {id : String} {d : ItemData} (member : d ∈ g.line id) : d ∈ g.items := by
  rcases exists_get?_of_mem_line member with ⟨x, found⟩
  exact mem_of_get? found

/-! ## What a walk finds -/

/-- The parents from an identifier on lead to an item, and neither it nor anything before it is among some
identifiers. -/
inductive LeadsTo (g : Graph) (passed : List String) (target : String) : String → Prop
  | here (fresh : target ∉ passed) (found : (g.get? target).isSome = true) : LeadsTo g passed target target
  | up {id parent : String} (fresh : id ∉ passed) (named : g.parentOf? id = some parent)
      (onward : LeadsTo g passed target parent) : LeadsTo g passed target id

namespace LeadsTo

variable {passed more : List String} {target id : String}

theorem start_fresh (leads : g.LeadsTo passed target id) : id ∉ passed := by
  cases leads with
  | here fresh => exact fresh
  | up fresh => exact fresh

theorem mono (fewer : passed ⊆ more) (leads : g.LeadsTo more target id) : g.LeadsTo passed target id := by
  induction leads with
  | here fresh found => exact .here (fun member => fresh (fewer member)) found
  | up fresh named _ ih => exact .up (fun member => fresh (fewer member)) named ih

/-- Either the way does not meet an identifier at all, or it can be taken from there. -/
theorem meets (leads : g.LeadsTo passed target id) (middle : String) :
    g.LeadsTo (middle :: passed) target id ∨ target = middle ∨
      ∃ parent, g.parentOf? middle = some parent ∧ g.LeadsTo (middle :: passed) target parent := by
  induction leads with
  | here fresh found =>
      by_cases same : target = middle
      · exact .inr (.inl same)
      · exact .inl (.here (List.not_mem_cons_of_ne_of_not_mem same fresh) found)
  | @up id parent fresh named _ ih =>
      refine ih.elim (fun onward => ?_) .inr
      by_cases same : id = middle
      · exact .inr (.inr ⟨parent, same ▸ named, onward⟩)
      · exact .inl (.up (List.not_mem_cons_of_ne_of_not_mem same fresh) named onward)

/-- Where nothing is to be avoided, the way is a climb to an item. -/
theorem nil_iff : g.LeadsTo [] target id ↔ (g.get? target).isSome = true ∧ ∃ n, g.climb? id n = some target := by
  constructor
  · intro leads
    induction leads with
    | here _ found => exact ⟨found, 0, rfl⟩
    | up _ named _ ih =>
        rcases ih with ⟨found, n, reached⟩
        exact ⟨found, n + 1, by rw [climb?_succ, named, Option.bind_some, reached]⟩
  · rintro ⟨found, n, reached⟩
    induction n generalizing id with
    | zero =>
        cases reached
        exact .here List.not_mem_nil found
    | succ n ih =>
        rw [climb?_succ] at reached
        rcases Option.bind_eq_some_iff.mp reached with ⟨parent, named, onward⟩
        exact .up List.not_mem_nil named (ih onward)

end LeadsTo

/-- With a step for each identifier that is left, a walk finds all that its start leads to past what was passed. -/
theorem mem_ancestorsFrom_iff {steps : Nat} {passed : List String} {parent : Option String} {target : String}
    (enough : g.unpassed passed < steps) :
    target ∈ (g.ancestorsFrom steps passed parent).filterMap ItemData.id? ↔
      ∃ start, parent = some start ∧ g.LeadsTo passed target start := by
  induction steps generalizing passed parent with
  | zero => exact absurd enough (Nat.not_lt_zero _)
  | succ steps ih =>
      cases parent with
      | none => simp [ancestorsFrom]
      | some start =>
          simp only [Option.some.injEq, exists_eq_left']
          rw [ancestorsFrom]
          split
          · rename_i before
            have met : start ∈ passed := List.contains_iff_mem.mp before
            exact iff_of_false List.not_mem_nil fun leads => leads.start_fresh met
          · rename_i before
            cases found : g.get? start with
            | none =>
                refine iff_of_false List.not_mem_nil fun leads => ?_
                cases leads with
                | here _ isFound => simp [found] at isFound
                | up _ named => simp [parentOf?, found] at named
            | some item =>
                have own : g.parentOf? start = item.parent? := by rw [parentOf?, found, Option.bind_some]
                have fewer := unpassed_lt found (Bool.not_eq_true _ ▸ before)
                have fresh : start ∉ passed := fun member => before (List.contains_iff_mem.mpr member)
                simp only [List.filterMap_cons_some (id?_of_get? found), List.mem_cons]
                rw [ih (Nat.lt_of_lt_of_le fewer (Nat.le_of_lt_succ enough)), ← own]
                constructor
                · rintro (rfl | ⟨next, named, leads⟩)
                  · exact .here fresh (by rw [found]; rfl)
                  · exact .up fresh named (leads.mono (List.subset_cons_self start passed))
                · intro leads
                  exact (leads.meets start).resolve_left fun again => again.start_fresh List.mem_cons_self

/-- The line upward passes exactly the identifiers of items to which a climb leads. -/
theorem mem_lineage_iff {id ancestor : String} :
    ancestor ∈ g.lineage id ↔ (g.get? ancestor).isSome = true ∧ ∃ n, g.climb? id n = some ancestor := by
  have enough : g.unpassed [id] < g.items.length + 1 := Nat.lt_succ_of_le (g.unpassed_le _)
  rw [lineage, line, List.filterMap_append, List.mem_append, ancestors, mem_ancestorsFrom_iff enough,
    ← LeadsTo.nil_iff]
  constructor
  · rintro (itself | ⟨parent, named, leads⟩)
    · rcases List.mem_filterMap.mp itself with ⟨d, isFound, named⟩
      have found := Option.mem_toList.mp isFound
      cases (id?_of_get? found).symm.trans named
      exact .here List.not_mem_nil (Option.isSome_of_eq_some found)
    · exact .up List.not_mem_nil named (leads.mono (List.nil_subset _))
  · intro leads
    rcases leads.meets id with again | rfl | onward
    · exact absurd List.mem_cons_self again.start_fresh
    · rcases Option.isSome_iff_exists.mp (LeadsTo.nil_iff.mp leads).1 with ⟨d, found⟩
      exact .inl (List.mem_filterMap.mpr ⟨d, Option.mem_toList.mpr found, id?_of_get? found⟩)
    · exact .inr onward

/-- An item is a class or specializes it exactly if they are the same or a climb leads from one to the other, which is
found. -/
theorem isA_iff {id ancestor : String} : g.isA id ancestor = true ↔
    id = ancestor ∨ (g.get? ancestor).isSome = true ∧ ∃ n, g.climb? id n = some ancestor := by
  rw [isA, Bool.or_eq_true, beq_iff_eq, List.contains_iff_mem, mem_lineage_iff]

end Graph
end ProductGraph
