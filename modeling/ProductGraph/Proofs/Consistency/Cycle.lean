import ProductGraph.Proofs.Consistency.Hierarchy

namespace ProductGraph

/-!
# Cycles that are reported

A walk from parent to parent may come back to where it started, run into a cycle that its start is not part of, or
end.  Only the first is a cycle of the start.  What is reported then is the whole way round, and it can be checked
against the graph without looking at the walk that found it: every identifier on it names the next one as its parent.

The check of a whole graph passes over items without a parent.  It misses no cycle by that, although an identifier may
belong to several items and only the first of them is looked up.  An identifier on a cycle has a parent, so the first
of its items is not passed over, and none of its other items stands before that one.
-/

namespace Graph

variable {g : Graph}

/-- Some climb comes back to an identifier. -/
def OnCycle (g : Graph) (id : String) : Prop := ∃ n, 0 < n ∧ g.climb? id n = some id

/-- The way round a cycle: from an identifier back to it, each identifier naming the next as its parent, and none
passed twice before the end. -/
structure IsCycle (g : Graph) (id : String) (path : List String) : Prop where
  starts : path.head? = some id
  ends : path.getLast? = some id
  climbs : path.IsChain fun child parent => g.parentOf? child = some parent
  distinct : path.dropLast.Nodup
  moves : 1 < path.length

theorem acyclic_iff : g.Acyclic ↔ ∀ id, ¬ g.OnCycle id := by
  constructor
  · rintro acyclic id ⟨n, positive, back⟩
    exact acyclic id n positive back
  · intro never id n positive back
    exact never id ⟨n, positive, back⟩

/-! ## The way that a walk reports -/

/-- What a walk reports leads from parent to parent to the start, and meets on its way neither the start nor anything
that was passed nor anything twice. -/
theorem cycleFrom_path {start : String} {steps : Nat} {passed : List String} {current : String} {path : List String}
    (found : g.cycleFrom start steps passed current = some path) :
    path.getLast? = some start ∧ (current :: path).IsChain (fun child parent => g.parentOf? child = some parent) ∧
      (∀ x ∈ path.dropLast, x ≠ start ∧ x ∉ passed) ∧ path.dropLast.Nodup := by
  induction steps generalizing passed current path with
  | zero => cases found
  | succ steps ih =>
      rw [cycleFrom] at found
      split at found
      · cases found
      · rename_i parent named
        split at found
        · rename_i back
          cases found
          exact ⟨congrArg some back, .cons_cons named (.singleton _), List.forall_mem_nil _, .nil⟩
        · rename_i other
          split at found
          · cases found
          · rename_i fresh
            rw [List.contains_iff_mem] at fresh
            rcases Option.map_eq_some_iff.mp found with ⟨rest, onward, rfl⟩
            rcases ih onward with ⟨ends, climbs, apart, distinct⟩
            have longer : rest ≠ [] := by
              rintro rfl
              cases ends
            have before : (parent :: rest).dropLast = parent :: rest.dropLast := List.dropLast_cons_of_ne_nil longer
            refine ⟨?_, .cons_cons named climbs, ?_, ?_⟩
            · rw [List.getLast?_cons_of_ne_nil longer, ends]
            · rw [before]
              refine List.forall_mem_cons.mpr ⟨⟨other, fresh⟩, fun x member => ?_⟩
              exact ⟨(apart x member).1, fun later => (apart x member).2 (List.mem_cons_of_mem _ later)⟩
            · rw [before]
              exact List.nodup_cons.mpr ⟨fun again => (apart parent again).2 List.mem_cons_self, distinct⟩

/-- What is reported of an identifier is a way round a cycle. -/
theorem isCycle_of_cycle? {id : String} {path : List String} (found : g.cycle? id = some path) :
    g.IsCycle id path := by
  rcases Option.map_eq_some_iff.mp found with ⟨rest, walked, rfl⟩
  rcases cycleFrom_path walked with ⟨ends, climbs, apart, distinct⟩
  have longer : rest ≠ [] := by
    rintro rfl
    cases ends
  refine ⟨rfl, ?_, climbs, ?_, ?_⟩
  · rw [List.getLast?_cons_of_ne_nil longer, ends]
  · rw [List.dropLast_cons_of_ne_nil longer]
    exact List.nodup_cons.mpr ⟨fun again => (apart id again).1 rfl, distinct⟩
  · exact Nat.succ_lt_succ (List.length_pos_iff.mpr longer)

/-- A way that leads from parent to parent is a climb to its end. -/
theorem climb?_of_isChain {current last : String} {rest : List String}
    (climbs : (current :: rest).IsChain fun child parent => g.parentOf? child = some parent)
    (ends : (current :: rest).getLast? = some last) : g.climb? current rest.length = some last := by
  induction rest generalizing current with
  | nil => exact ends
  | cons next rest ih =>
      rcases List.isChain_cons_cons.mp climbs with ⟨named, onward⟩
      rw [List.length_cons, climb?_succ, named]
      exact ih onward ends

theorem IsCycle.onCycle {id : String} {path : List String} (cycle : g.IsCycle id path) : g.OnCycle id := by
  rcases path with _ | ⟨first, rest⟩
  · exact absurd cycle.moves (Nat.not_lt_zero 1)
  · cases cycle.starts
    exact ⟨rest.length, Nat.lt_of_succ_lt_succ cycle.moves, climb?_of_isChain cycle.climbs cycle.ends⟩

/-- From one identifier there is one way from parent to parent that stops the first time it meets another. -/
theorem eq_of_isChain {start current : String} {path others : List String}
    (climbs : (current :: path).IsChain fun child parent => g.parentOf? child = some parent)
    (ends : path.getLast? = some start) (before : start ∉ path.dropLast)
    (alsoClimbs : (current :: others).IsChain fun child parent => g.parentOf? child = some parent)
    (alsoEnds : others.getLast? = some start) (alsoBefore : start ∉ others.dropLast) : path = others := by
  induction path generalizing current others with
  | nil => cases ends
  | cons next rest ih =>
      rcases others with _ | ⟨other, more⟩
      · cases alsoEnds
      rcases List.isChain_cons_cons.mp climbs with ⟨named, onward⟩
      rcases List.isChain_cons_cons.mp alsoClimbs with ⟨alsoNamed, alsoOnward⟩
      cases Option.some.inj (named.symm.trans alsoNamed)
      -- Neither way goes on from the start, so both stop here or neither does.
      rcases rest with _ | ⟨x, xs⟩ <;> rcases more with _ | ⟨y, ys⟩
      · rfl
      · cases ends
        exact absurd List.mem_cons_self alsoBefore
      · cases alsoEnds
        exact absurd List.mem_cons_self before
      · have later := fun again => before (List.mem_cons_of_mem next again)
        have alsoLater := fun again => alsoBefore (List.mem_cons_of_mem next again)
        exact congrArg (next :: ·) (ih onward ends later alsoOnward alsoEnds alsoLater)

/-- What is reported of an identifier is exactly the way round its cycle. -/
theorem cycle?_eq_some_iff {id : String} {path : List String} : g.cycle? id = some path ↔ g.IsCycle id path := by
  constructor
  · exact isCycle_of_cycle?
  · intro cycle
    have reported := (cycle?_isSome_iff id).mpr cycle.onCycle
    rcases Option.isSome_iff_exists.mp reported with ⟨other, found⟩
    have alsoCycle := isCycle_of_cycle? found
    have same : ∀ {way : List String}, g.IsCycle id way → ∃ rest, way = id :: rest ∧
        rest.getLast? = some id ∧ id ∉ rest.dropLast := by
      intro way round
      rcases way with _ | ⟨first, _ | ⟨next, rest⟩⟩
      · exact absurd round.moves (Nat.not_lt_zero 1)
      · exact absurd round.moves (Nat.lt_irrefl 1)
      · cases round.starts
        exact ⟨next :: rest, rfl, round.ends, (List.nodup_cons.mp round.distinct).1⟩
    rcases same cycle with ⟨rest, rfl, ends, before⟩
    rcases same alsoCycle with ⟨others, rfl, alsoEnds, alsoBefore⟩
    rw [found, eq_of_isChain cycle.climbs ends before alsoCycle.climbs alsoEnds alsoBefore]

/-! ## The check of a graph -/

/-- What the check says of an item with an identifier on a cycle, if it is the item that is looked up. -/
theorem exists_get?_of_onCycle {id : String} (round : g.OnCycle id) :
    ∃ d, g.get? id = some d ∧ d.parent?.isNone = false := by
  rcases round with ⟨n, positive, back⟩
  rcases exists_get?_of_climb? positive back with ⟨d, parent, found, above⟩
  exact ⟨d, found, by rw [above]; rfl⟩

/-- The check finds nothing exactly if no identifier is on a cycle. -/
theorem specializationCycles_eq_none_iff : Consistency.specializationCycles g = none ↔ ∀ id, ¬ g.OnCycle id := by
  rw [← acyclic_iff]
  refine ⟨acyclic_of_specializationCycles, fun acyclic => List.findSome?_eq_none_iff.mpr fun d _ => ?_⟩
  split
  · rfl
  · rename_i id _
    split
    · rfl
    · rw [Option.map_eq_none_iff, ← Option.not_isSome_iff_eq_none, cycle?_isSome_iff]
      exact acyclic_iff.mp acyclic id

/-- What the check finds is the first item whose identifier is on a cycle, with the way round. -/
theorem exists_first_of_specializationCycles {v : Violation} (found : Consistency.specializationCycles g = some v) :
    ∃ before d after id path, g.items = before ++ d :: after ∧ d.id? = some id ∧ g.IsCycle id path ∧
      (∀ e ∈ before, ∀ other ∈ e.id?, ¬ g.OnCycle other) ∧
      v = ⟨.specializationCycles, id, some "specializes", .cycle path⟩ := by
  rcases List.findSome?_eq_some_iff.mp found with ⟨before, d, after, items, here, silent⟩
  split at here
  · cases here
  · rename_i id named
    split at here
    · cases here
    · rcases Option.map_eq_some_iff.mp here with ⟨path, round, rfl⟩
      refine ⟨before, d, after, id, path, items, named, isCycle_of_cycle? round, ?_, rfl⟩
      intro e member other own onCycle
      rcases exists_get?_of_onCycle onCycle with ⟨first, looked, above⟩
      -- Among the items before there is one with the identifier, so the one that is looked up is among them.
      have inBefore : first ∈ before := by
        have foundBefore : (before.find? fun d => d.id? == some other).isSome := by
          rw [List.find?_isSome]
          exact ⟨e, member, beq_iff_eq.mpr own⟩
        rcases Option.isSome_iff_exists.mp foundBefore with ⟨least, inFront⟩
        rw [get?, items, List.find?_append, inFront] at looked
        cases looked
        exact List.mem_of_find?_eq_some inFront
      have passed := silent first inBefore
      rcases Option.isSome_iff_exists.mp ((cycle?_isSome_iff other).mpr onCycle) with ⟨way, reported⟩
      simp [id?_of_get? looked, above, reported] at passed

/-- A cycle is reported of an identifier exactly if some climb from it comes back, and what is reported is the way
round.  The check finds nothing exactly if no identifier is on a cycle; otherwise it names the first item whose
identifier is on one, and spells out the way round. -/
theorem cycles_reported (g : Graph) (lang : String) :
    (∀ id, (g.cycle? id).isSome = true ↔ g.OnCycle id) ∧
      (∀ id path, g.cycle? id = some path ↔ g.IsCycle id path) ∧
      (g.check (.only [.specializationCycles]) lang = none ↔ ∀ id, ¬ g.OnCycle id) ∧
      ∀ v, g.check (.only [.specializationCycles]) lang = some v →
        ∃ before d after id path, g.items = before ++ d :: after ∧ d.id? = some id ∧ g.IsCycle id path ∧
          (∀ e ∈ before, ∀ other ∈ e.id?, ¬ g.OnCycle other) ∧ v.check = .specializationCycles ∧ v.item = id ∧
          v.field = some "specializes" ∧ v.reason = "specialization cycle: " ++ Text.join " -> " path := by
  rw [check_only]
  refine ⟨cycle?_isSome_iff, fun id path => cycle?_eq_some_iff, specializationCycles_eq_none_iff, fun v found => ?_⟩
  rcases exists_first_of_specializationCycles found with ⟨before, d, after, id, path, items, named, round, first, rfl⟩
  exact ⟨before, d, after, id, path, items, named, round, first, rfl, rfl, rfl, rfl⟩

end Graph
end ProductGraph
