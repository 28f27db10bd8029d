import Mathlib.Data.List.Perm.Subperm
import Mathlib.Data.Nat.Find
import ProductGraph.Graph.Specialization
import ProductGraph.Proofs.Graph.Lookup

namespace ProductGraph
namespace Graph

/-!
# Climbing from parent to parent

The walks of a graph carry the identifiers that they passed and a bound on their steps.  Here a climb carries
neither: it is the number of steps and where they lead, and it may go round for ever.  Two facts connect the two
views.  A climb that comes back to its start is reported as a cycle, so the bound on the walk cuts none short; and
where no climb comes back, every climb ends, because it would need more identifiers than there are items.
-/

variable {g : Graph}

/-- The parent that the item found under an identifier names. -/
def parentOf? (g : Graph) (id : String) : Option String := (g.get? id).bind ItemData.parent?

/-- Where so many steps from parent to parent lead. -/
def climb? (g : Graph) (id : String) : Nat → Option String
  | 0 => some id
  | n + 1 => (g.climb? id n).bind g.parentOf?

/-- No climb comes back to where it started. -/
def Acyclic (g : Graph) : Prop := ∀ id n, 0 < n → g.climb? id n ≠ some id

theorem climb?_add (id : String) (m n : Nat) :
    g.climb? id (m + n) = (g.climb? id m).bind fun middle => g.climb? middle n := by
  induction n with
  | zero => cases g.climb? id m <;> simp [climb?]
  | succ n ih =>
      rw [← Nat.add_assoc, climb?, ih, Option.bind_assoc]
      rfl

/-- The first step can be taken apart from the others. -/
theorem climb?_succ (id : String) (n : Nat) :
    g.climb? id (n + 1) = (g.parentOf? id).bind fun parent => g.climb? parent n := by
  rw [Nat.add_comm, climb?_add]
  rfl

/-- A climb of a step or more sets out from an item that names a parent. -/
theorem exists_get?_of_climb? {id top : String} {n : Nat} (positive : 0 < n) (reached : g.climb? id n = some top) :
    ∃ d parent, g.get? id = some d ∧ d.parent? = some parent := by
  rcases Nat.exists_eq_succ_of_ne_zero (Nat.ne_of_gt positive) with ⟨m, rfl⟩
  rw [climb?_succ] at reached
  rcases Option.bind_eq_some_iff.mp reached with ⟨parent, named, _⟩
  rcases Option.bind_eq_some_iff.mp named with ⟨d, found, above⟩
  exact ⟨d, parent, found, above⟩

/-- A climb passes through all shorter ones. -/
theorem climb?_isSome_of_le {id : String} {m n : Nat} (shorter : m ≤ n)
    (goes : (g.climb? id n).isSome) : (g.climb? id m).isSome := by
  rcases Nat.exists_eq_add_of_le shorter with ⟨more, rfl⟩
  rw [climb?_add] at goes
  exact Option.isSome_of_isSome_bind goes

/-- Every step but the last leaves from the identifier of an item. -/
theorem climb?_mem_items {id : String} {i n : Nat} (before : i < n) (goes : (g.climb? id n).isSome) :
    g.climb? id i ∈ g.items.map ItemData.id? := by
  have next : (g.climb? id (i + 1)).isSome := climb?_isSome_of_le before goes
  rcases Option.isSome_iff_exists.mp (climb?_isSome_of_le (Nat.le_of_lt before) goes) with ⟨here, reached⟩
  rw [climb?, reached, Option.bind_some] at next
  rcases Option.isSome_iff_exists.mp (Option.isSome_of_isSome_bind next) with ⟨d, found⟩
  rw [reached]
  exact List.mem_map.mpr ⟨d, mem_of_get? found, id?_of_get? found⟩

/-- A climb that passes no identifier twice has no more steps than there are items. -/
theorem le_length_of_climb? {id : String} {n : Nat} (goes : (g.climb? id n).isSome)
    (apart : ∀ i j, i < j → j < n → g.climb? id i ≠ g.climb? id j) : n ≤ g.items.length := by
  have distinct : ((List.range n).map (g.climb? id)).Nodup := by
    apply List.Nodup.map_on _ List.nodup_range
    intro i iBelow j jBelow same
    rw [List.mem_range] at iBelow jBelow
    rcases Nat.lt_trichotomy i j with less | equal | greater
    · exact absurd same (apart i j less jBelow)
    · exact equal
    · exact absurd same.symm (apart j i greater iBelow)
  have within : (List.range n).map (g.climb? id) ⊆ g.items.map ItemData.id? := by
    intro step member
    rcases List.mem_map.mp member with ⟨i, below, rfl⟩
    exact climb?_mem_items (List.mem_range.mp below) goes
  simpa using (distinct.subperm within).length_le

/-! ## Climbs that come back -/

/-- The walk reports a cycle if its steps suffice for the climb back to the start, and the climb meets neither the
start before its end nor anything that was passed. -/
theorem cycleFrom_isSome {start : String} {k steps : Nat} {passed : List String} {current : String}
    (enough : k < steps) (back : g.climb? current (k + 1) = some start)
    (fresh : ∀ j, 0 < j → j ≤ k → ∀ x, g.climb? current j = some x → x ≠ start ∧ x ∉ passed)
    (apart : ∀ i j, 0 < i → i < j → j ≤ k → g.climb? current i ≠ g.climb? current j) :
    (g.cycleFrom start steps passed current).isSome := by
  induction k generalizing steps passed current with
  | zero =>
      rcases Nat.exists_eq_succ_of_ne_zero (Nat.ne_of_gt enough) with ⟨steps, rfl⟩
      have parent : (g.get? current).bind ItemData.parent? = some start := back
      simp [cycleFrom, parent]
  | succ k ih =>
      rcases Nat.exists_eq_succ_of_ne_zero (Nat.ne_of_gt (Nat.zero_lt_of_lt enough)) with ⟨steps, rfl⟩
      obtain ⟨parent, named⟩ : ∃ parent, g.parentOf? current = some parent := by
        rw [climb?_succ] at back
        rcases Option.bind_eq_some_iff.mp back with ⟨parent, named, _⟩
        exact ⟨parent, named⟩
      have onward : ∀ j, g.climb? current (j + 1) = g.climb? parent j := by
        intro j
        rw [climb?_succ, named]
        rfl
      have first := fresh 1 Nat.one_pos (Nat.le_add_left 1 k) parent (by rw [onward]; rfl)
      have rest : (g.cycleFrom start steps (parent :: passed) parent).isSome := by
        apply ih (Nat.lt_of_succ_lt_succ enough) (onward (k + 1) ▸ back)
        · intro j positive bounded x reached
          have later := fresh (j + 1) (Nat.succ_pos j) (Nat.succ_le_succ bounded) x (onward j ▸ reached)
          refine ⟨later.1, ?_⟩
          rw [List.mem_cons, not_or]
          refine ⟨?_, later.2⟩
          rintro rfl
          apply apart 1 (j + 1) Nat.one_pos (Nat.succ_lt_succ positive) (Nat.succ_le_succ bounded)
          rw [onward, onward, reached]
          rfl
        · intro i j positive less bounded
          rw [← onward, ← onward]
          exact apart (i + 1) (j + 1) (Nat.succ_pos i) (Nat.succ_lt_succ less) (Nat.succ_le_succ bounded)
      have named' : (g.get? current).bind ItemData.parent? = some parent := named
      simpa [cycleFrom, named', first.1, first.2] using rest

/-- A climb that comes back is reported as a cycle. -/
theorem cycle?_isSome_of_climb? {id : String} {n : Nat} (positive : 0 < n)
    (back : g.climb? id n = some id) : (g.cycle? id).isSome := by
  have comesBack : ∃ n, 0 < n ∧ g.climb? id n = some id := ⟨n, positive, back⟩
  -- The shortest climb back passes nothing twice: a repetition could be cut out.
  rcases Nat.exists_eq_succ_of_ne_zero (Nat.ne_of_gt (Nat.find_spec comesBack).1) with ⟨k, shortest⟩
  have closes : g.climb? id (k + 1) = some id := by
    have back := (Nat.find_spec comesBack).2
    rwa [shortest] at back
  have early : ∀ j, 0 < j → j ≤ k → g.climb? id j ≠ some id := by
    intro j jPositive jBounded reached
    exact Nat.find_min comesBack (shortest ▸ Nat.lt_succ_of_le jBounded) ⟨jPositive, reached⟩
  have apart : ∀ i j, i < j → j < k + 1 → g.climb? id i ≠ g.climb? id j := by
    intro i j less bounded same
    have cut : g.climb? id (i + (k + 1 - j)) = some id := by
      rw [climb?_add, same, ← climb?_add, Nat.add_sub_cancel' (Nat.le_of_lt bounded), closes]
    exact early (i + (k + 1 - j)) (by omega) (by omega) cut
  have bounded : k + 1 ≤ g.items.length := le_length_of_climb? (Option.isSome_of_eq_some closes) apart
  have found : (g.cycleFrom id (g.items.length + 1) [id] id).isSome := by
    apply cycleFrom_isSome (Nat.lt_of_lt_of_le (Nat.lt_succ_self k) (Nat.le_succ_of_le bounded)) closes
    · intro j jPositive jBounded x reached
      have other : x ≠ id := by
        rintro rfl
        exact early j jPositive jBounded reached
      exact ⟨other, by simpa using other⟩
    · intro i j _ less jBounded
      exact apart i j less (Nat.lt_succ_of_le jBounded)
  rw [cycle?, Option.isSome_map]
  exact found

/-- A cycle is found exactly if some climb comes back. -/
theorem cycle?_isSome_iff (id : String) : (g.cycle? id).isSome = true ↔ ∃ n, 0 < n ∧ g.climb? id n = some id := by
  constructor
  · have climbs : ∀ (steps : Nat) (passed : List String) (current : String),
        (g.cycleFrom id steps passed current).isSome = true → ∃ n, g.climb? current (n + 1) = some id := by
      intro steps
      induction steps with
      | zero => exact fun _ _ => nofun
      | succ steps ih =>
          intro passed current found
          cases named : (g.get? current).bind ItemData.parent? with
          | none => simp [cycleFrom, named] at found
          | some parent =>
              have next : g.parentOf? current = some parent := named
              simp only [cycleFrom, named] at found
              split at found
              · rename_i back
                exact ⟨0, by rw [climb?_succ, next, ← back]; rfl⟩
              · split at found
                · cases found
                · rw [Option.isSome_map] at found
                  rcases ih _ _ found with ⟨n, back⟩
                  exact ⟨n + 1, by rw [climb?_succ, next]; exact back⟩
    rw [cycle?, Option.isSome_map]
    intro found
    rcases climbs _ _ _ found with ⟨n, back⟩
    exact ⟨n + 1, Nat.succ_pos n, back⟩
  · rintro ⟨n, positive, back⟩
    exact cycle?_isSome_of_climb? positive back

/-- Where no climb comes back, every climb comes to an end. -/
theorem exists_climb?_end (acyclic : g.Acyclic) (id : String) :
    ∃ n top, g.climb? id n = some top ∧ g.parentOf? top = none := by
  by_contra endless
  have goes : ∀ n, (g.climb? id n).isSome := by
    intro n
    induction n with
    | zero => rfl
    | succ n ih =>
        rcases Option.isSome_iff_exists.mp ih with ⟨here, reached⟩
        rw [climb?, reached]
        cases parent : g.parentOf? here with
        | none => exact absurd ⟨n, here, reached, parent⟩ endless
        | some next => simp [parent]
  have apart : ∀ i j, i < j → g.climb? id i ≠ g.climb? id j := by
    intro i j less same
    rcases Option.isSome_iff_exists.mp (goes i) with ⟨here, reached⟩
    apply acyclic here (j - i) (Nat.sub_pos_of_lt less)
    have there : g.climb? id (i + (j - i)) = some here := by
      rw [Nat.add_sub_cancel' (Nat.le_of_lt less), ← same, reached]
    rwa [climb?_add, reached] at there
  have bounded := le_length_of_climb? (goes (g.items.length + 1)) fun i j less _ => apart i j less
  exact Nat.not_succ_le_self _ bounded

end Graph
end ProductGraph
