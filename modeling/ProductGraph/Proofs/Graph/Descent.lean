import Mathlib.Data.List.Forall2
import ProductGraph.Proofs.Graph.Lineage

namespace ProductGraph
namespace Graph

/-!
# Downward and upward

What specializes an item is searched level by level, from parents to the items that name them; whether an item
specializes another one is decided by climbing from parent to parent.  Where no identifier is used twice, both find the
same, although chains may lead nowhere or back to where they were.  The search downward has a list of identifiers that
it met and a bound on its steps, and neither of them keeps an item out.

Without repeated identifiers an item is below at most one item in one step.  So the only identifier that the search can
come to a second time is the one it started from, and the levels in which items are found are their distances.
-/

variable {g : Graph}

/-- A climb first comes to an identifier after so many steps. -/
def ComesTo (g : Graph) (id target : String) (n : Nat) : Prop :=
  g.climb? id n = some target ∧ ∀ m < n, g.climb? id m ≠ some target

theorem comesTo_self (id : String) : g.ComesTo id id 0 := ⟨rfl, fun _ below => absurd below (Nat.not_lt_zero _)⟩

/-- An item that is not the target itself is one step farther from it than its parent is. -/
theorem ComesTo.child {id parent target : String} {n : Nat} (comes : g.ComesTo parent target n)
    (named : g.parentOf? id = some parent) (other : id ≠ target) : g.ComesTo id target (n + 1) := by
  have onward : ∀ m, g.climb? id (m + 1) = g.climb? parent m := fun m => by rw [climb?_succ, named, Option.bind_some]
  refine ⟨(onward n).trans comes.1, fun m below reached => ?_⟩
  cases m with
  | zero => exact other (Option.some.inj reached)
  | succ m => exact comes.2 m (Nat.lt_of_succ_lt_succ below) ((onward m).symm.trans reached)

/-! ## Items of a level -/

/-- Without repeated identifiers the children of an identifier are the items whose parent it is. -/
theorem mem_children_iff (distinct : g.ids.Nodup) {parent id : String} :
    id ∈ (g.children parent).filterMap ItemData.id? ↔ g.parentOf? id = some parent := by
  rw [List.mem_filterMap, parentOf?]
  constructor
  · rintro ⟨d, member, named⟩
    rcases List.mem_filter.mp member with ⟨inGraph, names⟩
    rw [get?_of_mem distinct inGraph named, Option.bind_some]
    exact beq_iff_eq.mp names
  · intro named
    rcases Option.bind_eq_some_iff.mp named with ⟨d, found, own⟩
    exact ⟨d, List.mem_filter.mpr ⟨mem_of_get? found, beq_iff_eq.mpr own⟩, id?_of_get? found⟩

theorem unmet_sublist (met : List String) (items : List ItemData) : (unmet met items).Sublist items := by
  fun_induction unmet met items with
  | case1 => exact .slnil
  | case2 _ _ _ _ ih => exact .cons _ ih
  | case3 _ _ _ _ _ _ ih => exact .cons _ ih
  | case4 _ _ _ _ _ _ ih => exact .cons_cons _ ih

/-- Of some items those are left whose identifiers were not met. -/
theorem mem_unmet_iff {met : List String} {items : List ItemData} {id : String} :
    id ∈ (unmet met items).filterMap ItemData.id? ↔ id ∈ items.filterMap ItemData.id? ∧ id ∉ met := by
  fun_induction unmet met items with
  | case1 => simp
  | case2 met item rest named ih => rw [ih, List.filterMap_cons_none named]
  | case3 met item rest own named before ih =>
      have known : own ∈ met := List.contains_iff_mem.mp before
      rw [ih, List.filterMap_cons_some named, List.mem_cons]
      constructor
      · exact fun ⟨inRest, fresh⟩ => ⟨.inr inRest, fresh⟩
      · rintro ⟨rfl | inRest, fresh⟩
        · exact absurd known fresh
        · exact ⟨inRest, fresh⟩
  | case4 met item rest own named before ih =>
      have unknown : own ∉ met := fun member => before (List.contains_iff_mem.mpr member)
      rw [List.filterMap_cons_some named, List.filterMap_cons_some named, List.mem_cons, List.mem_cons, ih,
        List.mem_cons, not_or]
      constructor
      · rintro (rfl | ⟨inRest, _, fresh⟩)
        · exact ⟨.inl rfl, unknown⟩
        · exact ⟨.inr inRest, fresh⟩
      · rintro ⟨rfl | inRest, fresh⟩
        · exact .inl rfl
        · by_cases same : id = own
          · exact .inl same
          · exact .inr ⟨inRest, same, fresh⟩

/-- What is left has identifiers, and no two items have the same. -/
theorem unmet_distinct (met : List String) (items : List ItemData) :
    (∀ d ∈ unmet met items, d.id?.isSome = true) ∧ ((unmet met items).filterMap ItemData.id?).Nodup := by
  fun_induction unmet met items with
  | case1 => exact ⟨List.forall_mem_nil _, List.nodup_nil⟩
  | case2 _ _ _ _ ih => exact ih
  | case3 _ _ _ _ _ _ ih => exact ih
  | case4 met item rest own named _ ih =>
      rw [List.forall_mem_cons, List.filterMap_cons_some named, List.nodup_cons]
      refine ⟨⟨by rw [named]; rfl, ih.1⟩, fun again => ?_, ih.2⟩
      exact (mem_unmet_iff.mp again).2 List.mem_cons_self

/-- The identifiers of the children of an item that were not met, in the order of the graph. -/
def newBelow (g : Graph) (met : List String) (parent : String) : List String :=
  (unmet met (g.children parent)).filterMap ItemData.id?

theorem mem_newBelow_iff (distinct : g.ids.Nodup) {met : List String} {parent id : String} :
    id ∈ g.newBelow met parent ↔ g.parentOf? id = some parent ∧ id ∉ met := by
  rw [newBelow, mem_unmet_iff, mem_children_iff distinct]

/-- One step of the search finds the children of the first that waits, and lets them wait in its place. -/
theorem ids_descendantsFrom_cons (g : Graph) (steps : Nat) (met waiting : List String) (current : String) :
    (g.descendantsFrom (steps + 1) met (current :: waiting)).filterMap ItemData.id? =
      g.newBelow met current ++ (g.descendantsFrom steps (g.newBelow met current ++ met)
        (waiting ++ g.newBelow met current)).filterMap ItemData.id? := by
  rw [descendantsFrom, List.filterMap_append]
  rfl

/-! ## What the search finds -/

/-- Climbing from an item leads to one of those that wait, and nothing on the way there was met. -/
inductive Below (g : Graph) (met waiting : List String) : String → Prop
  | child {id parent : String} (fresh : id ∉ met) (named : g.parentOf? id = some parent)
      (waits : parent ∈ waiting) : Below g met waiting id
  | up {id parent : String} (fresh : id ∉ met) (named : g.parentOf? id = some parent)
      (onward : Below g met waiting parent) : Below g met waiting id

namespace Below

variable {met waiting : List String} {current id : String}

theorem not_nil : ¬ g.Below met [] id := by
  intro below
  induction below with
  | child _ _ waits => cases waits
  | up _ _ _ ih => exact ih

/-- What waits can be replaced by its children that were not met, once these are found. -/
theorem cons_iff {ids : List String} (children : ∀ id, id ∈ ids ↔ g.parentOf? id = some current ∧ id ∉ met) :
    g.Below met (current :: waiting) id ↔ id ∈ ids ∨ g.Below (ids ++ met) (waiting ++ ids) id := by
  constructor
  · intro below
    induction below with
    | @child id parent fresh named waits =>
        by_cases found : id ∈ ids
        · exact .inl found
        · have unknown : id ∉ ids ++ met := List.not_mem_append found fresh
          rcases List.mem_cons.mp waits with rfl | later
          · exact absurd ((children id).mpr ⟨named, fresh⟩) found
          · exact .inr (.child unknown named (List.mem_append_left _ later))
    | @up id parent fresh named _ ih =>
        by_cases found : id ∈ ids
        · exact .inl found
        · have unknown : id ∉ ids ++ met := List.not_mem_append found fresh
          rcases ih with parentFound | onward
          · exact .inr (.child unknown named (List.mem_append_right _ parentFound))
          · exact .inr (.up unknown named onward)
  · have direct : ∀ id ∈ ids, g.Below met (current :: waiting) id := fun id member =>
      .child ((children id).mp member).2 ((children id).mp member).1 List.mem_cons_self
    have known : ∀ {id}, id ∉ ids ++ met → id ∉ met := fun unknown member => unknown (List.mem_append_right _ member)
    rintro (found | below)
    · exact direct id found
    · induction below with
      | child unknown named waits =>
          rcases List.mem_append.mp waits with later | found
          · exact .child (known unknown) named (List.mem_cons_of_mem _ later)
          · exact .up (known unknown) named (direct _ found)
      | up unknown named _ ih => exact .up (known unknown) named ih

/-- What is below an identifier, the identifier itself being met, is everything else that climbs to it. -/
theorem singleton_iff {target : String} :
    g.Below [target] [target] id ↔ id ≠ target ∧ ∃ n, g.climb? id n = some target := by
  constructor
  · intro below
    induction below with
    | child fresh named waits =>
        rw [List.mem_singleton] at fresh waits
        exact ⟨fresh, 1, by rw [climb?_succ, named, waits]; rfl⟩
    | up fresh named _ ih =>
        rcases ih with ⟨_, n, reached⟩
        exact ⟨fun same => fresh (List.mem_singleton.mpr same), n + 1,
          by rw [climb?_succ, named, Option.bind_some, reached]⟩
  · rintro ⟨other, n, reached⟩
    induction n generalizing id with
    | zero => exact absurd (Option.some.inj reached) other
    | succ n ih =>
        rw [climb?_succ] at reached
        rcases Option.bind_eq_some_iff.mp reached with ⟨parent, named, onward⟩
        have fresh : id ∉ [target] := fun same => other (List.mem_singleton.mp same)
        by_cases arrived : parent = target
        · exact .child fresh named (List.mem_singleton.mpr arrived)
        · exact .up fresh named (ih arrived onward)

end Below

/-- Each identifier that is found is one less to pass. -/
theorem unpassed_append_le {ids met : List String} (distinct : ids.Nodup)
    (each : ∀ id ∈ ids, (g.get? id).isSome = true ∧ id ∉ met) :
    g.unpassed (ids ++ met) + ids.length ≤ g.unpassed met := by
  induction ids with
  | nil => exact Nat.le_refl _
  | cons id rest ih =>
      rw [List.nodup_cons] at distinct
      rw [List.forall_mem_cons] at each
      rcases Option.isSome_iff_exists.mp each.1.1 with ⟨d, found⟩
      have unknown : (rest ++ met).contains id = false := by
        rw [← Bool.not_eq_true, List.contains_iff_mem]
        exact List.not_mem_append distinct.1 each.1.2
      have fewer := unpassed_lt found unknown
      have others := ih distinct.2 each.2
      rw [List.cons_append, List.length_cons]
      omega

/-- With a step for each identifier that is left or waits, the search finds all that is below what waits. -/
theorem mem_descendantsFrom_iff (distinct : g.ids.Nodup) {steps : Nat} {met waiting : List String} {id : String}
    (enough : g.unpassed met + waiting.length ≤ steps) :
    id ∈ (g.descendantsFrom steps met waiting).filterMap ItemData.id? ↔ g.Below met waiting id := by
  induction steps generalizing met waiting with
  | zero =>
      have nothing : waiting = [] := List.length_eq_zero_iff.mp (by omega)
      subst nothing
      exact iff_of_false List.not_mem_nil Below.not_nil
  | succ steps ih =>
      cases waiting with
      | nil => exact iff_of_false List.not_mem_nil Below.not_nil
      | cons current waiting =>
          have left : g.unpassed (g.newBelow met current ++ met) + (g.newBelow met current).length ≤ g.unpassed met := by
            refine unpassed_append_le (unmet_distinct _ _).2 fun id found => ?_
            rcases (mem_newBelow_iff distinct).mp found with ⟨named, fresh⟩
            exact ⟨Option.isSome_of_isSome_bind (Option.isSome_of_eq_some named), fresh⟩
          have stillEnough : g.unpassed (g.newBelow met current ++ met) +
              (waiting ++ g.newBelow met current).length ≤ steps := by
            rw [List.length_cons] at enough
            rw [List.length_append]
            omega
          rw [ids_descendantsFrom_cons, List.mem_append, Below.cons_iff fun id => mem_newBelow_iff distinct,
            ih stillEnough]

/-- What the search finds are items of the graph with identifiers. -/
theorem mem_items_of_mem_descendantsFrom {steps : Nat} {met waiting : List String} {d : ItemData}
    (found : d ∈ g.descendantsFrom steps met waiting) : d ∈ g.items ∧ d.id?.isSome = true := by
  induction steps generalizing met waiting with
  | zero => cases found
  | succ steps ih =>
      cases waiting with
      | nil => cases found
      | cons current waiting =>
          rw [descendantsFrom] at found
          rcases List.mem_append.mp found with here | later
          · have isChild := (unmet_sublist met (g.children current)).subset here
            exact ⟨(List.mem_filter.mp isChild).1, (unmet_distinct met _).1 d here⟩
          · exact ih later

/-- Nothing that the search finds was met or is found twice. -/
theorem nodup_descendantsFrom (g : Graph) (steps : Nat) (met waiting : List String) :
    ((g.descendantsFrom steps met waiting).filterMap ItemData.id?).Nodup ∧
      ∀ id ∈ (g.descendantsFrom steps met waiting).filterMap ItemData.id?, id ∉ met := by
  induction steps generalizing met waiting with
  | zero => exact ⟨List.nodup_nil, List.forall_mem_nil _⟩
  | succ steps ih =>
      cases waiting with
      | nil => exact ⟨List.nodup_nil, List.forall_mem_nil _⟩
      | cons current waiting =>
          rcases ih (g.newBelow met current ++ met) (waiting ++ g.newBelow met current) with ⟨once, apart⟩
          rw [ids_descendantsFrom_cons]
          constructor
          · refine List.nodup_append'.mpr ⟨(unmet_distinct _ _).2, once, fun id here later => ?_⟩
            exact apart id later (List.mem_append_left _ here)
          · intro id member
            rcases List.mem_append.mp member with here | later
            · exact (mem_unmet_iff.mp here).2
            · exact fun known => apart id later (List.mem_append_right _ known)

/-! ## In which order it finds it -/

/-- Identifiers with their distances from another one. -/
def AtDistances (g : Graph) (target : String) : List String → List Nat → Prop :=
  List.Forall₂ fun id n => g.ComesTo id target n

theorem AtDistances.append {target : String} {first second : List String} {near far : List Nat}
    (here : g.AtDistances target first near) (there : g.AtDistances target second far) :
    g.AtDistances target (first ++ second) (near ++ far) :=
  List.rel_append here there

/-- The children of an item that were not met are all one step farther from what was met than it is. -/
theorem atDistances_newBelow (distinct : g.ids.Nodup) {met : List String} {target current : String} {n : Nat}
    (known : target ∈ met) (here : g.ComesTo current target n) :
    g.AtDistances target (g.newBelow met current) (List.replicate (g.newBelow met current).length (n + 1)) := by
  refine List.forall₂_iff_zip.mpr ⟨List.length_replicate.symm, fun {id m} paired => ?_⟩
  rcases List.of_mem_zip paired with ⟨isNew, isNext⟩
  rcases (mem_newBelow_iff distinct).mp isNew with ⟨named, fresh⟩
  rw [List.eq_of_mem_replicate isNext]
  exact here.child named fun same => fresh (same ▸ known)

/-- Distances that ascend and differ by one at most still do when some that are one greater than the least follow. -/
theorem ascending_append_replicate {first : Nat} {distances : List Nat} (k : Nat)
    (ascending : (first :: distances).Pairwise (· ≤ ·)) (close : ∀ m ∈ distances, m ≤ first + 1) :
    (distances ++ List.replicate k (first + 1)).Pairwise (· ≤ ·) ∧
      ∀ m ∈ distances ++ List.replicate k (first + 1), first ≤ m ∧ m ≤ first + 1 := by
  rw [List.pairwise_cons] at ascending
  constructor
  · refine List.pairwise_append.mpr ⟨ascending.2, List.pairwise_replicate.mpr (.inr (Nat.le_refl _)), ?_⟩
    intro m before n after
    rw [List.eq_of_mem_replicate after]
    exact close m before
  · intro m member
    rcases List.mem_append.mp member with before | after
    · exact ⟨ascending.1 m before, close m before⟩
    · rw [List.eq_of_mem_replicate after]
      exact ⟨Nat.le_succ _, Nat.le_refl _⟩

/-- If the distances of those that wait ascend and differ by one at most, then the distances of what is found ascend,
and all are greater than the least of the former. -/
theorem ascending_descendantsFrom (distinct : g.ids.Nodup) {target : String} {steps : Nat} {met waiting : List String}
    (known : target ∈ met) {least : Nat} {distances : List Nat} (measured : g.AtDistances target waiting distances)
    (ascending : distances.Pairwise (· ≤ ·)) (close : ∀ m ∈ distances, least ≤ m ∧ m ≤ least + 1) :
    ∃ later, g.AtDistances target ((g.descendantsFrom steps met waiting).filterMap ItemData.id?) later ∧
      later.Pairwise (· ≤ ·) ∧ ∀ m ∈ later, least + 1 ≤ m := by
  induction steps generalizing met waiting least distances with
  | zero => exact ⟨[], .nil, .nil, List.forall_mem_nil _⟩
  | succ steps ih =>
      cases measured with
      | nil => exact ⟨[], .nil, .nil, List.forall_mem_nil _⟩
      | @cons current first waiting distances here measured =>
          rw [List.forall_mem_cons] at close
          have closer : ∀ m ∈ distances, m ≤ first + 1 := fun m member =>
            Nat.le_trans (close.2 m member).2 (Nat.succ_le_succ close.1.1)
          have found := atDistances_newBelow distinct known here
          rcases ascending_append_replicate (g.newBelow met current).length ascending closer with ⟨ordered, near⟩
          rcases ih (List.mem_append_right _ known) (AtDistances.append measured found) ordered near with
            ⟨later, measuredLater, orderedLater, beyond⟩
          refine ⟨List.replicate (g.newBelow met current).length (first + 1) ++ later, ?_, ?_, ?_⟩
          · rw [ids_descendantsFrom_cons]
            exact found.append measuredLater
          · refine List.pairwise_append.mpr ⟨List.pairwise_replicate.mpr (.inr (Nat.le_refl _)), orderedLater, ?_⟩
            intro m before n after
            rw [List.eq_of_mem_replicate before]
            exact beyond n after
          · intro m member
            rcases List.mem_append.mp member with before | after
            · rw [List.eq_of_mem_replicate before]
              exact Nat.succ_le_succ close.1.1
            · exact Nat.le_trans (Nat.succ_le_succ close.1.1) (beyond m after)

/-! ## Agreement -/

/-- What the whole search finds is everything else from which a climb leads to the start. -/
theorem mem_ids_descendants_iff (distinct : g.ids.Nodup) {id ancestor : String} :
    id ∈ (g.descendants ancestor).filterMap ItemData.id? ↔ id ≠ ancestor ∧ ∃ n, g.climb? id n = some ancestor := by
  have enough : g.unpassed [ancestor] + [ancestor].length ≤ g.items.length + 1 := Nat.succ_le_succ (g.unpassed_le _)
  rw [descendants, mem_descendantsFrom_iff distinct enough, Below.singleton_iff]

theorem mem_descendants_iff (distinct : g.ids.Nodup) {ancestor : String} (known : ancestor ∈ g.ids) {d : ItemData} :
    d ∈ g.descendants ancestor ↔
      d ∈ g.items ∧ ∃ id, d.id? = some id ∧ id ≠ ancestor ∧ g.isA id ancestor = true := by
  have found : (g.get? ancestor).isSome = true := by
    rcases List.mem_filterMap.mp known with ⟨a, member, named⟩
    rw [get?_of_mem distinct member named]
    rfl
  constructor
  · intro below
    rcases mem_items_of_mem_descendantsFrom below with ⟨member, isNamed⟩
    rcases Option.isSome_iff_exists.mp isNamed with ⟨id, named⟩
    rcases (mem_ids_descendants_iff distinct).mp (List.mem_filterMap.mpr ⟨d, below, named⟩) with ⟨other, climbs⟩
    exact ⟨member, id, named, other, isA_iff.mpr (.inr ⟨found, climbs⟩)⟩
  · rintro ⟨member, id, named, other, isA⟩
    have climbs := ((isA_iff.mp isA).resolve_left other).2
    rcases List.mem_filterMap.mp ((mem_ids_descendants_iff distinct).mpr ⟨other, climbs⟩) with ⟨e, below, alsoNamed⟩
    have inGraph := (mem_items_of_mem_descendantsFrom below).1
    rwa [eq_of_id?_eq distinct member inGraph named alsoNamed]

/-- Items that are told apart by their identifiers are told apart. -/
theorem nodup_of_nodup_ids {items : List ItemData} (named : ∀ d ∈ items, d.id?.isSome = true)
    (distinct : (items.filterMap ItemData.id?).Nodup) : items.Nodup := by
  induction items with
  | nil => exact List.nodup_nil
  | cons d rest ih =>
      rw [List.forall_mem_cons] at named
      rcases Option.isSome_iff_exists.mp named.1 with ⟨id, own⟩
      rw [List.filterMap_cons_some own, List.nodup_cons] at distinct
      refine List.nodup_cons.mpr ⟨fun again => distinct.1 ?_, ih named.2 distinct.2⟩
      exact List.mem_filterMap.mpr ⟨d, again, own⟩

/-- The search downward finds each item once that the climb upward takes for a specialization. -/
theorem descendants_perm (distinct : g.ids.Nodup) {ancestor : String} (known : ancestor ∈ g.ids) :
    (g.descendants ancestor).Perm
      (g.items.filter fun d => d.id?.any fun id => id != ancestor && g.isA id ancestor) := by
  have foundOnce : (g.descendants ancestor).Nodup :=
    nodup_of_nodup_ids (fun d below => (mem_items_of_mem_descendantsFrom below).2) (nodup_descendantsFrom ..).1
  have keptOnce : (g.items.filter fun d => d.id?.any fun id => id != ancestor && g.isA id ancestor).Nodup := by
    refine nodup_of_nodup_ids (fun d member => ?_) (distinct.sublist (List.filter_sublist.filterMap _))
    cases named : d.id? with
    | none => simp [named] at member
    | some id => rfl
  rw [List.perm_ext_iff_of_nodup foundOnce keptOnce]
  intro d
  rw [mem_descendants_iff distinct known, List.mem_filter, Option.any_eq_true]
  simp only [Bool.and_eq_true, bne_iff_ne]

/-- The search downward goes from smaller distances to larger ones. -/
theorem ascending_descendants (distinct : g.ids.Nodup) (ancestor : String) :
    ∃ distances, g.AtDistances ancestor ((g.descendants ancestor).filterMap ItemData.id?) distances ∧
      distances.Pairwise (· ≤ ·) := by
  have start : g.AtDistances ancestor [ancestor] [0] := .cons (comesTo_self ancestor) .nil
  have close : ∀ m ∈ [0], 0 ≤ m ∧ m ≤ 0 + 1 := by simp
  rcases ascending_descendantsFrom distinct List.mem_cons_self start (List.pairwise_singleton _ _) close with
    ⟨distances, measured, ascending, _⟩
  exact ⟨distances, measured, ascending⟩

/-- The class of an individual is taken for a specialization exactly if it is the class itself or is found below it. -/
theorem isA_iff_found (distinct : g.ids.Nodup) {ancestor : String} (known : ancestor ∈ g.ids) {c : String} :
    g.isA c ancestor = true ↔ c = ancestor ∨ ∃ e ∈ g.descendants ancestor, e.id? = some c := by
  constructor
  · intro isA
    by_cases same : c = ancestor
    · exact .inl same
    · have climbs := ((isA_iff.mp isA).resolve_left same).2
      have below := (mem_ids_descendants_iff distinct).mpr ⟨same, climbs⟩
      exact .inr (List.mem_filterMap.mp below)
  · rintro (same | ⟨e, member, named⟩)
    · exact isA_iff.mpr (.inl same)
    · rcases (mem_descendants_iff distinct known).mp member with ⟨_, id, alsoNamed, _, isA⟩
      rw [alsoNamed] at named
      cases named
      exact isA

/-- Where no identifier is used twice, the search downward from an item finds each item once that the climb upward
takes for a specialization of it, those at smaller distances first; and its instances, in the order of the graph, are
the individuals whose class is it or was found. -/
theorem traversals_agree (distinct : g.ids.Nodup) {ancestor : String} (known : ancestor ∈ g.ids) :
    (g.descendants ancestor).Perm (g.items.filter fun d => d.id?.any fun id => id != ancestor && g.isA id ancestor) ∧
      (∃ distances, g.AtDistances ancestor ((g.descendants ancestor).filterMap ItemData.id?) distances ∧
        distances.Pairwise (· ≤ ·)) ∧
      g.instancesOf ancestor = g.individuals.filter fun d => d.hasClass.any fun c =>
        c == ancestor || (g.descendants ancestor).any fun e => e.id? == some c := by
  refine ⟨descendants_perm distinct known, ascending_descendants distinct ancestor, ?_⟩
  refine List.filter_congr fun d _ => ?_
  cases d.hasClass with
  | none => rfl
  | some c =>
      rw [Option.any_some, Option.any_some, Bool.eq_iff_iff, Bool.or_eq_true, beq_iff_eq, List.any_eq_true,
        isA_iff_found distinct known]
      simp only [beq_iff_eq]

/-- Two classes that specialize each other, a class below one of them with an instance, and a class whose parent is
missing. -/
def circle : Graph :=
  ⟨[.entityClass ⟨⟨"ex:Chicken", some "ex:Egg", [], []⟩, ⟨none, none⟩, none, none⟩,
    .entityClass ⟨⟨"ex:Omelette", some "ex:Egg", [], []⟩, ⟨none, none⟩, none, none⟩,
    .entityClass ⟨⟨"ex:Egg", some "ex:Chicken", [], []⟩, ⟨none, none⟩, none, none⟩,
    .entityClass ⟨⟨"ex:Orphan", some "ex:Missing", [], []⟩, ⟨none, none⟩, none, none⟩,
    .entity ⟨⟨"ex:breakfast", none, [], []⟩, ⟨none, [], none, none, []⟩, "ex:Omelette", []⟩]⟩

theorem traversals_agree_circle :
    circle.ids.Nodup ∧ "ex:Chicken" ∈ circle.ids ∧
      (circle.descendants "ex:Chicken").Perm
        (circle.items.filter fun d => d.id?.any fun id => id != "ex:Chicken" && circle.isA id "ex:Chicken") ∧
      (circle.descendants "ex:Chicken").filterMap ItemData.id? = ["ex:Egg", "ex:Omelette"] ∧
      (circle.instancesOf "ex:Chicken").filterMap ItemData.id? = ["ex:breakfast"] := by
  have distinct : circle.ids.Nodup := by decide
  have known : "ex:Chicken" ∈ circle.ids := by decide
  rcases traversals_agree distinct known with ⟨found, _, instances⟩
  refine ⟨distinct, known, found, by decide, ?_⟩
  rw [instances]
  decide

end Graph
end ProductGraph
