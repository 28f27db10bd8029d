import ProductGraph.Proofs.Pattern.Enclosed
import ProductGraph.Proofs.Pattern.Language

namespace ProductGraph

/-!
# What a pattern reaches

From some places of a text a pattern reaches others, all of them at once, so that there is no search that could run
away.  Here this is shown to be where it leads to from one of them.

Sets of places are lists in their order, each place once.  Union and difference rest on this order, and every pattern
keeps it.  A repetition goes on from the places alone that its last step found, and takes at most one step for each
character that is left.  Nothing is lost by either: the other places were left before, and a longer way stands still at
one of its steps.

Between the start and the end of a text, a pattern that looks at nothing therefore matches exactly the texts of its
language.
-/

namespace Cursor

variable {x y z : Cursor} {text : List Char} {xs ys : List Cursor}

/-! ## Places of a text -/

theorem next?_eq_some_iff {set : CharSet} : x.next? set = some y ↔ ∃ c, set.has c = true ∧ Passes x [c] y := by
  rcases x with ⟨index, previous, rest⟩
  cases rest with
  | nil =>
      refine ⟨nofun, ?_⟩
      rintro ⟨c, _, passes⟩
      cases passes.rest
  | cons c rest =>
      simp only [next?]
      constructor
      · intro found
        rcases Option.ite_none_right_eq_some.mp found with ⟨has, same⟩
        cases same
        exact ⟨c, has, rfl, rfl, rfl⟩
      · rintro ⟨d, has, passes⟩
        rcases List.cons.inj passes.rest with ⟨rfl, left⟩
        rw [if_pos has]
        have here : Passes ⟨index, previous, c :: rest⟩ [c] ⟨index + 1, some c, rest⟩ := ⟨rfl, rfl, rfl⟩
        exact congrArg some (here.eq_of_index_eq passes passes.index.symm)

/-- A place of a text. -/
def IsIn (text : List Char) (x : Cursor) : Prop := ∃ before, Passes ⟨0, none, text⟩ before x

theorem IsIn.eq_of_index_eq (here : IsIn text x) (there : IsIn text y) (same : x.index = y.index) : x = y := by
  rcases here with ⟨_, here⟩
  rcases there with ⟨_, there⟩
  exact here.eq_of_index_eq there same

theorem IsIn.passes (here : IsIn text x) {taken : List Char} (passes : Passes x taken y) : IsIn text y :=
  let ⟨_, reached⟩ := here
  ⟨_, reached.append passes⟩

/-! ## Sets of places -/

/-- Places of a text in their order, each once. -/
structure Ordered (text : List Char) (xs : List Cursor) : Prop where
  areIn : ∀ x ∈ xs, IsIn text x
  ascending : xs.Pairwise fun x y => x.index < y.index

namespace Ordered

theorem nil (text : List Char) : Ordered text [] := ⟨fun _ member => absurd member List.not_mem_nil, .nil⟩

theorem single (here : IsIn text x) : Ordered text [x] :=
  ⟨fun _ member => List.mem_singleton.mp member ▸ here, List.pairwise_singleton _ x⟩

theorem head (ordered : Ordered text (x :: xs)) : IsIn text x := ordered.areIn x List.mem_cons_self

theorem tail (ordered : Ordered text (x :: xs)) : Ordered text xs :=
  ⟨fun y member => ordered.areIn y (List.mem_cons_of_mem x member), ordered.ascending.of_cons⟩

theorem lt (ordered : Ordered text (x :: xs)) (member : y ∈ xs) : x.index < y.index :=
  (List.pairwise_cons.mp ordered.ascending).1 y member

theorem le (ordered : Ordered text (x :: xs)) (member : y ∈ x :: xs) : x.index ≤ y.index := by
  rcases List.mem_cons.mp member with rfl | behind
  · exact Nat.le_refl _
  · exact Nat.le_of_lt (ordered.lt behind)

theorem cons (here : IsIn text x) (ordered : Ordered text xs) (before : ∀ y ∈ xs, x.index < y.index) :
    Ordered text (x :: xs) where
  areIn y member := by
    rcases List.mem_cons.mp member with rfl | behind
    · exact here
    · exact ordered.areIn y behind
  ascending := List.pairwise_cons.mpr ⟨before, ordered.ascending⟩

theorem sublist (ordered : Ordered text ys) (sub : xs.Sublist ys) : Ordered text xs :=
  ⟨fun x member => ordered.areIn x (sub.subset member), ordered.ascending.sublist sub⟩

end Ordered

theorem mem_union_iff (first : Ordered text xs) (second : Ordered text ys) : z ∈ union xs ys ↔ z ∈ xs ∨ z ∈ ys := by
  fun_induction union xs ys with
  | case1 ys => simp
  | case2 xs => simp
  | case3 x xs y ys before ih =>
      rw [List.mem_cons, ih first.tail second, List.mem_cons (b := x), or_assoc]
  | case4 x xs y ys _ before ih =>
      rw [List.mem_cons, ih first second.tail, List.mem_cons (b := y), or_left_comm]
  | case5 x xs y ys notBefore notBehind ih =>
      have same : x = y := first.head.eq_of_index_eq second.head (by omega)
      simp only [List.mem_cons, ih first.tail second.tail, same]
      tauto

theorem ordered_union (first : Ordered text xs) (second : Ordered text ys) : Ordered text (union xs ys) := by
  fun_induction union xs ys with
  | case1 ys => exact second
  | case2 xs => exact first
  | case3 x xs y ys before ih =>
      refine (ih first.tail second).cons first.head fun z member => ?_
      rcases (mem_union_iff first.tail second).mp member with inFirst | inSecond
      · exact first.lt inFirst
      · exact Nat.lt_of_lt_of_le before (second.le inSecond)
  | case4 x xs y ys _ before ih =>
      refine (ih first second.tail).cons second.head fun z member => ?_
      rcases (mem_union_iff first second.tail).mp member with inFirst | inSecond
      · exact Nat.lt_of_lt_of_le before (first.le inFirst)
      · exact second.lt inSecond
  | case5 x xs y ys notBefore notBehind ih =>
      refine (ih first.tail second.tail).cons first.head fun z member => ?_
      rcases (mem_union_iff first.tail second.tail).mp member with inFirst | inSecond
      · exact first.lt inFirst
      · exact Nat.lt_of_le_of_lt (Nat.le_of_not_lt notBehind) (second.lt inSecond)

theorem diff_sublist (xs ys : List Cursor) : (diff xs ys).Sublist xs := by
  fun_induction diff xs ys with
  | case1 ys => exact List.Sublist.refl _
  | case2 xs => exact List.Sublist.refl _
  | case3 x xs y ys _ ih => exact ih.cons_cons x
  | case4 x xs y ys _ _ ih => exact ih
  | case5 x xs y ys _ _ ih => exact ih.cons x

theorem mem_diff_iff (first : Ordered text xs) (second : Ordered text ys) : z ∈ diff xs ys ↔ z ∈ xs ∧ z ∉ ys := by
  fun_induction diff xs ys with
  | case1 ys => simp
  | case2 xs => simp
  | case3 x xs y ys before ih =>
      -- The first place stands before all of the other set.
      have apart : x ∉ y :: ys := fun member => Nat.lt_irrefl _ (Nat.lt_of_lt_of_le before (second.le member))
      rw [List.mem_cons, List.mem_cons, ih first.tail second, or_and_right]
      refine or_congr_left ⟨?_, And.left⟩
      rintro rfl
      exact ⟨rfl, apart⟩
  | case4 x xs y ys _ before ih =>
      have apart : ∀ z ∈ x :: xs, z ≠ y := by
        rintro z member rfl
        exact Nat.lt_irrefl _ (Nat.lt_of_lt_of_le before (first.le member))
      rw [ih first second.tail, List.mem_cons (b := y), not_or]
      exact and_congr_right fun member => (and_iff_right (apart z member)).symm
  | case5 x xs y ys notBefore notBehind ih =>
      have same : x = y := first.head.eq_of_index_eq second.head (by omega)
      subst same
      rw [ih first.tail second.tail, List.mem_cons, List.mem_cons, not_or]
      constructor
      · rintro ⟨member, apart⟩
        refine ⟨.inr member, ?_, apart⟩
        rintro rfl
        exact Nat.lt_irrefl _ (first.lt member)
      · rintro ⟨member, other, apart⟩
        exact ⟨member.resolve_left other, apart⟩

theorem ordered_diff (first : Ordered text xs) (ys : List Cursor) : Ordered text (diff xs ys) :=
  first.sublist (diff_sublist xs ys)

/-- No more is left behind a place of a set than behind its first. -/
theorem length_le_longest (ordered : Ordered text xs) (member : x ∈ xs) : x.rest.length ≤ longest xs := by
  cases xs with
  | nil => cases member
  | cons first others =>
      rcases ordered.head with ⟨_, here⟩
      rcases ordered.areIn x member with ⟨_, there⟩
      have sizes := congrArg List.length (here.rest.symm.trans there.rest)
      have order := ordered.le member
      have start := here.index
      have beyond := there.index
      rw [List.length_append, List.length_append] at sizes
      simp only [longest, List.head?_cons, Option.map_some, Option.getD_some]
      omega

/-- The places from a cursor on are those that are reached from it by passing characters. -/
theorem mem_onward_iff (index : Nat) (previous : Option Char) (cs : List Char) :
    x ∈ onward index previous cs ↔ ∃ taken, Passes ⟨index, previous, cs⟩ taken x := by
  induction cs generalizing index previous with
  | nil =>
      rw [onward, List.mem_singleton]
      constructor
      · rintro rfl
        exact ⟨[], .refl _⟩
      · rintro ⟨taken, passes⟩
        cases (List.append_eq_nil_iff.mp passes.rest.symm).1
        exact (Passes.nil_iff.mp passes).symm
  | cons c cs ih =>
      have next : Passes ⟨index, previous, c :: cs⟩ [c] ⟨index + 1, some c, cs⟩ := ⟨rfl, rfl, rfl⟩
      rw [onward, List.mem_cons, ih]
      constructor
      · rintro (rfl | ⟨taken, passes⟩)
        · exact ⟨[], .refl _⟩
        · exact ⟨[c] ++ taken, next.append passes⟩
      · rintro ⟨_ | ⟨d, taken⟩, passes⟩
        · exact .inl (Passes.nil_iff.mp passes).symm
        · rcases Passes.exists_between (show Passes _ ([d] ++ taken) x from passes) with ⟨y, first, more⟩
          rcases List.cons.inj first.rest with ⟨rfl, -⟩
          cases next.eq_of_index_eq first first.index.symm
          exact .inr ⟨taken, more⟩

theorem ordered_onward {index : Nat} {previous : Option Char} {cs : List Char}
    (here : IsIn text ⟨index, previous, cs⟩) : Ordered text (onward index previous cs) := by
  induction cs generalizing index previous with
  | nil => exact .single here
  | cons c cs ih =>
      have next : Passes ⟨index, previous, c :: cs⟩ [c] ⟨index + 1, some c, cs⟩ := ⟨rfl, rfl, rfl⟩
      refine (ih (here.passes next)).cons here fun y member => ?_
      rcases (mem_onward_iff _ _ _).mp member with ⟨_, passes⟩
      exact passes.index_le

end Cursor

open Cursor (Passes IsIn Ordered)

namespace Pattern

variable {p q : Pattern} {text : List Char} {x y z : Cursor} {xs edge known : List Cursor} {L : Language Char}
  {R : Cursor → Cursor → Prop} {step : List Cursor → List Cursor}

/-! ## Steps of a repetition -/

theorem steps_add {m n : Nat} : Steps R (m + n) x y ↔ ∃ z, Steps R m x z ∧ Steps R n z y := by
  induction m generalizing x with
  | zero => simp [Steps]
  | succ m ih =>
      rw [Nat.succ_add]
      simp only [Steps, ih]
      constructor
      · rintro ⟨w, first, z, more, last⟩
        exact ⟨z, ⟨w, first, more⟩, last⟩
      · rintro ⟨z, ⟨w, first, more⟩, last⟩
        exact ⟨w, first, z, more, last⟩

/-- No way needs more steps than there are characters left: a step that passes none stands still and can be left out. -/
theorem exists_steps_of_steps {n : Nat} (steps : Steps p.Leads n x y) :
    ∃ fewer ≤ x.rest.length, Steps p.Leads fewer x y := by
  induction n generalizing x with
  | zero => exact ⟨0, Nat.zero_le _, steps⟩
  | succ n ih =>
      rcases steps with ⟨z, first, more⟩
      rcases ih more with ⟨fewer, le, steps⟩
      rcases exists_mem_language first with ⟨taken, -, passes⟩
      rcases passes.eq_or_length_lt with rfl | shorter
      · exact ⟨fewer, le, steps⟩
      · exact ⟨fewer + 1, Nat.lt_of_le_of_lt le shorter, z, first, steps⟩

/-! ## What is reached -/

/-- A step from sets to sets that takes each set to the places that a relation leads to from one of it. -/
structure Computes (text : List Char) (step : List Cursor → List Cursor) (R : Cursor → Cursor → Prop) : Prop where
  ordered {xs : List Cursor} : Ordered text xs → Ordered text (step xs)
  mem_iff {xs : List Cursor} : Ordered text xs → ∀ {y}, y ∈ step xs ↔ ∃ x ∈ xs, R x y

/-- A way on from a place that is reached is a way on from one of the places before. -/
theorem Computes.exists_mem_iff (computes : Computes text step R) (ordered : Ordered text xs) {P : Cursor → Prop} :
    (∃ z ∈ step xs, P z) ↔ ∃ x ∈ xs, ∃ z, R x z ∧ P z := by
  simp only [computes.mem_iff ordered]
  constructor
  · rintro ⟨z, ⟨x, member, first⟩, more⟩
    exact ⟨x, member, z, first, more⟩
  · rintro ⟨x, member, z, first, more⟩
    exact ⟨z, ⟨x, member, first⟩, more⟩

theorem Computes.afterExactly (computes : Computes text step R) (n : Nat) :
    Computes text (afterExactly step n) (Steps R n) := by
  induction n with
  | zero =>
      refine ⟨id, fun _ {y} => ?_⟩
      simp [Pattern.afterExactly, Steps]
  | succ n ih =>
      constructor
      · intro xs ordered
        rw [Pattern.afterExactly]
        split
        · exact .nil text
        · exact ih.ordered (computes.ordered ordered)
      · intro xs ordered y
        rw [Pattern.afterExactly]
        split
        · rename_i noneReached
          simp [List.isEmpty_iff.mp noneReached]
        · rw [ih.mem_iff (computes.ordered ordered), computes.exists_mem_iff ordered]
          rfl

/-- How a repetition stands: its edge is known, and what the other known places lead to is known as well. -/
structure Spreads (text : List Char) (R : Cursor → Cursor → Prop) (edge known : List Cursor) : Prop where
  edgeOrdered : Ordered text edge
  ordered : Ordered text known
  within : ∀ x ∈ edge, x ∈ known
  left : ∀ x ∈ known, x ∉ edge → ∀ y, R x y → y ∈ known

theorem Spreads.start (ordered : Ordered text xs) : Spreads text R xs xs :=
  ⟨ordered, ordered, fun _ member => member, fun _ member apart => absurd member apart⟩

namespace Spreads

variable (spreads : Spreads text R edge known) (computes : Computes text step R)
include spreads computes

theorem mem_found_iff : y ∈ Cursor.diff (step edge) known ↔ (∃ x ∈ edge, R x y) ∧ y ∉ known := by
  rw [Cursor.mem_diff_iff (computes.ordered spreads.edgeOrdered) spreads.ordered,
    computes.mem_iff spreads.edgeOrdered]

/-- What a known place leads to is known or found by the next step. -/
theorem mem_or_found (member : x ∈ known) (leads : R x y) : y ∈ known ∨ y ∈ Cursor.diff (step edge) known := by
  by_cases old : y ∈ known
  · exact .inl old
  by_cases atEdge : x ∈ edge
  · exact .inr ((spreads.mem_found_iff computes).mpr ⟨⟨x, atEdge, leads⟩, old⟩)
  · exact .inl (spreads.left x member atEdge y leads)

theorem ordered_found : Ordered text (Cursor.diff (step edge) known) :=
  Cursor.ordered_diff (computes.ordered spreads.edgeOrdered) known

theorem mem_union_found_iff : z ∈ Cursor.union known (Cursor.diff (step edge) known) ↔
    z ∈ known ∨ z ∈ Cursor.diff (step edge) known :=
  Cursor.mem_union_iff spreads.ordered (spreads.ordered_found computes)

theorem next : Spreads text R (Cursor.diff (step edge) known)
    (Cursor.union known (Cursor.diff (step edge) known)) where
  edgeOrdered := spreads.ordered_found computes
  ordered := Cursor.ordered_union spreads.ordered (spreads.ordered_found computes)
  within x member := (spreads.mem_union_found_iff computes).mpr (.inr member)
  left x member apart y leads := by
    have old := ((spreads.mem_union_found_iff computes).mp member).resolve_right apart
    exact (spreads.mem_union_found_iff computes).mpr (spreads.mem_or_found computes old leads)

/-- If the next step finds nothing, then nothing else is ever reached. -/
theorem mem_of_steps (nothingNew : (Cursor.diff (step edge) known).isEmpty = true) {k : Nat} (member : x ∈ known)
    (steps : Steps R k x y) : y ∈ known := by
  induction k generalizing x with
  | zero => exact steps ▸ member
  | succ k ih =>
      rcases steps with ⟨z, first, more⟩
      refine ih ((spreads.mem_or_found computes member first).resolve_right fun found => ?_) more
      rw [List.isEmpty_iff.mp nothingNew] at found
      cases found

/-- A step less is left to take from what is known after the next step. -/
theorem exists_steps_iff (n : Nat) :
    (∃ x ∈ Cursor.union known (Cursor.diff (step edge) known), ∃ k ≤ n, Steps R k x y) ↔
      ∃ x ∈ known, ∃ k ≤ n + 1, Steps R k x y := by
  constructor
  · rintro ⟨x, member, k, le, steps⟩
    rcases (spreads.mem_union_found_iff computes).mp member with old | found
    · exact ⟨x, old, k, Nat.le_succ_of_le le, steps⟩
    · rcases (spreads.mem_found_iff computes).mp found with ⟨⟨before, atEdge, leads⟩, -⟩
      exact ⟨before, spreads.within before atEdge, k + 1, Nat.succ_le_succ le, x, leads, steps⟩
  · rintro ⟨x, member, k, le, steps⟩
    cases k with
    | zero => exact ⟨x, (spreads.mem_union_found_iff computes).mpr (.inl member), 0, Nat.zero_le n, steps⟩
    | succ k =>
        rcases steps with ⟨z, first, more⟩
        have known := (spreads.mem_union_found_iff computes).mpr (spreads.mem_or_found computes member first)
        exact ⟨z, known, k, Nat.le_of_succ_le_succ le, more⟩

end Spreads

/-- A repetition keeps the order and knows in the end what up to so many steps lead to. -/
theorem Spreads.afterUpTo (computes : Computes text step R) (n : Nat) (spreads : Spreads text R edge known) :
    Ordered text (afterUpTo step n edge known) ∧
      ∀ {y}, y ∈ afterUpTo step n edge known ↔ ∃ x ∈ known, ∃ k ≤ n, Steps R k x y := by
  induction n generalizing edge known with
  | zero =>
      refine ⟨spreads.ordered, fun {y} => ?_⟩
      simp [Pattern.afterUpTo, Steps]
  | succ n ih =>
      rw [Pattern.afterUpTo]
      split
      · rename_i nothingNew
        refine ⟨spreads.ordered, fun {y} => ⟨fun member => ⟨y, member, 0, Nat.zero_le _, rfl⟩, ?_⟩⟩
        rintro ⟨x, member, k, -, steps⟩
        exact spreads.mem_of_steps computes nothingNew member steps
      · rcases ih (spreads.next computes) with ⟨ordered, mem_iff⟩
        exact ⟨ordered, fun {y} => mem_iff.trans (spreads.exists_steps_iff computes n)⟩

theorem leads_repeated_iff {least : Nat} {most : Option Nat} {inside : Pattern} :
    (repeated least most inside).Leads x y ↔
      ∃ z, Steps inside.Leads least x z ∧ ∃ k, (∀ bound ∈ most, k ≤ bound - least) ∧ Steps inside.Leads k z y := by
  constructor
  · rintro ⟨n, le, bounded, steps⟩
    rcases Nat.exists_eq_add_of_le le with ⟨k, rfl⟩
    rcases steps_add.mp steps with ⟨z, first, more⟩
    refine ⟨z, first, k, fun bound member => ?_, more⟩
    have := bounded bound member
    omega
  · rintro ⟨z, first, k, bounded, more⟩
    refine ⟨least + k, Nat.le_add_right least k, fun bound member => ?_, steps_add.mpr ⟨z, first, more⟩⟩
    have := bounded bound member
    omega

theorem Computes.chars (text : List Char) (set : CharSet) :
    Computes text (Pattern.chars set).reach (Pattern.chars set).Leads where
  ordered {xs} ordered := by
    rw [reach]
    constructor
    · intro y member
      rcases List.mem_filterMap.mp member with ⟨x, here, next⟩
      rcases Cursor.next?_eq_some_iff.mp next with ⟨c, -, passes⟩
      exact (ordered.areIn x here).passes passes
    · refine ordered.ascending.filterMap (Cursor.next? set) fun x x' before y next y' next' => ?_
      rcases Cursor.next?_eq_some_iff.mp next with ⟨c, -, passes⟩
      rcases Cursor.next?_eq_some_iff.mp next' with ⟨c', -, passes'⟩
      rw [passes.index, passes'.index]
      exact Nat.add_lt_add_right before 1
  mem_iff {xs} ordered {y} := by simp only [reach, List.mem_filterMap, Cursor.next?_eq_some_iff, Leads]

theorem Computes.look (text : List Char) (condition : Look) :
    Computes text (Pattern.look condition).reach (Pattern.look condition).Leads where
  ordered ordered := ordered.sublist List.filter_sublist
  mem_iff {xs} ordered {y} := by
    rw [reach, List.mem_filter]
    constructor
    · rintro ⟨member, holds⟩
      exact ⟨y, member, holds, rfl⟩
    · rintro ⟨x, member, holds, rfl⟩
      exact ⟨member, holds⟩

theorem Computes.sequence {first second : Pattern} (toMiddle : Computes text first.reach first.Leads)
    (fromMiddle : Computes text second.reach second.Leads) :
    Computes text (Pattern.sequence first second).reach (Pattern.sequence first second).Leads where
  ordered ordered := fromMiddle.ordered (toMiddle.ordered ordered)
  mem_iff {xs} ordered {y} := by
    rw [reach, fromMiddle.mem_iff (toMiddle.ordered ordered), toMiddle.exists_mem_iff ordered]
    rfl

theorem Computes.choice {first second : Pattern} (one : Computes text first.reach first.Leads)
    (other : Computes text second.reach second.Leads) :
    Computes text (Pattern.choice first second).reach (Pattern.choice first second).Leads where
  ordered ordered := Cursor.ordered_union (one.ordered ordered) (other.ordered ordered)
  mem_iff {xs} ordered {y} := by
    rw [reach, Cursor.mem_union_iff (one.ordered ordered) (other.ordered ordered), one.mem_iff ordered,
      other.mem_iff ordered]
    simp only [Leads, and_or_left, exists_or]

theorem Computes.repeated {inside : Pattern} (computes : Computes text inside.reach inside.Leads) (least : Nat)
    (most : Option Nat) :
    Computes text (Pattern.repeated least most inside).reach (Pattern.repeated least most inside).Leads := by
  have needed := computes.afterExactly least
  have all (n : Nat) {xs} (ordered : Ordered text xs) := (Spreads.start (needed.ordered ordered)).afterUpTo computes n
  constructor
  · intro xs ordered
    cases most with
    | some bound => exact (all (bound - least) ordered).1
    | none => exact (all _ ordered).1
  · intro xs ordered y
    have reached : y ∈ (Pattern.repeated least most inside).reach xs ↔
        ∃ z ∈ Pattern.afterExactly inside.reach least xs,
          ∃ k, (∀ bound ∈ most, k ≤ bound - least) ∧ Steps inside.Leads k z y := by
      cases most with
      | some bound => simpa [reach] using (all (bound - least) ordered).2
      | none =>
          refine (all _ ordered).2.trans ⟨?_, ?_⟩
          · rintro ⟨z, member, k, -, steps⟩
            exact ⟨z, member, k, fun bound isMost => absurd isMost (Option.not_mem_none bound), steps⟩
          · rintro ⟨z, member, k, -, steps⟩
            rcases exists_steps_of_steps steps with ⟨fewer, le, steps⟩
            have enough := Cursor.length_le_longest (needed.ordered ordered) member
            exact ⟨z, member, fewer, Nat.le_succ_of_le (Nat.le_trans le enough), steps⟩
    rw [reached, needed.exists_mem_iff ordered]
    simp only [leads_repeated_iff]

/-- What a pattern reaches from some places are those that it leads to from one of them. -/
theorem computes_reach (text : List Char) (p : Pattern) : Computes text p.reach p.Leads := by
  induction p with
  | empty => exact ⟨id, fun _ {y} => by simp [reach, Leads]⟩
  | chars set => exact .chars text set
  | look condition => exact .look text condition
  | group inside ih => exact ⟨ih.ordered, ih.mem_iff⟩
  | sequence first second ihFirst ihSecond => exact .sequence ihFirst ihSecond
  | choice first second ihFirst ihSecond => exact .choice ihFirst ihSecond
  | repeated least most inside ih => exact .repeated ih least most

/-- A pattern matches in a text exactly if it leads from a place of the text to another. -/
theorem matchesText_iff (p : Pattern) (s : String) :
    p.matchesText s = true ↔ ∃ x y, IsIn s.toList x ∧ p.Leads x y := by
  have start : IsIn s.toList ⟨0, none, s.toList⟩ := ⟨[], .refl _⟩
  have places := Cursor.ordered_onward start
  rw [matchesText, Bool.not_eq_true', List.isEmpty_eq_false_iff_exists_mem]
  simp only [(computes_reach s.toList p).mem_iff places, Cursor.mem_onward_iff]
  constructor
  · rintro ⟨y, x, here, leads⟩
    exact ⟨x, y, here, leads⟩
  · rintro ⟨x, y, here, leads⟩
    exact ⟨y, x, here, leads⟩

/-! ## Whole texts -/

/-- What a pattern passes on its way to the end of a text. -/
def PassesRest (p : Pattern) (L : Language Char) : Prop := ∀ x, (∃ y, p.Leads x y) ↔ x.rest ∈ L

theorem passesRest_textEnd : PassesRest (look .textEnd) 1 := by
  intro x
  rw [Language.mem_one, ← List.head?_eq_none_iff, ← Option.isNone_iff_eq_none]
  constructor
  · rintro ⟨_, atEnd, _⟩
    exact atEnd
  · exact fun atEnd => ⟨x, atEnd, rfl⟩

theorem PassesRest.sequence (rest : PassesRest q L) (plain : p.isPlain = true) :
    PassesRest (sequence p q) (p.language * L) := by
  intro x
  rw [Language.mem_mul]
  constructor
  · rintro ⟨y, z, first, more⟩
    rcases exists_mem_language first with ⟨taken, member, passes⟩
    exact ⟨taken, member, z.rest, (rest z).mp ⟨y, more⟩, passes.rest.symm⟩
  · rintro ⟨before, member, behind, inRest, whole⟩
    have passes : Passes x before ⟨x.index + before.length, before.getLast?.or x.previous, behind⟩ :=
      ⟨whole.symm, rfl, rfl⟩
    rcases (rest ⟨_, _, behind⟩).mpr inRest with ⟨y, more⟩
    exact ⟨y, _, leads_of_mem_language plain member passes, more⟩

/-- Whoever looks for the start of a text stands there. -/
theorem eq_start_iff (here : IsIn text x) : x.previous = none ↔ x = ⟨0, none, text⟩ := by
  constructor
  · intro noPrevious
    rcases here with ⟨taken, passes⟩
    have nothing : taken = [] := by
      rw [passes.previous, Option.or_none, List.getLast?_eq_none_iff] at noPrevious
      exact noPrevious
    subst nothing
    exact (Passes.nil_iff.mp passes).symm
  · rintro rfl
    rfl

/-- From the start of a text to its end, a pattern matches the texts that are passed on this way. -/
theorem PassesRest.matchesText_iff (rest : PassesRest p L) (s : String) :
    (Pattern.sequence (.look .textStart) p).matchesText s = true ↔ s.toList ∈ L := by
  rw [Pattern.matchesText_iff, ← rest ⟨0, none, s.toList⟩]
  constructor
  · rintro ⟨x, y, here, _, ⟨atStart, rfl⟩, leads⟩
    cases (eq_start_iff here).mp (Option.isNone_iff_eq_none.mp atStart)
    exact ⟨y, leads⟩
  · rintro ⟨y, leads⟩
    exact ⟨_, y, ⟨[], .refl _⟩, _, ⟨rfl, rfl⟩, leads⟩

/-- A pattern that looks at nothing matches all of a text exactly if the text is in its language. -/
theorem matchesAll_iff (plain : p.isPlain = true) (s : String) : p.matchesAll s = true ↔ s.toList ∈ p.language := by
  rw [← matchesText_anchored, anchored, (passesRest_textEnd.sequence plain).matchesText_iff, mul_one]

end Pattern
end ProductGraph
