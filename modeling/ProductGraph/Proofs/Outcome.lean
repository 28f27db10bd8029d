import Mathlib.Data.List.Forall2

namespace ProductGraph
namespace Outcome

/-!
# Computations that may fail

A sequence of steps succeeds exactly if each step succeeds in turn.  These equivalences take a successful run apart
into what its steps gave, and put it together again.
-/

variable {ε δ α β : Type}

/-- A step and what follows it. -/
theorem bind_eq_ok {x : Except ε α} {f : α → Except ε β} {b : β} :
    (x >>= f) = .ok b ↔ ∃ a, x = .ok a ∧ f a = .ok b := by
  cases x <;> simp [bind, Except.bind]

/-- A step that cannot fail. -/
theorem pure_eq_ok {a b : α} : (pure a : Except ε α) = .ok b ↔ a = b := by
  simp [pure, Except.pure]

/-- A result that is only changed. -/
theorem map_eq_ok {x : Except ε α} {f : α → β} {b : β} :
    x.map f = .ok b ↔ ∃ a, x = .ok a ∧ f a = b := by
  cases x <;> simp [Except.map]

/-- A failure that is only reported differently. -/
theorem mapError_eq_ok {x : Except ε α} {f : ε → δ} {a : α} :
    x.mapError f = .ok a ↔ x = .ok a := by
  cases x <;> simp [Except.mapError]

/-- A step without a result of its own. -/
theorem unit_bind_eq_ok {x : Except ε Unit} {f : Unit → Except ε β} {b : β} :
    (x >>= f) = .ok b ↔ x = .ok () ∧ f () = .ok b := by
  rw [bind_eq_ok]
  constructor
  · rintro ⟨⟨⟩, first, rest⟩
    exact ⟨first, rest⟩
  · rintro ⟨first, rest⟩
    exact ⟨(), first, rest⟩

/-- That a step without a result of its own succeeds can be computed. -/
theorem isOk_iff {x : Except ε Unit} : x.isOk = true ↔ x = .ok () := by
  cases x <;> simp [Except.isOk, Except.toBool]

/-- A walk over a list succeeds exactly if it succeeds at every place. -/
theorem mapM_eq_ok {f : α → Except ε β} {list : List α} {results : List β} :
    list.mapM f = .ok results ↔ List.Forall₂ (fun a b => f a = .ok b) list results := by
  induction list generalizing results with
  | nil =>
      rw [List.mapM_nil, pure_eq_ok]
      constructor
      · rintro rfl
        exact .nil
      · rintro ⟨⟩
        rfl
  | cons first rest ih =>
      rw [List.mapM_cons, bind_eq_ok]
      constructor
      · rintro ⟨b, here, behind⟩
        rcases bind_eq_ok.mp behind with ⟨others, there, together⟩
        rw [← pure_eq_ok.mp together]
        exact .cons here (ih.mp there)
      · rintro (_ | ⟨here, there⟩)
        exact ⟨_, here, bind_eq_ok.mpr ⟨_, ih.mpr there, rfl⟩⟩

/-- A walk over a list whose results are known at every place. -/
theorem mapM_eq_map {f : α → Except ε β} {list : List α} {g : α → β} (each : ∀ a ∈ list, f a = .ok (g a)) :
    list.mapM f = .ok (list.map g) := by
  rw [mapM_eq_ok, List.forall₂_map_right_iff]
  exact List.forall₂_same.mpr each

/-- A walk over a list that succeeds has a result at every place. -/
theorem exists_of_mapM {f : α → Except ε β} {list : List α} {results : List β} (done : list.mapM f = .ok results) :
    ∀ a ∈ list, ∃ b, f a = .ok b := by
  have each := mapM_eq_ok.mp done
  induction each with
  | nil => exact List.forall_mem_nil _
  | cons here there ih => exact List.forall_mem_cons.mpr ⟨⟨_, here⟩, ih (mapM_eq_ok.mpr there)⟩

/-- A step that succeeds, and what follows it. -/
theorem exists_bind {x : Except ε α} {f : α → Except ε β} (first : ∃ a, x = .ok a)
    (rest : ∀ a, x = .ok a → ∃ b, f a = .ok b) : ∃ b, (x >>= f) = .ok b := by
  rcases first with ⟨a, done⟩
  rcases rest a done with ⟨b, goesOn⟩
  exact ⟨b, bind_eq_ok.mpr ⟨a, done, goesOn⟩⟩

/-- A walk over a list succeeds if every item lets it. -/
theorem exists_mapM {f : α → Except ε β} {list : List α} (each : ∀ a ∈ list, ∃ b, f a = .ok b) :
    ∃ results, list.mapM f = .ok results := by
  induction list with
  | nil => exact ⟨[], rfl⟩
  | cons first rest ih =>
      rcases each first List.mem_cons_self with ⟨b, here⟩
      rcases ih fun a member => each a (List.mem_cons_of_mem first member) with ⟨others, there⟩
      exact ⟨b :: others, mapM_eq_ok.mpr (.cons here (mapM_eq_ok.mp there))⟩

/-! ## Why a computation fails -/

theorem bind_eq_error {x : Except ε α} {f : α → Except ε β} {e : ε} :
    (x >>= f) = .error e ↔ x = .error e ∨ ∃ a, x = .ok a ∧ f a = .error e := by
  cases x <;> simp [bind, Except.bind]

/-- A walk over a list fails as it does at the first place where it fails. -/
theorem mapM_eq_error {f : α → Except ε β} {list : List α} {e : ε} :
    list.mapM f = .error e ↔
      ∃ before a after, list = before ++ a :: after ∧ (∀ b ∈ before, ∃ c, f b = .ok c) ∧ f a = .error e := by
  induction list with
  | nil => simp [pure, Except.pure]
  | cons first rest ih =>
      rw [List.mapM_cons, bind_eq_error]
      constructor
      · rintro (here | ⟨b, done, behind⟩)
        · exact ⟨[], first, rest, rfl, List.forall_mem_nil _, here⟩
        · rcases bind_eq_error.mp behind with there | ⟨_, _, impossible⟩
          · rcases ih.mp there with ⟨before, a, after, rfl, each, failed⟩
            exact ⟨first :: before, a, after, rfl, List.forall_mem_cons.mpr ⟨⟨b, done⟩, each⟩, failed⟩
          · cases impossible
      · rintro ⟨before, a, after, split, each, failed⟩
        cases before with
        | nil =>
            cases split
            exact .inl failed
        | cons _ before =>
            cases split
            rcases each first List.mem_cons_self with ⟨b, done⟩
            have there := ih.mpr ⟨before, a, after, rfl, fun c member => each c (List.mem_cons_of_mem _ member), failed⟩
            exact .inr ⟨b, done, bind_eq_error.mpr (.inl there)⟩

/-- If a computation fails, it is for a reason of some sort. -/
def FailsOnly (P : ε → Prop) (x : Except ε α) : Prop := ∀ e, x = .error e → P e

variable {P : ε → Prop}

theorem failsOnly_ok (a : α) : FailsOnly P (.ok a : Except ε α) := fun _ => nofun

theorem failsOnly_error {e : ε} (sort : P e) : FailsOnly P (.error e : Except ε α) := by
  rintro _ ⟨⟩
  exact sort

theorem FailsOnly.bind {x : Except ε α} {f : α → Except ε β} (first : FailsOnly P x)
    (rest : ∀ a, FailsOnly P (f a)) : FailsOnly P (x >>= f) := by
  intro e failed
  cases x with
  | error _ => exact first e (congrArg Except.error (Except.error.inj failed))
  | ok a => exact rest a e failed

theorem FailsOnly.map {x : Except ε α} {f : α → β} (sort : FailsOnly P x) : FailsOnly P (x.map f) := by
  intro e failed
  cases x with
  | error _ => exact sort e (congrArg Except.error (Except.error.inj failed))
  | ok a => cases failed

/-- A computation that fails for no reason of the sort of its first step has taken that step. -/
theorem FailsOnly.exists_of_bind {x : Except ε α} {f : α → Except ε β} {e : ε} (sort : FailsOnly P x) (other : ¬P e)
    (failed : (x >>= f) = .error e) : ∃ a, x = .ok a ∧ f a = .error e :=
  (bind_eq_error.mp failed).resolve_left fun here => other (sort e here)

end Outcome
end ProductGraph
