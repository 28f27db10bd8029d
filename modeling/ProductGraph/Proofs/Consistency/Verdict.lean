import Mathlib.Data.List.Basic
import ProductGraph.Consistency.Verdict

namespace ProductGraph
namespace Graph

open Consistency

/-!
# What a verdict says

The violation that a check finds names that check.  So the check that a verdict names depends only on which of the
checks find anything at all, and a verdict is clean exactly if none of the checks asked for does.
-/

variable [PatternLimit]

/-- A check reports its violations under its own name. -/
theorem check_of_violation? {g : Graph} {lang : String} {c : Check} {v : Violation}
    (found : g.violation? lang c = some v) : v.check = c := by
  cases c
  case duplicateIds =>
    rcases Option.map_eq_some_iff.mp found with ⟨_, _, rfl⟩
    rfl
  case classReferences =>
    rcases List.exists_of_findSome?_eq_some found with ⟨_, _, found⟩
    rcases List.exists_of_findSome?_eq_some found with ⟨_, _, found⟩
    rcases Option.map_eq_some_iff.mp found with ⟨_, _, rfl⟩
    rfl
  case specializationCycles =>
    rcases List.exists_of_findSome?_eq_some found with ⟨d, _, found⟩
    cases named : d.id? with
    | none => simp [named] at found
    | some id =>
        by_cases root : d.parent?.isNone = true
        · simp [named, root] at found
        · simp only [named, root] at found
          rcases Option.map_eq_some_iff.mp found with ⟨_, _, rfl⟩
          rfl
  case cardinality =>
    rcases List.exists_of_findSome?_eq_some found with ⟨_, _, found⟩
    rcases Option.map_eq_some_iff.mp found with ⟨⟨_, _⟩, _, rfl⟩
    rfl
  case linkTargets =>
    rcases List.exists_of_findSome?_eq_some found with ⟨_, _, found⟩
    rcases List.exists_of_findSome?_eq_some found with ⟨_, _, found⟩
    rcases Option.map_eq_some_iff.mp found with ⟨_, _, rfl⟩
    rfl
  case eligibleProperties =>
    rcases List.exists_of_findSome?_eq_some found with ⟨_, _, found⟩
    rcases Option.bind_eq_some_iff.mp found with ⟨_, _, found⟩
    rcases Option.map_eq_some_iff.mp found with ⟨_, _, rfl⟩
    rfl
  case eligibleLinks =>
    rcases List.exists_of_findSome?_eq_some found with ⟨_, _, found⟩
    rcases List.exists_of_findSome?_eq_some found with ⟨⟨_, _, _⟩, _, found⟩
    rcases Option.bind_eq_some_iff.mp found with ⟨_, _, found⟩
    rcases Option.map_eq_some_iff.mp found with ⟨_, _, rfl⟩
    rfl
  case valueConstraints =>
    rcases List.exists_of_findSome?_eq_some found with ⟨_, _, found⟩
    rcases List.exists_of_findSome?_eq_some found with ⟨_, _, found⟩
    rcases Option.map_eq_some_iff.mp found with ⟨_, _, rfl⟩
    rfl

/-- The check that a verdict names is the first of those asked for that finds anything. -/
theorem map_check_check (g : Graph) (requested : CheckSet) (lang : String) :
    (g.check requested lang).map Violation.check =
      requested.toList.find? fun c => (g.violation? lang c).isSome := by
  rw [check]
  induction requested.toList with
  | nil => rfl
  | cons c rest ih =>
      cases found : g.violation? lang c with
      | none => simp [found, ih]
      | some v => simp [found, check_of_violation? found]

/-- A clean verdict: none of the checks asked for finds anything. -/
theorem check_eq_none_iff (g : Graph) (requested : CheckSet) (lang : String) :
    g.check requested lang = none ↔ ∀ c, requested.contains c = true → g.violation? lang c = none := by
  rw [check, List.findSome?_eq_none_iff]
  constructor
  · intro clean c asked
    apply clean c
    exact List.mem_filter.mpr ⟨by cases c <;> decide, asked⟩
  · intro clean c member
    exact clean c (List.mem_filter.mp member).2

/-- A check that is asked for alone decides the verdict. -/
theorem check_only (g : Graph) (c : Check) (lang : String) : g.check (.only [c]) lang = g.violation? lang c := by
  have alone : (CheckSet.only [c]).toList = [c] := by cases c <;> rfl
  rw [check, alone, List.findSome?_singleton]

end Graph
end ProductGraph
