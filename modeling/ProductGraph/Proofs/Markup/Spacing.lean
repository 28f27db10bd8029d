import Mathlib.Data.List.DropRight
import ProductGraph.Markup.Sanitize

namespace ProductGraph
namespace Markup

/-!
# Blanks collapsed

Plain text is put together of its words, with a single space between each two.  Without speaking of words, this is the
text with one space in the place of each run of blanks, trimmed at both ends.  Nothing but blanks is lost in it.
-/

open Text (trim trimStart trimEnd words wordsFrom)
open Unicode (isBlank)

variable {cs : List Char}

/-- A text with one space in the place of each run of blanks. -/
def singlySpaced : List Char → List Char
  | [] => []
  | c :: rest =>
    if isBlank c then
      if rest.head?.any isBlank then singlySpaced rest else ' ' :: singlySpaced rest
    else c :: singlySpaced rest

/-- A text with one space in the place of each run of blanks, and none at its ends. -/
def collapsed (cs : List Char) : List Char := trim (singlySpaced cs)

theorem isBlank_space : isBlank ' ' = true := by decide

/-! ## Trimming -/

theorem trimStart_cons_of_isBlank {c : Char} (blank : isBlank c = true) (rest : List Char) :
    trimStart (c :: rest) = trimStart rest := List.dropWhile_cons_of_pos blank

theorem trimStart_cons_of_not_isBlank {c : Char} (solid : isBlank c = false) (rest : List Char) :
    trimStart (c :: rest) = c :: rest := List.dropWhile_cons_of_neg (Bool.eq_false_iff.mp solid)

theorem trimStart_trimStart (cs : List Char) : trimStart (trimStart cs) = trimStart cs :=
  List.dropWhile_idempotent isBlank cs

theorem trimEnd_append (first second : List Char) :
    trimEnd (first ++ second) = if trimEnd second = [] then trimEnd first else first ++ trimEnd second := by
  simp only [trimEnd, List.reverse_append, List.dropWhile_append, List.isEmpty_iff, List.reverse_eq_nil_iff]
  split
  · rfl
  · rw [List.reverse_append, List.reverse_reverse]

theorem trimEnd_of_solid (solid : ∀ c ∈ cs, isBlank c = false) : trimEnd cs = cs :=
  List.rdropWhile_eq_self_iff.mpr fun nonempty => Bool.eq_false_iff.mp (solid _ (List.getLast_mem nonempty))

/-! ## Words -/

/-- A run of blanks is one space, whatever blanks stand at its front. -/
theorem singlySpaced_cons_of_isBlank {c : Char} (blank : isBlank c = true) (rest : List Char) :
    singlySpaced (c :: rest) = ' ' :: trimStart (singlySpaced rest) := by
  induction rest generalizing c with
  | nil => simp [singlySpaced, blank, trimStart]
  | cons d rest ih =>
      rw [singlySpaced, if_pos blank]
      cases next : isBlank d with
      | true =>
          rw [if_pos (show (d :: rest).head?.any isBlank = true from next), ih next,
            trimStart_cons_of_isBlank isBlank_space, trimStart_trimStart]
      | false =>
          rw [if_neg (show ¬(d :: rest).head?.any isBlank = true from Bool.eq_false_iff.mp next), singlySpaced,
            if_neg (Bool.eq_false_iff.mp next), trimStart_cons_of_not_isBlank next]

theorem ne_nil_of_mem_wordsFrom {word read : List Char} (member : word ∈ wordsFrom read cs) : word ≠ [] := by
  induction cs generalizing read with
  | nil =>
      rw [wordsFrom] at member
      split at member
      · cases member
      · rename_i notEmpty
        cases List.mem_singleton.mp member
        exact fun isNil => notEmpty (isNil ▸ rfl)
  | cons c rest ih =>
      rw [wordsFrom] at member
      split at member
      · split at member
        · exact ih member
        · rename_i notEmpty
          rcases List.mem_cons.mp member with rfl | behind
          · exact fun isNil => notEmpty (isNil ▸ rfl)
          · exact ih behind
      · exact ih member

theorem spaced_cons (word : List Char) (others : List (List Char)) :
    spaced (word :: others) = if others = [] then word else word ++ ' ' :: spaced others := by
  cases others with
  | nil => rfl
  | cons other others => rw [spaced, if_neg (List.cons_ne_nil other others)]; exact fun isNil => by cases isNil

theorem spaced_eq_nil_iff {parts : List (List Char)} (nonempty : ∀ word ∈ parts, word ≠ []) :
    spaced parts = [] ↔ parts = [] := by
  cases parts with
  | nil => exact ⟨fun _ => rfl, fun _ => rfl⟩
  | cons word others =>
      have front := nonempty word List.mem_cons_self
      rw [spaced_cons]
      split <;> simp [front]

/-- A word that has been read goes on with what follows it up to the next blank.  The two halves are proved together,
since a blank ends a word and none is being read behind it. -/
theorem spaced_wordsFrom (cs : List Char) :
    spaced (wordsFrom [] cs) = collapsed cs ∧ ∀ word ≠ [], (∀ c ∈ word, isBlank c = false) →
      spaced (wordsFrom word cs) = trimEnd (word ++ singlySpaced cs) := by
  induction cs with
  | nil =>
      refine ⟨rfl, fun word nonempty solid => ?_⟩
      rw [wordsFrom, if_neg (by simpa using nonempty), singlySpaced, List.append_nil, trimEnd_of_solid solid]
      rfl
  | cons c rest ih =>
      rcases ih with ⟨between, within⟩
      rw [collapsed, trim] at between ⊢
      cases blank : isBlank c with
      | true =>
          have skipped : wordsFrom [] (c :: rest) = wordsFrom [] rest := by
            rw [wordsFrom, if_pos blank]
            rfl
          rw [singlySpaced_cons_of_isBlank blank, trimStart_cons_of_isBlank isBlank_space, trimStart_trimStart]
          refine ⟨skipped ▸ between, fun word nonempty solid => ?_⟩
          have space : trimEnd [' '] = [] := rfl
          have ends : trimEnd (trimStart (singlySpaced rest)) = [] ↔ wordsFrom [] rest = [] :=
            between ▸ spaced_eq_nil_iff fun _ => ne_nil_of_mem_wordsFrom
          have behind : trimEnd (' ' :: trimStart (singlySpaced rest)) =
              if wordsFrom [] rest = [] then [] else ' ' :: spaced (wordsFrom [] rest) := by
            rw [← List.singleton_append, trimEnd_append, space, between]
            exact if_congr ends rfl rfl
          rw [wordsFrom, if_pos blank, if_neg (by simpa using nonempty), spaced_cons, trimEnd_append, behind]
          by_cases last : wordsFrom [] rest = []
          · rw [if_pos last, if_pos last, if_pos rfl, trimEnd_of_solid solid]
          · rw [if_neg last, if_neg last, if_neg (List.cons_ne_nil _ _)]
      | false =>
          have goesOn : ∀ word, wordsFrom word (c :: rest) = wordsFrom (word ++ [c]) rest := by
            intro word
            rw [wordsFrom, if_neg (Bool.eq_false_iff.mp blank)]
          rw [singlySpaced, if_neg (Bool.eq_false_iff.mp blank), trimStart_cons_of_not_isBlank blank, goesOn]
          refine ⟨within [c] (List.cons_ne_nil c []) (by simpa using blank), fun word _ solid => ?_⟩
          have longer : ∀ d ∈ word ++ [c], isBlank d = false := by
            simpa [or_imp, forall_and] using ⟨solid, blank⟩
          rw [goesOn, within _ (by simp) longer, List.append_assoc, List.singleton_append]

/-- Words with a single space between each two are the text with its blanks collapsed. -/
theorem spaced_words (cs : List Char) : spaced (words cs) = collapsed cs := (spaced_wordsFrom cs).1

/-! ## What is kept -/

section Count

variable {p : Char → Bool} (solid : ∀ c, isBlank c = true → p c = false)

include solid

theorem countP_trimStart (cs : List Char) : (trimStart cs).countP p = cs.countP p := by
  induction cs with
  | nil => rfl
  | cons c rest ih =>
      cases blank : isBlank c with
      | true =>
          have lost := Bool.eq_false_iff.mp (solid c blank)
          rw [trimStart_cons_of_isBlank blank, ih, List.countP_cons_of_neg lost]
      | false => rw [trimStart_cons_of_not_isBlank blank]

theorem countP_trim (cs : List Char) : (trim cs).countP p = cs.countP p := by
  have ends : (trimStart (trimStart cs).reverse).countP p = (trimStart cs).reverse.countP p := countP_trimStart solid _
  rw [trim, trimEnd, List.countP_reverse]
  exact ends.trans ((List.countP_reverse).trans (countP_trimStart solid cs))

theorem countP_singlySpaced (cs : List Char) : (singlySpaced cs).countP p = cs.countP p := by
  induction cs with
  | nil => rfl
  | cons c rest ih =>
      cases blank : isBlank c with
      | true =>
          have space := Bool.eq_false_iff.mp (solid ' ' isBlank_space)
          have lost := Bool.eq_false_iff.mp (solid c blank)
          rw [singlySpaced_cons_of_isBlank blank, List.countP_cons_of_neg space, countP_trimStart solid, ih,
            List.countP_cons_of_neg lost]
      | false => rw [singlySpaced, if_neg (Bool.eq_false_iff.mp blank), List.countP_cons, List.countP_cons, ih]

/-- Only blanks are lost when blanks are collapsed. -/
theorem countP_collapsed (cs : List Char) : (collapsed cs).countP p = cs.countP p :=
  (countP_trim solid _).trans (countP_singlySpaced solid cs)

end Count

end Markup
end ProductGraph
