import ProductGraph.Markup.Fragment
import ProductGraph.Proofs.Markup.Event

namespace ProductGraph
namespace Markup

/-!
# Text made markup

A text whose special characters were written by reference is markup, so making a text markup a second time changes
nothing.
-/

theorem isReadable_closing {steps : Nat} {name : String} {opened : List String} (plain : IsPlainName name)
    (rest : List Char) :
    isReadable (steps + 1) (name :: opened) ((Token.closing name).written ++ rest) = isReadable steps opened rest := by
  rw [isReadable, next_closing plain]
  simp

theorem isReadable_text {steps : Nat} {opened : List String} {cs rest : List Char} (nonempty : cs ≠ [])
    (noAngle : '<' ∉ cs) (resolves : (resolve? cs).isSome = true) :
    isReadable (steps + 1) opened (cs ++ '<' :: rest) = isReadable steps opened ('<' :: rest) := by
  rw [isReadable, next_text nonempty noAngle]
  simp only [resolves, Bool.true_and]

/-- Text without angles whose references resolve is markup. -/
theorem isMarkup_of_resolves {s : String} (noAngle : '<' ∉ s.toList) (resolves : (resolve? s.toList).isSome = true) :
    isMarkup s = true := by
  have plain : IsPlainName "r" := by decide
  have opening : ∀ rest, next ("<r>".toList ++ rest) = .event (.opening "r" []) rest := fun _ => rfl
  have document : wrapped s.toList = "<r>".toList ++ (s.toList ++ ((Token.closing "r").written ++ [])) := by
    rw [wrapped, List.append_nil, List.append_assoc]
    rfl
  have noAttributes : (attributes? []).isSome = true := rfl
  have steps : ∃ more, (wrapped s.toList).length + 1 = more + 4 := ⟨s.toList.length + 4, by simp [wrapped]⟩
  rcases steps with ⟨more, steps⟩
  rw [isMarkup]
  simp only [steps]
  rw [document, isReadable, opening]
  simp only [noAttributes, Bool.true_and]
  by_cases empty : s.toList = []
  · rw [empty, List.nil_append, isReadable_closing plain]
    rfl
  · have text : isReadable (more + 3) ["r"] (s.toList ++ ((Token.closing "r").written ++ [])) =
        isReadable (more + 2) ["r"] ((Token.closing "r").written ++ []) := isReadable_text empty noAngle resolves
    rw [text, isReadable_closing plain]
    rfl

theorem isMarkup_asMarkup (s : String) : isMarkup (asMarkup s) = true := by
  rw [asMarkup]
  split
  · rename_i already
    exact already
  · apply isMarkup_of_resolves
    · rw [String.toList_ofList]
      exact not_mem_partlyEscape (.inl rfl) s.toList
    · rw [String.toList_ofList, resolve?_partlyEscape]
      rfl

/-- Making a text markup a second time changes nothing. -/
theorem asMarkup_asMarkup (s : String) : asMarkup (asMarkup s) = asMarkup s := by
  conv =>
    lhs
    unfold asMarkup
  exact if_pos (isMarkup_asMarkup s)

end Markup
end ProductGraph
