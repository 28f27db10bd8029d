import ProductGraph.Markup.Entity

namespace ProductGraph
namespace Markup

/-!
# References written and resolved

What is written by reference is resolved to what it was, whether all characters with a meaning are written so or only
those that have one outside tags.  The other half is what no longer occurs: angles outside tags, and quotes besides
where all characters with a meaning are written by reference.
-/

/-- A way to write single characters that are read back as they were. -/
def Resolves (write : Char → List Char) : Prop :=
  ∀ c rest, resolveFrom none (write c ++ rest) = (resolveFrom none rest).map (c :: ·)

theorem resolveFrom_cons {c : Char} (ordinary : c ≠ '&') (rest : List Char) :
    resolveFrom none (c :: rest) = (resolveFrom none rest).map (c :: ·) := by
  rw [resolveFrom, if_neg ordinary]

theorem resolves_partlyEscapedChar : Resolves partlyEscapedChar := by
  intro c rest
  rw [partlyEscapedChar.eq_def]
  split
  · rfl
  · rfl
  · rfl
  · rename_i notAmpersand
    exact resolveFrom_cons notAmpersand rest

theorem resolves_escapedChar : Resolves escapedChar := by
  intro c rest
  rw [escapedChar.eq_def]
  split
  · rfl
  · rfl
  · rfl
  · rfl
  · rfl
  · rename_i notAmpersand _ _
    exact resolveFrom_cons notAmpersand rest

theorem Resolves.resolve? {write : Char → List Char} (resolves : Resolves write) (cs : List Char) :
    resolve? (cs.flatMap write) = some cs := by
  induction cs with
  | nil => rfl
  | cons c rest ih =>
      rw [Markup.resolve?] at ih ⊢
      rw [List.flatMap_cons, resolves, ih]
      rfl

theorem resolve?_escape (cs : List Char) : resolve? (escape cs) = some cs := resolves_escapedChar.resolve? cs

theorem resolve?_partlyEscape (cs : List Char) : resolve? (partlyEscape cs) = some cs :=
  resolves_partlyEscapedChar.resolve? cs

/-! ## Characters that do not occur -/

theorem not_mem_partlyEscape {mark : Char} (angle : mark = '<' ∨ mark = '>') (cs : List Char) :
    mark ∉ partlyEscape cs := by
  intro member
  rcases List.mem_flatMap.mp member with ⟨c, _, inChar⟩
  rw [partlyEscapedChar.eq_def] at inChar
  split at inChar
  · rcases angle with rfl | rfl <;> exact absurd inChar (by decide)
  · rcases angle with rfl | rfl <;> exact absurd inChar (by decide)
  · rcases angle with rfl | rfl <;> exact absurd inChar (by decide)
  · cases List.mem_singleton.mp inChar
    rcases angle with rfl | rfl <;> contradiction

theorem not_mem_escape {mark : Char} (special : mark = '<' ∨ mark = '>' ∨ mark = '"' ∨ mark = '\'')
    (cs : List Char) : mark ∉ escape cs := by
  intro member
  rcases List.mem_flatMap.mp member with ⟨c, _, inChar⟩
  rw [escapedChar.eq_def] at inChar
  split at inChar
  · rcases special with rfl | rfl | rfl | rfl <;> exact absurd inChar (by decide)
  · rcases special with rfl | rfl | rfl | rfl <;> exact absurd inChar (by decide)
  · rcases special with rfl | rfl | rfl | rfl <;> exact absurd inChar (by decide)
  · rcases special with rfl | rfl | rfl | rfl <;> exact absurd inChar (by decide)
  · rcases special with rfl | rfl | rfl | rfl <;> exact absurd inChar (by decide)
  · cases List.mem_singleton.mp inChar
    rcases special with rfl | rfl | rfl | rfl <;> contradiction

end Markup
end ProductGraph
