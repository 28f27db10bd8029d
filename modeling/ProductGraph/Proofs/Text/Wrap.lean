import Mathlib.Data.List.Basic
import ProductGraph.Text.Wrap

namespace ProductGraph
namespace Text

/-!
# Words in lines

A text that is too long for a line is put together anew from its words.  What it says is in the words, so they are the
same before and after; and each break has a reason, which is the word behind it.

The text is written from its front, and a column is all that is known of the line so far.  Here the line itself is kept,
and the lines are made one by one: the written text is these lines with a break between each two.  The words of the text
and the length of its lines are then those of the single lines.

A word may be longer than any line.  It has a line of its own, which is the one exception to the width.
-/

open Unicode (isBlank)

variable {width : Nat} {cs line : List Char} {ws : List (List Char)}

/-! ## Words -/

/-- The words are what blanks leave between them, where they leave anything. -/
theorem wordsFrom_eq (word cs : List Char) :
    wordsFrom word cs = (cs.splitOnPPrepend isBlank word.reverse).filter fun piece => !piece.isEmpty := by
  induction cs generalizing word with
  | nil => cases word <;> simp [wordsFrom, List.splitOnPPrepend_nil]
  | cons c rest ih =>
      cases blank : isBlank c with
      | true =>
          rw [wordsFrom, if_pos blank, ih, List.reverse_nil, List.splitOnPPrepend_cons_pos blank,
            List.splitOnP_eq_splitOnPPrepend, List.reverse_reverse]
          cases word <;> rfl
      | false =>
          rw [wordsFrom, if_neg (Bool.eq_false_iff.mp blank), ih, List.splitOnPPrepend_cons_neg blank,
            List.reverse_append]
          rfl

theorem words_eq (cs : List Char) : words cs = (cs.splitOnP isBlank).filter fun piece => !piece.isEmpty :=
  wordsFrom_eq [] cs

/-- A blank ends the words before it and starts those behind it. -/
theorem words_append_of_isBlank {c : Char} (blank : isBlank c = true) (before behind : List Char) :
    words (before ++ c :: behind) = words before ++ words behind := by
  simp only [words_eq]
  rw [List.splitOnP_append_cons before behind blank, List.filter_append]

/-- A text that is one word: there is something in it, and nothing that is blank. -/
structure IsWord (word : List Char) : Prop where
  nonempty : word ≠ []
  solid : ∀ c ∈ word, isBlank c = false

theorem IsWord.words_eq {word : List Char} (isWord : IsWord word) : words word = [word] := by
  rw [Text.words_eq, List.splitOnP_eq_singleton isWord.solid, List.filter_cons_of_pos (by simp [isWord.nonempty])]
  rfl

theorem IsWord.not_mem {word : List Char} (isWord : IsWord word) {c : Char} (blank : isBlank c = true) : c ∉ word := by
  intro member
  rw [isWord.solid c member] at blank
  cases blank

theorem solid_of_mem_wordsFrom {read word : List Char} (solid : ∀ c ∈ read, isBlank c = false)
    (member : word ∈ wordsFrom read cs) : ∀ c ∈ word, isBlank c = false := by
  induction cs generalizing read with
  | nil =>
      rw [wordsFrom] at member
      split at member
      · cases member
      · cases List.mem_singleton.mp member
        exact solid
  | cons c rest ih =>
      have solidNil : ∀ c ∈ ([] : List Char), isBlank c = false := fun c member => absurd member List.not_mem_nil
      rw [wordsFrom] at member
      split at member
      · split at member
        · exact ih solidNil member
        · rcases List.mem_cons.mp member with rfl | later
          · exact solid
          · exact ih solidNil later
      · rename_i notBlank
        apply ih _ member
        intro d isIn
        rcases List.mem_append.mp isIn with before | here
        · exact solid d before
        · cases List.mem_singleton.mp here
          exact Bool.eq_false_iff.mpr notBlank

theorem isWord_of_mem_words {word : List Char} (member : word ∈ words cs) : IsWord word := by
  refine ⟨?_, solid_of_mem_wordsFrom (fun c inNil => absurd inNil List.not_mem_nil) member⟩
  rw [words_eq] at member
  simpa using (List.mem_filter.mp member).2

/-! ## Lines -/

/-- The lines that words make behind the line that is begun. -/
def fill (width : Nat) (line : List Char) : List (List Char) → List (List Char)
  | [] => [line]
  | word :: rest =>
    if width < line.length + word.length + 1 then line :: fill width word rest
    else fill width (line ++ ' ' :: word) rest

def broken (lines : List (List Char)) : List Char := ['\n'].intercalate lines

theorem fill_ne_nil (width : Nat) (line : List Char) (ws : List (List Char)) : fill width line ws ≠ [] := by
  induction ws generalizing line with
  | nil => exact List.cons_ne_nil _ _
  | cons word rest ih =>
      rw [fill]
      split
      · exact List.cons_ne_nil _ _
      · exact ih _

theorem broken_cons {lines : List (List Char)} (nonempty : lines ≠ []) (line : List Char) :
    broken (line :: lines) = line ++ '\n' :: broken lines := by
  rcases List.exists_cons_of_ne_nil nonempty with ⟨next, others, rfl⟩
  rw [broken, List.intercalate_cons_cons]
  simp [broken]

theorem broken_pieces (cs : List Char) : broken (pieces '\n' cs) = cs := by
  rw [broken, pieces, List.intercalate_splitOn]

theorem length_le_length_broken {lines : List (List Char)} (member : line ∈ lines) :
    line.length ≤ (broken lines).length := by
  induction lines with
  | nil => cases member
  | cons first others ih =>
      by_cases last : others = []
      · subst last
        cases List.mem_singleton.mp member
        simp [broken]
      · rw [broken_cons last, List.length_append, List.length_cons]
        rcases List.mem_cons.mp member with rfl | behind
        · exact Nat.le_add_right _ _
        · have le := ih behind
          omega

/-- What is written behind the begun line makes its lines. -/
theorem append_wrapFrom (begun : line ≠ []) (areWords : ∀ word ∈ ws, IsWord word) :
    line ++ wrapFrom width line.length ws = broken (fill width line ws) := by
  induction ws generalizing line with
  | nil => simp [wrapFrom, fill, broken]
  | cons word rest ih =>
      rcases List.forall_mem_cons.mp areWords with ⟨isWord, others⟩
      have column : ¬line.length = 0 := fun zero => begun (List.length_eq_zero_iff.mp zero)
      rw [wrapFrom, if_neg column, fill]
      split
      · rw [ih isWord.nonempty others, broken_cons (fill_ne_nil width word rest)]
      · have longer : (line ++ ' ' :: word).length = line.length + 1 + word.length := by
          rw [List.length_append, List.length_cons]
          omega
        rw [← ih (List.append_ne_nil_of_left_ne_nil begun _) others, longer, List.append_assoc, List.cons_append]

/-! ## What the lines hold -/

/-- The lines hold the words, in their order. -/
theorem flatMap_words_fill (areWords : ∀ word ∈ ws, IsWord word) :
    (fill width line ws).flatMap words = words line ++ ws := by
  induction ws generalizing line with
  | nil => simp [fill]
  | cons word rest ih =>
      rcases List.forall_mem_cons.mp areWords with ⟨isWord, others⟩
      rw [fill]
      split
      · rw [List.flatMap_cons, ih others, isWord.words_eq, List.singleton_append]
      · rw [ih others, words_append_of_isBlank (by decide), isWord.words_eq, List.append_assoc, List.singleton_append]

theorem words_broken (lines : List (List Char)) : words (broken lines) = lines.flatMap words := by
  induction lines with
  | nil => rfl
  | cons line others ih =>
      by_cases last : others = []
      · subst last
        simp [broken]
      · rw [broken_cons last, words_append_of_isBlank (by decide), ih, List.flatMap_cons]

/-- What holds of the line that is begun and of each word, and stays where a word goes on a line with room for it, holds
of every line. -/
theorem forall_mem_fill {Holds : List Char → Prop} (begun : Holds line) (ofWord : ∀ word ∈ ws, Holds word)
    (goesOn : ∀ line word, word ∈ ws → Holds line → line.length + word.length + 1 ≤ width →
      Holds (line ++ ' ' :: word)) :
    ∀ made ∈ fill width line ws, Holds made := by
  induction ws generalizing line with
  | nil =>
      intro made member
      cases List.mem_singleton.mp member
      exact begun
  | cons word rest ih =>
      rcases List.forall_mem_cons.mp ofWord with ⟨here, later⟩
      have goesOnLater := fun line next (member : next ∈ rest) => goesOn line next (List.mem_cons_of_mem _ member)
      intro made member
      rw [fill] at member
      split at member
      · rcases List.mem_cons.mp member with rfl | behind
        · exact begun
        · exact ih here later goesOnLater made behind
      · rename_i room
        exact ih (goesOn line word List.mem_cons_self begun (Nat.le_of_not_lt room)) later goesOnLater made member

/-- A line that is not too long, or is one word that is. -/
def Fits (width : Nat) (line : List Char) : Prop := line.length ≤ width ∨ words line = [line]

theorem fits_of_mem_fill (fits : Fits width line) (areWords : ∀ word ∈ ws, IsWord word) :
    ∀ made ∈ fill width line ws, Fits width made := by
  apply forall_mem_fill fits
  · exact fun word member => .inr (areWords word member).words_eq
  · intro line word _ _ room
    left
    rw [List.length_append, List.length_cons]
    omega

theorem break_not_mem_of_mem_fill (oneLine : '\n' ∉ line) (areWords : ∀ word ∈ ws, IsWord word) :
    ∀ made ∈ fill width line ws, '\n' ∉ made := by
  have noBreak : ∀ word ∈ ws, '\n' ∉ word := fun word member => (areWords word member).not_mem (by decide)
  apply forall_mem_fill oneLine noBreak
  intro line word member oneLine _
  simp [oneLine, noBreak word member]

/-- A break that is needed: the line before it has no room for the first word behind it. -/
def Needed (width : Nat) (before line : List Char) : Prop :=
  ∃ word, (words line).head? = some word ∧ width < before.length + 1 + word.length

/-- The first line is the one that is begun, maybe with more words. -/
theorem exists_head_fill (width : Nat) (line : List Char) (ws : List (List Char)) :
    ∃ first others, fill width line ws = first :: others ∧ words line <+: words first := by
  induction ws generalizing line with
  | nil => exact ⟨line, [], rfl, List.prefix_rfl⟩
  | cons word rest ih =>
      rw [fill]
      split
      · exact ⟨line, _, rfl, List.prefix_rfl⟩
      · rcases ih (line ++ ' ' :: word) with ⟨first, others, made, front⟩
        rw [words_append_of_isBlank (by decide)] at front
        exact ⟨first, others, made, (List.prefix_append _ _).trans front⟩

/-- Every break is needed, since a word that still has room goes on the line. -/
theorem isChain_needed_fill (areWords : ∀ word ∈ ws, IsWord word) :
    (fill width line ws).IsChain (Needed width) := by
  induction ws generalizing line with
  | nil => exact .singleton line
  | cons word rest ih =>
      rcases List.forall_mem_cons.mp areWords with ⟨isWord, others⟩
      have behind : (fill width word rest).IsChain (Needed width) := ih others
      rw [fill]
      split
      · rename_i noRoom
        rcases exists_head_fill width word rest with ⟨first, more, made, front⟩
        rw [isWord.words_eq] at front
        rcases front with ⟨_, whole⟩
        rw [made] at behind ⊢
        refine List.isChain_cons_cons.mpr ⟨⟨word, ?_, by omega⟩, behind⟩
        rw [← whole]
        rfl
      · exact ih others

/-! ## Wrapping -/

/-- A text that is too long for a line is that of the lines that its words make. -/
theorem exists_lines_of_lt (tooLong : width < cs.length) :
    ∃ lines, wrap width cs = broken lines ∧ pieces '\n' (wrap width cs) = lines ∧ lines.flatMap words = words cs ∧
      (∀ line ∈ lines, Fits width line) ∧ lines.IsChain (Needed width) := by
  have areWords : ∀ word ∈ words cs, IsWord word := fun word => isWord_of_mem_words
  have anew : wrap width cs = wrapFrom width 0 (words cs) := if_neg (Nat.not_le.mpr tooLong)
  rw [anew]
  cases found : words cs with
  | nil =>
      refine ⟨[[]], rfl, rfl, rfl, ?_, .singleton []⟩
      intro line member
      cases List.mem_singleton.mp member
      exact .inl (Nat.zero_le width)
  | cons word rest =>
      rw [found] at areWords
      rcases List.forall_mem_cons.mp areWords with ⟨isWord, others⟩
      have written : wrapFrom width 0 (word :: rest) = broken (fill width word rest) :=
        append_wrapFrom isWord.nonempty others
      refine ⟨fill width word rest, written, ?_, ?_, fits_of_mem_fill (.inr isWord.words_eq) others,
        isChain_needed_fill others⟩
      · rw [written, pieces]
        exact List.splitOn_intercalate '\n' (break_not_mem_of_mem_fill (isWord.not_mem (by decide)) others)
          (fill_ne_nil width word rest)
      · rw [flatMap_words_fill others, isWord.words_eq, List.singleton_append]

/-- A text in lines says the same words in the same order.  No line is longer than the width, unless it is a single
word.  If the text was too long for a line, each line but the first begins with a word that the line before it has no
room for, the blank between the two counted. -/
theorem wrap_fills_lines (width : Nat) (cs : List Char) :
    words (wrap width cs) = words cs ∧
      (∀ line ∈ pieces '\n' (wrap width cs), line.length ≤ width ∨ words line = [line]) ∧
      (width < cs.length → (pieces '\n' (wrap width cs)).IsChain fun before line =>
        ∃ word, (words line).head? = some word ∧ width < before.length + 1 + word.length) := by
  by_cases tooLong : width < cs.length
  · rcases exists_lines_of_lt tooLong with ⟨lines, written, made, said, fits, needed⟩
    rw [made, written, words_broken]
    exact ⟨said, fits, fun _ => needed⟩
  · have short := Nat.le_of_not_lt tooLong
    have same : wrap width cs = cs := if_pos short
    rw [same]
    refine ⟨rfl, fun line member => .inl ?_, fun long => absurd long tooLong⟩
    have le := length_le_length_broken member
    rw [broken_pieces] at le
    exact Nat.le_trans le short

/-- A line that is full to its last character, and a word that is too long for any line and has one of its own. -/
theorem wrap_fills_lines_inspection :
    9 < "Check\tthe seal, the counterweight  and oil".toList.length ∧
      String.ofList (wrap 9 "Check\tthe seal, the counterweight  and oil".toList) =
        "Check the\nseal, the\ncounterweight\nand oil" ∧
      (pieces '\n' (wrap 9 "Check\tthe seal, the counterweight  and oil".toList)).IsChain fun before line =>
        ∃ word, (words line).head? = some word ∧ 9 < before.length + 1 + word.length := by
  have tooLong : 9 < "Check\tthe seal, the counterweight  and oil".toList.length := by decide
  exact ⟨tooLong, by decide +kernel, (wrap_fills_lines 9 _).2.2 tooLong⟩

end Text
end ProductGraph
