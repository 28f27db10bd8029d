import ProductGraph.Json.Reader

namespace ProductGraph

/-!
# Numbers read back

The text of a natural number that a 64-bit word holds is read as that number.  For real numbers nothing of the kind
is claimed here: their texts are the shortest that the nearest double is told by, while the reader rounds more than
once.  What is claimed of both is that a number ends where its digits end, so what stands behind a number does not
change how it is read.
-/

open Unicode (isAsciiDigit)

/-! ## Digits -/

def digitsFrom (before : Nat) (cs : List Char) : Nat := cs.foldl (fun n c => 10 * n + digitValue c) before

theorem le_digitsFrom (before : Nat) (cs : List Char) : before ≤ digitsFrom before cs := by
  induction cs generalizing before with
  | nil => exact Nat.le_refl _
  | cons c rest ih =>
      have further := ih (10 * before + digitValue c)
      have same : digitsFrom before (c :: rest) = digitsFrom (10 * before + digitValue c) rest := rfl
      omega

theorem isAsciiDigit_of_isDigit {c : Char} (digit : c.isDigit = true) : isAsciiDigit c = true := by
  simp only [Char.isDigit, Bool.and_eq_true, decide_eq_true_eq] at digit
  simp only [isAsciiDigit, Bool.and_eq_true, decide_eq_true_eq]
  exact digit

theorem isAsciiDigit_of_mem_toDigits {n : Nat} {c : Char} (member : c ∈ Nat.toDigits 10 n) : isAsciiDigit c = true :=
  isAsciiDigit_of_isDigit (Nat.isDigit_of_mem_toDigits (by decide) (by decide) member)

theorem digitsFrom_toDigits (n : Nat) : digitsFrom 0 (Nat.toDigits 10 n) = n :=
  Nat.ofDigitChars_ten_toDigits

/-- The digits of a positive number do not begin with a zero. -/
theorem head?_toDigits_ne {n : Nat} (positive : 0 < n) : (Nat.toDigits 10 n).head? ≠ some '0' := by
  induction n using Nat.strongRecOn with
  | ind n ih =>
      by_cases small : n < 10
      · rw [Nat.toDigits_of_lt_base small]
        have cases : n = 1 ∨ n = 2 ∨ n = 3 ∨ n = 4 ∨ n = 5 ∨ n = 6 ∨ n = 7 ∨ n = 8 ∨ n = 9 := by omega
        rcases cases with rfl | rfl | rfl | rfl | rfl | rfl | rfl | rfl | rfl <;> decide
      · have shorter := ih (n / 10) (by omega) (by omega)
        rw [Nat.toDigits_of_base_le (by decide) (by omega), List.head?_append]
        cases first : (Nat.toDigits 10 (n / 10)).head? with
        | none => exact absurd (List.head?_eq_none_iff.mp first) Nat.toDigits_ne_nil
        | some c => rwa [first] at shorter

theorem splitSign_of_ne {c : Char} (noMinus : c ≠ '-') (noPlus : c ≠ '+') (rest : List Char) :
    splitSign (c :: rest) = (false, c :: rest) := by
  simp [splitSign, noMinus, noPlus]

namespace Json

/-! ## Characters that decide nothing -/

theorem readNumber_of_ne {c : Char} (noMinus : c ≠ '-') (rest : List Char) :
    readNumber (c :: rest) = readUnsigned false (c :: rest) := by
  simp [readNumber, noMinus]

theorem readUnsigned_of_ne {c : Char} (noZero : c ≠ '0') (negative : Bool) (rest : List Char) :
    readUnsigned negative (c :: rest) =
      if isAsciiDigit c then
        readAfterWhole negative (takeDigits 0 (c :: rest)).1
          ((takeDigits 0 (c :: rest)).2.length - ((takeDigits 0 (c :: rest)).2.dropWhile isAsciiDigit).length)
          ((takeDigits 0 (c :: rest)).2.dropWhile isAsciiDigit)
      else none := by
  simp [readUnsigned]

theorem readAfterWhole_of_ne {c : Char} (noPoint : c ≠ '.') (negative : Bool) (significand dropped : Nat)
    (rest : List Char) :
    readAfterWhole negative significand dropped (c :: rest) =
      if dropped = 0 && c != 'e' && c != 'E' then
        (wholeNumeral negative significand).map fun n => (n, c :: rest)
      else readExponent negative significand dropped (c :: rest) := by
  simp [readAfterWhole]

/-! ## Digits read back -/

/-- Digits whose value fits are all taken. -/
theorem takeDigits_eq {cs : List Char} (digits : ∀ c ∈ cs, isAsciiDigit c = true) (before : Nat)
    (fits : digitsFrom before cs < significandLimit) : takeDigits before cs = (digitsFrom before cs, []) := by
  induction cs generalizing before with
  | nil => rfl
  | cons c rest ih =>
      have same : digitsFrom before (c :: rest) = digitsFrom (10 * before + digitValue c) rest := rfl
      have below : 10 * before + digitValue c < significandLimit :=
        Nat.lt_of_le_of_lt (le_digitsFrom _ rest) (same ▸ fits)
      have digit := digits c List.mem_cons_self
      rw [takeDigits, digit, decide_eq_true below, Bool.and_self, if_pos rfl, same]
      exact ih (fun d later => digits d (List.mem_cons_of_mem _ later)) _ (same ▸ fits)

/-- The text of a natural number below the limit is read as that number. -/
theorem readNumber_toDigits {n : Nat} (fits : n < significandLimit) :
    readNumber (Nat.toDigits 10 n) = some (.integer n, []) := by
  rcases Nat.eq_zero_or_pos n with rfl | positive
  · rfl
  · cases digits : Nat.toDigits 10 n with
    | nil => exact absurd digits Nat.toDigits_ne_nil
    | cons c rest =>
        have each : ∀ d ∈ c :: rest, isAsciiDigit d = true := by
          rw [← digits]
          exact fun d member => isAsciiDigit_of_mem_toDigits member
        have value : digitsFrom 0 (c :: rest) = n := digits ▸ digitsFrom_toDigits n
        have digit := each c List.mem_cons_self
        have noMinus : c ≠ '-' := by
          rintro rfl
          exact absurd digit (by decide)
        have noZero : c ≠ '0' := by
          rintro rfl
          exact head?_toDigits_ne positive (by rw [digits, List.head?_cons])
        have taken := takeDigits_eq each 0 (value.symm ▸ fits)
        rw [value] at taken
        rw [readNumber_of_ne noMinus, readUnsigned_of_ne noZero, if_pos digit, taken]
        rfl

/-! ## Where numbers end -/

/-- No number goes on into a text. -/
def EndsNumber : List Char → Prop
  | [] => True
  | c :: _ => isAsciiDigit c = false ∧ c ≠ '.' ∧ c ≠ 'e' ∧ c ≠ 'E'

variable {rest : List Char}

theorem EndsNumber.takeWhile_append (ends : EndsNumber rest) (cs : List Char) :
    (cs ++ rest).takeWhile isAsciiDigit = cs.takeWhile isAsciiDigit := by
  induction cs with
  | nil =>
      cases rest with
      | nil => rfl
      | cons c more => simp [ends.1]
  | cons c cs ih =>
      rw [List.cons_append, List.takeWhile_cons, List.takeWhile_cons, ih]

theorem EndsNumber.dropWhile_append (ends : EndsNumber rest) (cs : List Char) :
    (cs ++ rest).dropWhile isAsciiDigit = cs.dropWhile isAsciiDigit ++ rest := by
  induction cs with
  | nil =>
      cases rest with
      | nil => rfl
      | cons c more => simp [ends.1]
  | cons c cs ih =>
      rw [List.cons_append, List.dropWhile_cons, List.dropWhile_cons, ih]
      split <;> rfl

theorem EndsNumber.takeDigits_append (ends : EndsNumber rest) (before : Nat) (cs : List Char) :
    takeDigits before (cs ++ rest) = ((takeDigits before cs).1, (takeDigits before cs).2 ++ rest) := by
  induction cs generalizing before with
  | nil =>
      cases rest with
      | nil => rfl
      | cons c more => simp [takeDigits, ends.1]
  | cons c cs ih =>
      rw [List.cons_append, takeDigits, takeDigits]
      split
      · exact ih _
      · rfl

variable {negative : Bool} {significand : Nat} {n : Numeral} {tail : List Char}

/-- A number that is made behind some text is made with more text behind it. -/
theorem map_append_eq_some {α : Type} {made : Option α} {number : α → Numeral} {behind : List Char}
    (read : (made.map fun a => (number a, behind)) = some (n, tail)) (rest : List Char) :
    (made.map fun a => (number a, behind ++ rest)) = some (n, tail ++ rest) := by
  rcases Option.map_eq_some_iff.mp read with ⟨a, rfl, same⟩
  cases same
  rfl

/-- If there is a digit behind a sign, then the sign stays where it is. -/
theorem splitSign_append {after digits : List Char} {down : Bool} (split : splitSign after = (down, digits))
    (filled : (digits.takeWhile isAsciiDigit).isEmpty = false) (rest : List Char) :
    splitSign (after ++ rest) = (down, digits ++ rest) := by
  cases after with
  | nil =>
      cases split
      cases filled
  | cons s more =>
      by_cases minus : s = '-'
      · subst minus
        cases split
        rfl
      · by_cases plus : s = '+'
        · subst plus
          cases split
          rfl
        · rw [splitSign_of_ne minus plus] at split
          cases split
          exact splitSign_of_ne minus plus _

theorem EndsNumber.readExponent_append (ends : EndsNumber rest) {power : Int} {cs : List Char}
    (read : readExponent negative significand power cs = some (n, tail)) :
    readExponent negative significand power (cs ++ rest) = some (n, tail ++ rest) := by
  cases cs with
  | nil =>
      simp only [readExponent] at read
      have further := map_append_eq_some read rest
      cases rest with
      | nil => simpa [readExponent] using further
      | cons c more => simpa [readExponent, ends.2.2.1, ends.2.2.2] using further
  | cons marker after =>
      simp only [readExponent, List.cons_append] at read ⊢
      by_cases marked : (marker == 'e' || marker == 'E') = true
      · rw [if_pos marked] at read ⊢
        rcases split : splitSign after with ⟨down, digits⟩
        rw [split] at read
        simp only at read
        cases empty : (digits.takeWhile isAsciiDigit).isEmpty with
        | true => simp [empty] at read
        | false =>
            rw [splitSign_append split empty]
            simp only [ends.takeWhile_append, ends.dropWhile_append, empty, Bool.false_eq_true, if_false] at read ⊢
            split at read
            · rename_i small
              rw [if_pos small]
              exact map_append_eq_some read rest
            · rename_i large
              rw [if_neg large]
              split at read
              · cases read
              · rename_i zero
                cases read
                rw [if_neg zero]
      · rw [if_neg marked] at read ⊢
        exact map_append_eq_some read rest

theorem EndsNumber.readFraction_append (ends : EndsNumber rest) {power : Int} {cs : List Char}
    (read : readFraction negative significand power cs = some (n, tail)) :
    readFraction negative significand power (cs ++ rest) = some (n, tail ++ rest) := by
  cases cs with
  | nil => cases read
  | cons c after =>
      have taken := ends.takeDigits_append significand (c :: after)
      simp only [readFraction, List.cons_append] at read taken ⊢
      by_cases digit : isAsciiDigit c = true
      · rw [if_pos digit] at read ⊢
        rw [taken]
        simp only [ends.dropWhile_append, List.length_append, ← List.cons_append, Nat.add_sub_add_right]
        exact ends.readExponent_append read
      · rw [if_neg digit] at read
        cases read

theorem EndsNumber.readAfterWhole_append (ends : EndsNumber rest) {dropped : Nat} {cs : List Char}
    (read : readAfterWhole negative significand dropped cs = some (n, tail)) :
    readAfterWhole negative significand dropped (cs ++ rest) = some (n, tail ++ rest) := by
  cases cs with
  | nil =>
      simp only [readAfterWhole] at read
      cases rest with
      | nil =>
          simp only [List.append_nil, readAfterWhole]
          exact read
      | cons c more =>
          rw [List.nil_append, readAfterWhole_of_ne ends.2.1]
          by_cases whole : dropped = 0
          · simp only [whole, if_true] at read
            rcases Option.map_eq_some_iff.mp read with ⟨m, made, pair⟩
            cases pair
            simp [whole, made, ends.2.2.1, ends.2.2.2]
          · simp only [whole, if_false] at read
            simp only [whole, decide_false, Bool.false_and, Bool.false_eq_true, if_false]
            exact ends.readExponent_append read
  | cons c after =>
      by_cases point : c = '.'
      · subst point
        exact ends.readFraction_append read
      · rw [List.cons_append, readAfterWhole_of_ne point]
        rw [readAfterWhole_of_ne point] at read
        split at read
        · rename_i whole
          rw [if_pos whole]
          exact map_append_eq_some read rest
        · rename_i broken
          rw [if_neg broken]
          exact ends.readExponent_append read

theorem EndsNumber.readUnsigned_append (ends : EndsNumber rest) {cs : List Char}
    (read : readUnsigned negative cs = some (n, tail)) :
    readUnsigned negative (cs ++ rest) = some (n, tail ++ rest) := by
  cases cs with
  | nil => cases read
  | cons c after =>
      by_cases zero : c = '0'
      · subst zero
        cases after with
        | nil =>
            have alone : readAfterWhole negative 0 0 [] = some (n, tail) := read
            have further := ends.readAfterWhole_append alone
            cases rest with
            | nil => exact further
            | cons d more => simpa [readUnsigned, ends.1] using further
        | cons d more =>
            simp only [readUnsigned, List.cons_append] at read ⊢
            by_cases digit : isAsciiDigit d = true
            · rw [if_pos digit] at read
              cases read
            · rw [if_neg digit] at read ⊢
              exact ends.readAfterWhole_append read
      · have taken := ends.takeDigits_append 0 (c :: after)
        rw [List.cons_append, readUnsigned_of_ne zero]
        rw [readUnsigned_of_ne zero] at read
        by_cases digit : isAsciiDigit c = true
        · rw [if_pos digit] at read ⊢
          rw [← List.cons_append, taken]
          simp only [ends.dropWhile_append, List.length_append, Nat.add_sub_add_right]
          exact ends.readAfterWhole_append read
        · rw [if_neg digit] at read
          cases read

/-- What stands behind a number does not change how it is read. -/
theorem EndsNumber.readNumber_append (ends : EndsNumber rest) {cs : List Char}
    (read : readNumber cs = some (n, tail)) : readNumber (cs ++ rest) = some (n, tail ++ rest) := by
  cases cs with
  | nil => cases read
  | cons c after =>
      by_cases minus : c = '-'
      · subst minus
        exact ends.readUnsigned_append read
      · rw [readNumber_of_ne minus] at read
        rw [List.cons_append, readNumber_of_ne minus, ← List.cons_append]
        exact ends.readUnsigned_append read

/-- A number begins with a digit or a minus sign. -/
theorem head_of_readNumber {cs : List Char} (read : readNumber cs = some (n, tail)) :
    ∃ c after, cs = c :: after ∧ (c = '-' ∨ isAsciiDigit c = true) := by
  cases cs with
  | nil => cases read
  | cons c after =>
      refine ⟨c, after, rfl, ?_⟩
      by_cases minus : c = '-'
      · exact Or.inl minus
      · right
        by_cases zero : c = '0'
        · rw [zero]
          rfl
        · rw [readNumber_of_ne minus, readUnsigned_of_ne zero] at read
          by_cases digit : isAsciiDigit c = true
          · exact digit
          · simp [digit] at read

end Json
end ProductGraph
