import Mathlib.Data.List.DropRight
import ProductGraph.Json.Printer
import ProductGraph.Proofs.Json.Number
import ProductGraph.Proofs.Keyed

namespace ProductGraph

/-!
# Values read back

A value that is laid out over lines is read back as it was, whatever stands behind it, as long as three things hold:
the fields of its objects are sorted, its numbers are read back, and it is not nested deeper than the reader goes.
-/

/-- The text of a number is read as that number. -/
def Numeral.ReadsBack (n : Numeral) : Prop := Json.readNumber n.text.toList = some (n, [])

/-- Natural numbers of a 64-bit word are read back. -/
theorem Numeral.readsBack_nat {n : Nat} (fits : n < Json.significandLimit) : (Numeral.integer n).ReadsBack := by
  have text_eq : (Numeral.integer n).text.toList = Nat.toDigits 10 n := Nat.toList_repr
  rw [ReadsBack, text_eq]
  exact Json.readNumber_toDigits fits

namespace Json

/-- Values that the reader takes back within some depth. -/
inductive Legible : Nat → Json → Prop
  | null {depth : Nat} : Legible depth .null
  | bool {depth : Nat} (b : Bool) : Legible depth (.bool b)
  | number {depth : Nat} {n : Numeral} (back : n.ReadsBack) : Legible depth (.number n)
  | string {depth : Nat} (s : String) : Legible depth (.string s)
  | array {depth : Nat} {items : List Json} (each : ∀ item ∈ items, Legible depth item) :
      Legible (depth + 1) (.array items)
  | object {depth : Nat} {fields : Fields} (sorted : Keyed.Sorted fields) (each : ∀ f ∈ fields, Legible depth f.2) :
      Legible (depth + 1) (.object fields)

theorem Legible.mono {depth more : Nat} {v : Json} (legible : Legible depth v) (le : depth ≤ more) :
    Legible more v := by
  induction legible generalizing more with
  | null => exact .null
  | bool b => exact .bool b
  | number back => exact .number back
  | string s => exact .string s
  | array each ih =>
      rcases Nat.exists_eq_add_of_le' (Nat.le_trans (Nat.le_add_left 1 _) le) with ⟨less, rfl⟩
      exact .array fun item member => ih item member (Nat.le_of_succ_le_succ le)
  | object sorted each ih =>
      rcases Nat.exists_eq_add_of_le' (Nat.le_trans (Nat.le_add_left 1 _) le) with ⟨less, rfl⟩
      exact .object sorted fun f member => ih f member (Nat.le_of_succ_le_succ le)

/-! ## Strings -/

/-- A control character is read back from its code. -/
theorem unit?_hexDigit {c : Char} (control : c < ' ') :
    unit? '0' '0' (hexDigit (c.toNat / 16)) (hexDigit (c.toNat % 16)) = some c.toNat := by
  have small : c.toNat < 32 := control
  have all : ∀ n < 32, unit? '0' '0' (hexDigit (n / 16)) (hexDigit (n % 16)) = some n := by decide
  exact all c.toNat small

theorem readString_of_ne {c : Char} (noQuote : c ≠ '"') (noBackslash : c ≠ '\\') (rest : List Char) :
    readString (c :: rest) =
      if c < ' ' then none else (readString rest).map fun (s, tail) => (c :: s, tail) := by
  rw [readString]
  · intro same
    exact absurd same noQuote
  · intro same
    exact absurd same noBackslash

/-- One character of a string is read back, and the others behind it. -/
theorem readString_escapedChar (c : Char) {rest tail : List Char} {s : List Char}
    (read : readString rest = some (s, tail)) : readString (escapedChar c ++ rest) = some (c :: s, tail) := by
  rw [escapedChar]
  split
  · subst c
    simp [readString, escaped?, read]
  split
  · subst c
    simp [readString, escaped?, read]
  split
  · subst c
    simp [readString, escaped?, read]
  split
  · subst c
    simp [readString, escaped?, read]
  split
  · subst c
    simp [readString, escaped?, read]
  split
  · subst c
    simp [readString, escaped?, read]
  split
  · subst c
    simp [readString, escaped?, read]
  split
  · rename_i control
    have small : c.toNat < 32 := control
    have low : isLowHalf c.toNat = false := by
      simp only [isLowHalf, Bool.and_eq_false_iff, decide_eq_false_iff_not]
      omega
    have high : isHighHalf c.toNat = false := by
      simp only [isHighHalf, Bool.and_eq_false_iff, decide_eq_false_iff_not]
      omega
    simp [readString, unit?_hexDigit control, low, high, read]
  · rename_i noQuote noBackslash _ _ _ _ _ noControl
    rw [List.singleton_append, readString_of_ne noQuote noBackslash, if_neg noControl, read, Option.map_some]

/-- A string is read back. -/
theorem readString_flatMap (s rest : List Char) :
    readString (s.flatMap escapedChar ++ '"' :: rest) = some (s, rest) := by
  induction s with
  | nil => simp [readString]
  | cons c s ih =>
      rw [List.flatMap_cons, List.append_assoc]
      exact readString_escapedChar c ih

/-! ## Layout -/

theorem skipGaps_of_not {c : Char} (noGap : isGap c = false) (rest : List Char) :
    skipGaps (c :: rest) = c :: rest := by
  simp [skipGaps, noGap]

theorem skipGaps_newLine (level : Nat) (rest : List Char) : skipGaps (newLine level ++ rest) = skipGaps rest := by
  have blanks : ∀ n, skipGaps (List.replicate n ' ' ++ rest) = skipGaps rest := by
    intro n
    induction n with
    | zero => rfl
    | succ n ih =>
        rw [List.replicate_succ, List.cons_append, skipGaps, List.dropWhile_cons_of_pos (by decide)]
        exact ih
  rw [newLine, List.cons_append, skipGaps, List.dropWhile_cons_of_pos (by decide)]
  exact blanks _

/-- A character that a value may begin with: no blank, and no closing bracket. -/
def Opens (c : Char) : Prop := isGap c = false ∧ c ≠ ']' ∧ c ≠ '\x7d'

/-- What a value is laid out as begins with such a character. -/
theorem exists_head_prettyText {depth : Nat} {v : Json} (legible : Legible depth v) (level : Nat) :
    ∃ c cs, prettyText level v = c :: cs ∧ Opens c := by
  cases legible with
  | null => exact ⟨_, _, rfl, by unfold Opens; decide⟩
  | bool b => cases b <;> exact ⟨_, _, rfl, by unfold Opens; decide⟩
  | string s => exact ⟨_, _, rfl, by unfold Opens; decide⟩
  | number back =>
      rcases head_of_readNumber back with ⟨c, cs, text_eq, first⟩
      refine ⟨c, cs, text_eq, ?_⟩
      rcases first with rfl | digit
      · unfold Opens
        decide
      · refine ⟨?_, ?_, ?_⟩
        · simp only [isGap, Bool.or_eq_false_iff, beq_eq_false_iff_ne]
          refine ⟨⟨⟨?_, ?_⟩, ?_⟩, ?_⟩ <;> rintro rfl <;> exact absurd digit (by decide)
        · rintro rfl
          exact absurd digit (by decide)
        · rintro rfl
          exact absurd digit (by decide)
  | @array _ items each => cases items <;> exact ⟨_, _, rfl, by unfold Opens; decide⟩
  | @object _ fields sorted each => cases fields <;> exact ⟨_, _, rfl, by unfold Opens; decide⟩

/-- A value after a line break is where the blanks end. -/
theorem skipGaps_prettyText {depth : Nat} {v : Json} (legible : Legible depth v) (level : Nat) (rest : List Char) :
    skipGaps (prettyText level v ++ rest) = prettyText level v ++ rest := by
  rcases exists_head_prettyText legible level with ⟨c, cs, text_eq, opens⟩
  rw [text_eq, List.cons_append, skipGaps_of_not opens.1]

/-- No number goes on into a line break or a comma. -/
theorem endsNumber_newLine (level : Nat) (rest : List Char) : EndsNumber (newLine level ++ rest) := by
  rw [newLine, List.cons_append, EndsNumber]
  decide

theorem endsNumber_comma (rest : List Char) : EndsNumber (',' :: rest) := by
  rw [EndsNumber]
  decide

/-! ## Reading back what was laid out -/

/-- A value is read back at any level, whatever stands behind it, with as many steps as its text is long. -/
def ReadsBack (depth : Nat) (v : Json) : Prop :=
  ∀ (level steps : Nat) (rest : List Char), (prettyText level v).length ≤ steps → EndsNumber rest →
    readValue steps depth (prettyText level v ++ rest) = some (v, rest)

/-- The items of an array that is not empty are read back one by one. -/
theorem readItems_prettyItems {depth : Nat} {items : List Json} (legible : ∀ item ∈ items, Legible depth item)
    (back : ∀ item ∈ items, ReadsBack depth item) (nonempty : items ≠ []) (level steps : Nat) (rest : List Char)
    (bound : (prettyItems (level + 1) items).length < steps) :
    readItems steps depth (prettyItems (level + 1) items ++ newLine level ++ ']' :: rest) = some (items, rest) := by
  induction items generalizing steps with
  | nil => exact absurd rfl nonempty
  | cons item others ih =>
      rcases Nat.exists_eq_succ_of_ne_zero (Nat.ne_of_gt (Nat.lt_of_le_of_lt (Nat.zero_le _) bound)) with ⟨fewer, rfl⟩
      have here := back item List.mem_cons_self (level + 1) fewer
      have opened := skipGaps_prettyText (legible item List.mem_cons_self) (level + 1)
      cases others with
      | nil =>
          have closed : EndsNumber (newLine level ++ ']' :: rest) := endsNumber_newLine _ _
          have size : (prettyText (level + 1) item).length ≤ fewer := by
            simp only [prettyItems, List.length_append] at bound
            omega
          have close : skipGaps (']' :: rest) = ']' :: rest := skipGaps_of_not (by decide) _
          simp only [prettyItems, List.append_assoc, readItems, skipGaps_newLine, opened, here _ size closed, close]
      | cons next more =>
          have size : (prettyText (level + 1) item).length ≤ fewer ∧
              (prettyItems (level + 1) (next :: more)).length < fewer := by
            simp only [prettyItems, newLine, List.length_append, List.length_cons] at bound ⊢
            omega
          have behind := ih (fun other member => legible other (List.mem_cons_of_mem _ member))
            (fun other member => back other (List.mem_cons_of_mem _ member)) (List.cons_ne_nil _ _) fewer size.2
          have comma : ∀ cs, skipGaps (',' :: cs) = ',' :: cs := fun cs => skipGaps_of_not (by decide) cs
          rw [List.append_assoc] at behind
          simp only [prettyItems, List.append_assoc, List.cons_append, readItems, skipGaps_newLine, opened,
            here _ size.1 (endsNumber_comma _), comma, behind, Option.map_some]

/-- The fields of an object that is not empty are read back one by one. -/
theorem readFields_prettyFields {depth : Nat} {fields : List (String × Json)}
    (legible : ∀ f ∈ fields, Legible depth f.2) (back : ∀ f ∈ fields, ReadsBack depth f.2) (nonempty : fields ≠ [])
    (level steps : Nat) (rest : List Char) (bound : (prettyFields (level + 1) fields).length < steps) :
    readFields steps depth (prettyFields (level + 1) fields ++ newLine level ++ '\x7d' :: rest) =
      some (fields, rest) := by
  induction fields generalizing steps with
  | nil => exact absurd rfl nonempty
  | cons f others ih =>
      rcases Nat.exists_eq_succ_of_ne_zero (Nat.ne_of_gt (Nat.lt_of_le_of_lt (Nat.zero_le _) bound)) with ⟨fewer, rfl⟩
      rcases f with ⟨name, value⟩
      have here := back _ List.mem_cons_self (level + 1) fewer
      have opened := skipGaps_prettyText (legible _ List.mem_cons_self) (level + 1)
      have quote : ∀ cs, skipGaps ('"' :: cs) = '"' :: cs := fun cs => skipGaps_of_not (by decide) cs
      have colon : ∀ cs, skipGaps (':' :: cs) = ':' :: cs := fun cs => skipGaps_of_not (by decide) cs
      have blank : ∀ cs, skipGaps (' ' :: cs) = skipGaps cs := fun cs => List.dropWhile_cons_of_pos (by decide)
      cases others with
      | nil =>
          have closed : EndsNumber (newLine level ++ '\x7d' :: rest) := endsNumber_newLine _ _
          have size : (prettyText (level + 1) value).length ≤ fewer := by
            simp only [prettyFields, List.length_append, List.length_cons] at bound
            omega
          have close : skipGaps ('\x7d' :: rest) = '\x7d' :: rest := skipGaps_of_not (by decide) _
          simp only [prettyFields, stringText, List.append_assoc, List.cons_append, List.nil_append, readFields,
            skipGaps_newLine, quote, readString_flatMap, colon, blank, opened, here _ size closed, close,
            String.ofList_toList]
      | cons next more =>
          have size : (prettyText (level + 1) value).length ≤ fewer ∧
              (prettyFields (level + 1) (next :: more)).length < fewer := by
            simp only [prettyFields, newLine, List.length_append, List.length_cons] at bound ⊢
            omega
          have behind := ih (fun other member => legible other (List.mem_cons_of_mem _ member))
            (fun other member => back other (List.mem_cons_of_mem _ member)) (List.cons_ne_nil _ _) fewer size.2
          have comma : ∀ cs, skipGaps (',' :: cs) = ',' :: cs := fun cs => skipGaps_of_not (by decide) cs
          rw [List.append_assoc] at behind
          simp only [prettyFields, stringText, List.append_assoc, List.cons_append, List.nil_append, readFields,
            skipGaps_newLine, quote, readString_flatMap, colon, blank, opened, here _ size.1 (endsNumber_comma _),
            comma, behind, String.ofList_toList, Option.map_some]

/-- A step is left for every value. -/
theorem exists_step (depth : Nat) {v : Json} (legible : Legible depth v) {level steps : Nat}
    (bound : (prettyText level v).length ≤ steps) : ∃ fewer, steps = fewer + 1 := by
  rcases exists_head_prettyText legible level with ⟨c, cs, text_eq, _⟩
  rw [text_eq, List.length_cons] at bound
  exact Nat.exists_eq_succ_of_ne_zero (by omega)

theorem readValue_of_first {c : Char} (first : c = '-' ∨ Unicode.isAsciiDigit c = true) (steps depth : Nat)
    (cs : List Char) :
    readValue (steps + 1) depth (c :: cs) = (readNumber (c :: cs)).map fun (n, tail) => (.number n, tail) := by
  have other : ∀ d, Unicode.isAsciiDigit d = false → d ≠ '-' → c ≠ d := by
    rintro d noDigit noMinus rfl
    rcases first with minus | digit
    · exact noMinus minus
    · rw [noDigit] at digit
      cases digit
  have quote := other '"' (by decide) (by decide)
  have bracket := other '[' (by decide) (by decide)
  have brace := other '\x7b' (by decide) (by decide)
  have n := other 'n' (by decide) (by decide)
  have t := other 't' (by decide) (by decide)
  have f := other 'f' (by decide) (by decide)
  rw [readValue] <;> simp_all

theorem skipGaps_skipGaps (cs : List Char) : skipGaps (skipGaps cs) = skipGaps cs := List.dropWhile_idempotent _ _

/-- An array that does not end where it begins has items. -/
theorem readValue_bracket {c : Char} {cs more : List Char} (first : skipGaps cs = c :: more) (notClosed : c ≠ ']')
    (steps depth : Nat) :
    readValue (steps + 1) (depth + 1) ('[' :: cs) =
      (readItems steps depth cs).map fun (items, tail) => (.array items, tail) := by
  have same : readItems steps depth (skipGaps cs) = readItems steps depth cs := by
    cases steps with
    | zero => rw [readItems, readItems]
    | succ fewer => rw [readItems, readItems, skipGaps_skipGaps]
  rw [readValue, ← same, first]
  split <;> simp_all

/-- An object that does not end where it begins has fields. -/
theorem readValue_brace {c : Char} {cs more : List Char} (first : skipGaps cs = c :: more) (notClosed : c ≠ '\x7d')
    (steps depth : Nat) :
    readValue (steps + 1) (depth + 1) ('\x7b' :: cs) =
      (readFields steps depth cs).map fun (pairs, tail) => (ofFields pairs, tail) := by
  have same : readFields steps depth (skipGaps cs) = readFields steps depth cs := by
    cases steps with
    | zero => rw [readFields, readFields]
    | succ fewer => rw [readFields, readFields, skipGaps_skipGaps]
  rw [readValue, ← same, first]
  split <;> simp_all

/-- Where the items of an array begin, its first item begins. -/
theorem exists_head_prettyItems {depth : Nat} {item : Json} (legible : Legible depth item) (others : List Json)
    (level : Nat) (rest : List Char) :
    ∃ c cs, skipGaps (prettyItems level (item :: others) ++ rest) = c :: cs ∧ Opens c := by
  rcases exists_head_prettyText legible level with ⟨c, cs, text_eq, opens⟩
  cases others with
  | nil =>
      refine ⟨c, cs ++ rest, ?_, opens⟩
      rw [prettyItems, List.append_assoc, skipGaps_newLine, text_eq, List.cons_append, skipGaps_of_not opens.1]
  | cons next more =>
      refine ⟨c, cs ++ ',' :: prettyItems level (next :: more) ++ rest, ?_, opens⟩
      rw [prettyItems, List.append_assoc, List.append_assoc, skipGaps_newLine, text_eq]
      · simp only [List.cons_append, List.append_assoc, skipGaps_of_not opens.1]
      · exact List.cons_ne_nil _ _

/-- Where the fields of an object begin, a quote stands. -/
theorem exists_skipGaps_prettyFields (f : String × Json) (others : List (String × Json)) (level : Nat)
    (rest : List Char) : ∃ cs, skipGaps (prettyFields level (f :: others) ++ rest) = '"' :: cs := by
  have quote : ∀ cs, skipGaps ('"' :: cs) = '"' :: cs := fun cs => skipGaps_of_not (by decide) cs
  rcases f with ⟨name, value⟩
  cases others <;>
    simp only [prettyFields, stringText, List.append_assoc, List.cons_append, skipGaps_newLine, quote] <;>
    exact ⟨_, rfl⟩

/-- Legible values are read back. -/
theorem Legible.readsBack {depth : Nat} {v : Json} (legible : Legible depth v) : ReadsBack depth v := by
  induction legible with
  | null =>
      intro level steps rest bound _
      rcases exists_step 0 .null bound with ⟨fewer, rfl⟩
      rfl
  | bool b =>
      intro level steps rest bound _
      rcases exists_step 0 (.bool b) bound with ⟨fewer, rfl⟩
      cases b <;> rfl
  | @number depth n back =>
      intro level steps rest bound ends
      rcases exists_step 0 (.number back) bound with ⟨fewer, rfl⟩
      rcases head_of_readNumber back with ⟨c, cs, text_eq, first⟩
      have read := ends.readNumber_append back
      rw [text_eq, List.cons_append] at read
      rw [prettyText, text_eq, List.cons_append, readValue_of_first first, read]
      rfl
  | string s =>
      intro level steps rest bound _
      rcases exists_step 0 (.string s) bound with ⟨fewer, rfl⟩
      simp only [prettyText, stringText, List.cons_append, List.append_assoc, List.nil_append, readValue,
        readString_flatMap, Option.map_some, String.ofList_toList]
  | @array depth items each ih =>
      intro level steps rest bound _
      rcases exists_step _ (.array each) bound with ⟨fewer, rfl⟩
      cases items with
      | nil => rfl
      | cons item others =>
          simp only [prettyText, List.length_cons, List.length_append] at bound
          have size : (prettyItems (level + 1) (item :: others)).length < fewer := by omega
          have read := readItems_prettyItems each ih (List.cons_ne_nil _ _) level fewer rest size
          rcases exists_head_prettyItems (each item List.mem_cons_self) others (level + 1)
            (newLine level ++ ']' :: rest) with ⟨c, cs, first, opens⟩
          rw [← List.append_assoc] at first
          simp only [prettyText, List.cons_append, List.append_assoc, List.nil_append] at first read ⊢
          rw [readValue_bracket first opens.2.1, read]
          rfl
  | @object depth fields sorted each ih =>
      intro level steps rest bound _
      rcases exists_step _ (.object sorted each) bound with ⟨fewer, rfl⟩
      cases fields with
      | nil => rfl
      | cons f others =>
          simp only [prettyText, List.length_cons, List.length_append] at bound
          have size : (prettyFields (level + 1) (f :: others)).length < fewer := by omega
          have read := readFields_prettyFields each ih (List.cons_ne_nil _ _) level fewer rest size
          rcases exists_skipGaps_prettyFields f others (level + 1) (newLine level ++ '\x7d' :: rest) with ⟨cs, first⟩
          simp only [prettyText, List.cons_append, List.append_assoc, List.nil_append] at first read ⊢
          rw [readValue_brace first (by decide), read]
          have same : ofFields (f :: others) = .object (f :: others) :=
            congrArg Json.object (Keyed.ofList_of_sorted sorted)
          exact congrArg (fun v => some (v, rest)) same

/-- The text of a legible value is that value. -/
theorem ofText?_pretty {v : Json} (legible : Legible maxDepth v) : ofText? v.pretty = some v := by
  have opened := skipGaps_prettyText legible 0 []
  have read := legible.readsBack 0 ((prettyText 0 v).length + 1) [] (Nat.le_succ _) trivial
  rw [List.append_nil] at opened read
  simp only [ofText?, pretty, String.toList_ofList, opened, read]
  rfl

end Json
end ProductGraph
