import Mathlib.Data.List.TakeWhile
import ProductGraph.Consistency.Verdict

namespace ProductGraph

/-!
# Numbers that bounds are compared with

Whether a text is a number of its datatype is decided by one reader for each datatype, and bounds compare what another
reader makes of the same text.  Whole numbers and decimals without a foreign digit are read by the second reader as
well, and so are the words for the infinities and for what is not a number.

The readers part over digits.  A decimal may have the digits of any script, while a real number has those of ASCII
alone.  A decimal with any other digit is a number that nothing can read: it is compared as what is not a number, and
no bound refuses it.
-/

namespace Unicode

/-- The digits `0` to `9` are digits. -/
theorem isDigit_of_isAsciiDigit {c : Char} (digit : isAsciiDigit c = true) : isDigit c = true := by
  simp only [isAsciiDigit, Bool.and_eq_true, decide_eq_true_eq, Char.le_def, UInt32.le_iff_toNat_le] at digit
  rcases digit with ⟨low, high⟩
  change 48 ≤ c.toNat at low
  change c.toNat ≤ 57 at high
  simp only [isDigit, digitRanges, Ranges.contains, Nat.not_lt.mpr low, if_false, high, decide_true, Bool.true_or]

/-- No other digit is an ASCII character. -/
theorem isAsciiDigit_of_lt {c : Char} (ascii : c.toNat < 128) (digit : isDigit c = true) : isAsciiDigit c = true := by
  have before : c.toNat < 0x660 := Nat.lt_trans ascii (by decide)
  simp only [isDigit, digitRanges, Ranges.contains, before, if_true, Bool.or_false] at digit
  split at digit
  · cases digit
  · next above =>
    simp only [isAsciiDigit, Bool.and_eq_true, decide_eq_true_eq, Char.le_def, UInt32.le_iff_toNat_le]
    exact ⟨Nat.le_of_not_lt above, of_decide_eq_true digit⟩

theorem lt_of_isAsciiDigit {c : Char} (digit : isAsciiDigit c = true) : c.toNat < 128 := by
  simp only [isAsciiDigit, Bool.and_eq_true, decide_eq_true_eq, Char.le_def, UInt32.le_iff_toNat_le] at digit
  have high : c.toNat ≤ 57 := digit.2
  exact Nat.lt_of_le_of_lt high (by decide)

end Unicode

open Unicode (isDigit isAsciiDigit isDigit_of_isAsciiDigit isAsciiDigit_of_lt lt_of_isAsciiDigit)

/-- Whether a text has no digit of another script than ASCII. -/
def AsciiDigits (cs : List Char) : Prop := ∀ c ∈ cs, isDigit c = true → isAsciiDigit c = true

instance (cs : List Char) : Decidable (AsciiDigits cs) := List.decidableBAll _ cs

/-! ## What a real number is written with -/

def Ascii (cs : List Char) : Prop := ∀ c ∈ cs, c.toNat < 128

instance (cs : List Char) : Decidable (Ascii cs) := List.decidableBAll _ cs

theorem Ascii.append {cs ds : List Char} (first : Ascii cs) (second : Ascii ds) : Ascii (cs ++ ds) := by
  intro c member
  exact (List.mem_append.mp member).elim (first c) (second c)

theorem Ascii.cons {c : Char} {cs : List Char} (first : c.toNat < 128) (rest : Ascii cs) : Ascii (c :: cs) := by
  intro d member
  rcases List.mem_cons.mp member with rfl | member
  · exact first
  · exact rest d member

theorem Ascii.asciiDigits {cs : List Char} (ascii : Ascii cs) : AsciiDigits cs :=
  fun c member => isAsciiDigit_of_lt (ascii c member)

theorem ascii_takeWhile (cs : List Char) : Ascii (cs.takeWhile isAsciiDigit) :=
  fun _ member => lt_of_isAsciiDigit (List.mem_takeWhile_imp member)

theorem all_of_natural? {cs : List Char} {n : Nat} (read : natural? cs = some n) :
    cs ≠ [] ∧ (∀ c ∈ cs, isAsciiDigit c = true) ∧ n = digitsValue cs := by
  unfold natural? at read
  split at read
  · next digits =>
    simp only [Bool.and_eq_true, Bool.not_eq_true', List.isEmpty_eq_false_iff, List.all_eq_true] at digits
    exact ⟨digits.1, digits.2, (Option.some.inj read).symm⟩
  · cases read

theorem ascii_of_natural? {cs : List Char} {n : Nat} (read : natural? cs = some n) : Ascii cs :=
  fun c member => lt_of_isAsciiDigit ((all_of_natural? read).2.1 c member)

/-- A sign is an ASCII character, or there is none. -/
theorem ascii_of_splitSign {cs : List Char} (ascii : Ascii (splitSign cs).2) : Ascii cs := by
  unfold splitSign at ascii
  split at ascii
  · exact .cons (by decide) ascii
  · exact .cons (by decide) ascii
  · exact ascii

theorem ascii_of_exponent? {cs : List Char} {e : Int} (read : exponent? cs = some e) : Ascii cs := by
  cases cs with
  | nil => exact fun c member => absurd member List.not_mem_nil
  | cons marker rest =>
      by_cases marked : (marker == 'e' || marker == 'E') = true
      · simp only [exponent?, marked, if_true] at read
        rcases Option.map_eq_some_iff.mp read with ⟨_, digits, _⟩
        rcases Option.bind_eq_some_iff.mp digits with ⟨n, digits, _⟩
        refine .cons ?_ (ascii_of_splitSign (ascii_of_natural? digits))
        rcases Bool.or_eq_true_iff.mp marked with small | capital
        · rw [eq_of_beq small]
          decide
        · rw [eq_of_beq capital]
          decide
      · simp only [exponent?, marked] at read
        cases read

/-- A decimal with a point: digits on one side of it at least, and an exponent or none. -/
theorem decimal?_of_pointed {cs after : List Char} (pointed : cs.dropWhile isAsciiDigit = '.' :: after) :
    decimal? cs =
      if (cs.takeWhile isAsciiDigit).isEmpty && (after.takeWhile isAsciiDigit).isEmpty then none
      else (exponent? (after.dropWhile isAsciiDigit)).map fun e =>
        (digitsValue (cs.takeWhile isAsciiDigit ++ after.takeWhile isAsciiDigit),
          e - ((after.takeWhile isAsciiDigit).length : Int)) := by
  unfold decimal?
  simp only [pointed]

/-- A decimal without a point: digits, and an exponent or none. -/
theorem decimal?_of_plain {cs : List Char} (plain : ∀ after, cs.dropWhile isAsciiDigit ≠ '.' :: after) :
    decimal? cs =
      if (cs.takeWhile isAsciiDigit).isEmpty then none
      else (exponent? (cs.dropWhile isAsciiDigit)).map fun e => (digitsValue (cs.takeWhile isAsciiDigit), e) := by
  unfold decimal?
  revert plain
  generalize cs.dropWhile isAsciiDigit = rest
  intro plain
  cases rest with
  | nil => simp
  | cons c after =>
      simp

theorem ascii_of_decimal? {cs : List Char} {number : Nat × Int} (read : decimal? cs = some number) : Ascii cs := by
  rw [← List.takeWhile_append_dropWhile (p := isAsciiDigit) (l := cs)]
  apply (ascii_takeWhile cs).append
  by_cases pointed : ∃ after, cs.dropWhile isAsciiDigit = '.' :: after
  · rcases pointed with ⟨after, pointed⟩
    rw [decimal?_of_pointed pointed] at read
    rcases Option.map_eq_some_iff.mp (Option.ite_none_left_eq_some.mp read).2 with ⟨e, exponent, _⟩
    rw [pointed, ← List.takeWhile_append_dropWhile (p := isAsciiDigit) (l := after)]
    exact .cons (by decide) ((ascii_takeWhile after).append (ascii_of_exponent? exponent))
  · rw [decimal?_of_plain (not_exists.mp pointed)] at read
    rcases Option.map_eq_some_iff.mp (Option.ite_none_left_eq_some.mp read).2 with ⟨e, exponent, _⟩
    exact ascii_of_exponent? exponent

theorem lt_of_lowerLetter {c : Char} (ascii : (lowerLetter c).toNat < 128) : c.toNat < 128 := by
  unfold lowerLetter at ascii
  split at ascii
  · next capital =>
    have high : c.toNat ≤ 90 := capital.2
    exact Nat.lt_of_le_of_lt high (by decide)
  · exact ascii

/-- What is an ASCII word but for the case of its letters is ASCII. -/
theorem ascii_of_map_lowerLetter {cs : List Char} {word : String}
    (read : (String.ofList (cs.map lowerLetter) == word) = true) (ascii : Ascii word.toList) : Ascii cs := by
  intro c member
  apply lt_of_lowerLetter
  apply ascii
  rw [← eq_of_beq read, String.toList_ofList]
  exact List.mem_map_of_mem member

/-- A real number is written in ASCII. -/
theorem ascii_of_ofText? {cs : List Char} {value : RealValue} (read : RealValue.ofText? cs = some value) : Ascii cs := by
  unfold RealValue.ofText? at read
  apply ascii_of_splitSign
  cases number : decimal? (splitSign cs).2 with
  | some _ => exact ascii_of_decimal? number
  | none =>
      simp only [number] at read
      split at read
      · next infinity =>
        rcases Bool.or_eq_true_iff.mp infinity with short | long
        · exact ascii_of_map_lowerLetter short (by decide)
        · exact ascii_of_map_lowerLetter long (by decide)
      · split at read
        · next word => exact ascii_of_map_lowerLetter word (by decide)
        · cases read

/-! ## Literals that are real numbers -/

/-- What is a decimal behind its sign is a real number. -/
theorem isSome_ofText? {cs : List Char} (number : (decimal? (splitSign cs).2).isSome = true) :
    (RealValue.ofText? cs).isSome = true := by
  rcases Option.isSome_iff_exists.mp number with ⟨⟨digits, exponent⟩, number⟩
  unfold RealValue.ofText?
  simp only [number]
  cases Binary64.sizeOfDecimal? digits exponent <;> rfl

theorem isSome_decimal?_of_natural? {cs : List Char} {n : Nat} (read : natural? cs = some n) :
    (decimal? cs).isSome = true := by
  rcases all_of_natural? read with ⟨notEmpty, digits, _⟩
  have rest : cs.dropWhile isAsciiDigit = [] := List.dropWhile_eq_nil_iff.mpr digits
  have filled : cs.isEmpty = false := List.isEmpty_eq_false_iff.mpr notEmpty
  rw [decimal?_of_plain (by simp [rest]), rest, List.takeWhile_eq_self_iff.mpr digits, filled]
  rfl

/-- A whole number is a real number. -/
theorem isSome_ofText?_of_isSigned {bits : Nat} {cs : List Char} (whole : isSigned bits cs = true) :
    (RealValue.ofText? cs).isSome = true := by
  have digits : (natural? (splitSign cs).2).isSome = true := by
    unfold isSigned at whole
    unfold splitSign
    split at whole
    all_goals exact Option.isSome_of_any whole
  rcases Option.isSome_iff_exists.mp digits with ⟨n, read⟩
  exact isSome_ofText? (isSome_decimal?_of_natural? read)

theorem AsciiDigits.eq {cs : List Char} (digits : AsciiDigits cs) :
    cs.takeWhile isDigit = cs.takeWhile isAsciiDigit ∧ cs.dropWhile isDigit = cs.dropWhile isAsciiDigit := by
  induction cs with
  | nil => exact ⟨rfl, rfl⟩
  | cons c rest ih =>
      rcases ih fun d member => digits d (List.mem_cons_of_mem c member) with ⟨taken, dropped⟩
      have alike : isDigit c = isAsciiDigit c :=
        Bool.eq_iff_iff.mpr ⟨digits c List.mem_cons_self, isDigit_of_isAsciiDigit⟩
      simp only [List.takeWhile_cons, List.dropWhile_cons, alike, taken, dropped, and_self]

theorem AsciiDigits.splitSign {cs : List Char} (digits : AsciiDigits cs) : AsciiDigits (splitSign cs).2 := by
  unfold ProductGraph.splitSign
  split
  · exact fun c member => digits c (List.mem_cons_of_mem _ member)
  · exact fun c member => digits c (List.mem_cons_of_mem _ member)
  · exact digits

/-- A decimal is a real number if its digits are those of ASCII. -/
theorem isSome_ofText?_of_isDecimalText {cs : List Char} (decimal : isDecimalText cs = true) (digits : AsciiDigits cs) :
    (RealValue.ofText? cs).isSome = true := by
  apply isSome_ofText?
  rcases digits.splitSign.eq with ⟨whole, behind⟩
  simp only [isDecimalText, whole, behind] at decimal
  split at decimal
  · next rest =>
    have filled : ((splitSign cs).2.takeWhile isAsciiDigit).isEmpty = false := by simpa using decimal
    rw [decimal?_of_plain (by simp [rest]), rest, filled]
    rfl
  · next fraction pointed =>
    rcases Bool.and_eq_true_iff.mp decimal with ⟨digitsOnly, someWhere⟩
    have filled : (((splitSign cs).2.takeWhile isAsciiDigit).isEmpty && fraction.isEmpty) = false := by
      simpa only [Bool.not_eq_true'] using someWhere
    have member : ∀ c ∈ fraction, c ∈ (splitSign cs).2 := fun c isIn =>
      (List.dropWhile_sublist isAsciiDigit).subset (pointed ▸ List.mem_cons_of_mem _ isIn)
    have all : ∀ c ∈ fraction, isAsciiDigit c = true := fun c isIn =>
      digits.splitSign c (member c isIn) (List.all_eq_true.mp digitsOnly c isIn)
    rw [decimal?_of_pointed pointed, List.takeWhile_eq_self_iff.mpr all, List.dropWhile_eq_nil_iff.mpr all, filled]
    rfl
  · cases decimal

/-! ## Values and their bounds -/

namespace Consistency

open Datatype

/-- What cannot be read as a number is refused by no bound. -/
theorem boundCause?_of_notANumber {text : String} (unread : numberOf text = .notANumber) (g : Graph)
    (property : String) : boundCause? g property text = none := by
  rw [boundCause?, unread]
  simp only [RealValue.below, RealValue.above, Bool.false_eq_true, if_false]
  cases g.facet? property PropertyClass.minInclusive <;> cases g.facet? property PropertyClass.maxInclusive <;> rfl

theorem isSome_ofText?_of_admits {d : Datatype} {text : String} (numeric : d.isNumeric = true)
    (admitted : d.admits text = true) (other : d = .decimal → AsciiDigits (Text.trim text.toList)) :
    (RealValue.ofText? (Text.trim text.toList)).isSome = true := by
  unfold admits at admitted
  revert admitted other
  generalize Text.trim text.toList = cs
  intro admitted other
  have words : ∀ word ∈ ["INF", "-INF", "NaN"], (RealValue.ofText? word.toList).isSome = true := by decide +kernel
  have real : (["INF", "-INF", "NaN"].contains (String.ofList cs) || (RealValue.ofText? cs).isSome) = true →
      (RealValue.ofText? cs).isSome = true := by
    intro accepted
    rcases Bool.or_eq_true_iff.mp accepted with word | read
    · have read := words _ (List.contains_iff_mem.mp word)
      rwa [String.toList_ofList] at read
    · exact read
  cases d
  case integer => exact isSome_ofText?_of_isSigned admitted
  case decimal => exact isSome_ofText?_of_isDecimalText admitted (other rfl)
  case double => exact real admitted
  case float => exact real admitted
  all_goals cases numeric

/-- A number of its datatype is compared as what it is read as, exactly if it has no digit of another script than ASCII.
Only a decimal may have one, and then no bound refuses it. -/
theorem numberOf_read_iff {d : Datatype} {text : String} (numeric : d.isNumeric = true)
    (admitted : d.admits text = true) :
    (RealValue.ofText? (Text.trim text.toList) = some (numberOf text) ↔ AsciiDigits (Text.trim text.toList)) ∧
      (d ≠ .decimal → AsciiDigits (Text.trim text.toList)) ∧
      (¬AsciiDigits (Text.trim text.toList) → ∀ g property, boundCause? g property text = none) := by
  have readable : AsciiDigits (Text.trim text.toList) →
      RealValue.ofText? (Text.trim text.toList) = some (numberOf text) := by
    intro digits
    rcases Option.isSome_iff_exists.mp (isSome_ofText?_of_admits numeric admitted fun _ => digits) with ⟨v, read⟩
    rw [numberOf, read, Option.getD_some]
  refine ⟨⟨fun read => (ascii_of_ofText? read).asciiDigits, readable⟩, ?_, ?_⟩
  · intro other
    have read := isSome_ofText?_of_admits numeric admitted fun decimal => absurd decimal other
    rcases Option.isSome_iff_exists.mp read with ⟨v, read⟩
    exact (ascii_of_ofText? read).asciiDigits
  · intro foreign g property
    apply boundCause?_of_notANumber
    cases read : RealValue.ofText? (Text.trim text.toList) with
    | none => rw [numberOf, read, Option.getD_none]
    | some v => exact absurd (ascii_of_ofText? read).asciiDigits foreign

/-- A decimal with a sign, with nothing behind its point, and between blanks. -/
theorem numberOf_read_iff_signed :
    Datatype.isNumeric .decimal = true ∧ Datatype.admits .decimal "\u00a0+3.\n" = true ∧
      AsciiDigits (Text.trim "\u00a0+3.\n".toList) ∧
      RealValue.ofText? (Text.trim "\u00a0+3.\n".toList) = some (numberOf "\u00a0+3.\n") := by
  have admitted : Datatype.admits .decimal "\u00a0+3.\n" = true := by decide +kernel
  have digits : AsciiDigits (Text.trim "\u00a0+3.\n".toList) := by decide +kernel
  exact ⟨rfl, admitted, digits, (numberOf_read_iff rfl admitted).1.mpr digits⟩

/-- A weight of five at least, and a weight. -/
def weights (text : String) : Graph where
  items :=
    [.propertyClass ⟨⟨"ex:weight", none, [], []⟩, some "pig:Property", some "xs:decimal", none, none, none, none,
        some ⟨false, 5 * Binary64.one⟩, none, none⟩,
      .property ⟨"ex:weight", text, none⟩]

/-- Three is a weight below five, but not with the digit three of Arabic script: that is a decimal, cannot be read as a
number, and is refused by nothing. -/
theorem exists_decimal_unread :
    (Datatype.admits .decimal "\u0663" = true ∧ RealValue.ofText? (Text.trim "\u0663".toList) = none) ∧
      ((weights "3").check .all "en").isSome = true ∧ (weights "\u0663").check .all "en" = none := by
  refine ⟨⟨?_, ?_⟩, ?_, ?_⟩ <;> decide +kernel

end Consistency
end ProductGraph
