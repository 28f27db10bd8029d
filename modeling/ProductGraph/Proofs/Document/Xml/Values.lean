import ProductGraph.Proofs.Document.Xml.Children
import ProductGraph.Proofs.Time.Timestamp

namespace ProductGraph
namespace Xml

/-!
# Values read back from their texts

Every value that markup carries comes out of it as a text or a list of texts, and its normal form is the value that was
written.  A count is read from its digits, and no bound from a word; a real number is read back if it is read back as it
is printed; the other values are in normal form already.
-/

open Unicode (isAsciiDigit isBlank)
open Time (isBlank_of_isAsciiDigit)

/-! ## Digits -/

theorem dropWhile_isBlank {cs : List Char} (digits : ∀ c ∈ cs, isAsciiDigit c = true) : cs.dropWhile isBlank = cs := by
  cases cs with
  | nil => rfl
  | cons c rest =>
      refine List.dropWhile_cons_of_neg ?_
      rw [isBlank_of_isAsciiDigit (digits c List.mem_cons_self)]
      exact Bool.false_ne_true

theorem trim_of_digits {cs : List Char} (digits : ∀ c ∈ cs, isAsciiDigit c = true) : Text.trim cs = cs := by
  have backwards : ∀ c ∈ cs.reverse, isAsciiDigit c = true := fun c member => digits c (List.mem_reverse.mp member)
  rw [Text.trim, Text.trimStart, dropWhile_isBlank digits, Text.trimEnd, dropWhile_isBlank backwards,
    List.reverse_reverse]

/-- A number is read from its digits. -/
theorem natural?_toDigits (n : Nat) : natural? (Nat.toDigits 10 n) = some n := by
  have digits : (Nat.toDigits 10 n).all isAsciiDigit = true :=
    List.all_eq_true.mpr fun c member => isAsciiDigit_of_mem_toDigits member
  have filled : (Nat.toDigits 10 n).isEmpty = false := List.isEmpty_eq_false_iff.mpr Nat.toDigits_ne_nil
  rw [natural?, digits, filled]
  exact congrArg some (digitsFrom_toDigits n)

theorem unsigned?_toDigits {limit n : Nat} (fits : n < limit) : unsigned? limit (Nat.toDigits 10 n) = some n := by
  have read := natural?_toDigits n
  cases spelled : Nat.toDigits 10 n with
  | nil => exact absurd spelled Nat.toDigits_ne_nil
  | cons c rest =>
      have digit : isAsciiDigit c = true := isAsciiDigit_of_mem_toDigits (spelled ▸ List.mem_cons_self)
      have noSign : c ≠ '+' := by
        rintro rfl
        exact absurd digit (by decide)
      rw [spelled] at read
      simp [unsigned?, noSign, read, fits]

/-! ## Counts and numbers -/

/-- A count is read from the text that it is printed as. -/
theorem count_text {n : Nat} (le : n ≤ unbounded) :
    Normal.count (.string (Numeral.integer n).text) = .nat n := by
  have text_eq : (Numeral.integer n).text.toList = Nat.toDigits 10 n := Nat.toList_repr
  have digits : ∀ c ∈ Nat.toDigits 10 n, isAsciiDigit c = true := fun c member => isAsciiDigit_of_mem_toDigits member
  have noWord : (Text.trimmed (Numeral.integer n).text == "unbounded") = false := by
    refine beq_false_of_ne fun same => ?_
    have spelled := congrArg String.toList same
    rw [Text.trimmed, text_eq, trim_of_digits digits, String.toList_ofList] at spelled
    have digit : isAsciiDigit 'u' = true := digits 'u' (spelled ▸ List.mem_cons_self)
    exact absurd digit (by decide)
  have fits : n < Nat.pow 2 64 := Nat.lt_of_le_of_lt le (by decide)
  rw [Normal.count, noWord, if_neg Bool.false_ne_true, text_eq, trim_of_digits digits, unsigned?_toDigits fits]

/-- The greatest count is read from its spelling. -/
theorem count_maxOccurs {n : Nat} (le : n ≤ unbounded) : Normal.count (.string (maxOccurs (.nat n))) = .nat n := by
  have spelling : maxOccurs (.nat n) = if (n : Int) = unbounded then "unbounded" else (Numeral.integer n).text := rfl
  rw [spelling]
  split
  · rename_i isUnbounded
    rw [Int.ofNat_inj.mp isUnbounded]
    rfl
  · exact count_text le

/-- A text in a field that holds counts or numbers is read as one. -/
theorem field?_numeric {options : ReadingOptions} {kind : Option Kind} {name s : String} {v : Json}
    (numeric : name ∈ Vocabulary.countFields ++ Vocabulary.numberFields)
    (read : (if Vocabulary.countFields.contains name then Normal.count (.string s) else Normal.number (.string s)) = v)
    (notNull : v.isNull = false) : Normal.field? options kind name (.string s) = some v := by
  have apart : ∀ name ∈ Vocabulary.countFields ++ Vocabulary.numberFields, Vocabulary.isField name = true ∧
      Vocabulary.textFields.contains name = false ∧ (Vocabulary.fragmentFields.map (·.1)).contains name = false ∧
      (name == "id") = false ∧ (name == "idRef") = false ∧ (name == "modified") = false ∧
      Vocabulary.classFields.contains name = false := by decide
  rcases apart name numeric with ⟨isField, notText, noFragments, notId, notIdRef, notTime, notClass⟩
  have value : Normal.plainField options kind name (.string s) = v := by
    simp only [Normal.plainField, Normal.plain, noFragments, notId, notIdRef, notTime, notClass, Bool.false_eq_true,
      if_false]
    by_cases isCount : Vocabulary.countFields.contains name = true
    · rw [if_pos isCount] at read ⊢
      exact read
    · rcases List.mem_append.mp numeric with count | number
      · exact absurd (List.contains_iff_mem.mpr count) isCount
      · rw [if_neg isCount] at read ⊢
        rw [if_pos (List.contains_iff_mem.mpr number)]
        exact read
  rw [Normal.field?, isField, notText, Normal.unwrapping_string, value]
  simp only [Bool.not_true, Bool.false_eq_true, if_false, notNull]

/-! ## Any value -/

/-- The fields that hold counts and numbers are known by their names. -/
theorem numeric_of_get?_shapes {kind : Kind} {name : String} {shape : Shape}
    (named : kind.shapes.get? name = some shape) :
    (shape = .count → Vocabulary.countFields.contains name = true) ∧
      (shape = .number → Vocabulary.numberFields.contains name = true ∧ Vocabulary.countFields.contains name = false ∧
        name ≠ "maxCount") := by
  have all : ∀ kind ∈ Kind.all, ∀ s ∈ kind.shapes, (s.2 = .count → Vocabulary.countFields.contains s.1 = true) ∧
      (s.2 = .number → Vocabulary.numberFields.contains s.1 = true ∧ Vocabulary.countFields.contains s.1 = false ∧
        s.1 ≠ "maxCount") := by decide
  exact all kind kind.mem_all (name, shape) (Keyed.mem_of_get? named)

/-- What markup makes of a value is read as that value. -/
theorem field?_spelled (options : ReadingOptions) {kind : Kind} {name : String} {shape : Shape} {v : Json}
    (named : kind.shapes.get? name = some shape) (written : shape.Written v) (settled : Normal.Settled name v)
    (number : ∀ x, v = .number (.real x) → RealValue.ofText? (Text.trim x.json.toList) = some (.finite x)) :
    Normal.field? options (some kind) name (spelled name v) = some v := by
  have fits := Normal.suits_of_get?_shapes named
  rcases numeric_of_get?_shapes named with ⟨counts, numbers⟩
  have asItIs : (shape = .texts ∧ v = v ∨ shape ≠ .texts ∧ Normal.unwrapping.run v = v) →
      Normal.field? options (some kind) name v = some v := Normal.field?_written fits written settled
  have unwrapped := Normal.unwrapping_written written
  cases written with
  | @count n le =>
      refine field?_numeric (List.mem_append_left _ (List.contains_iff_mem.mp (counts rfl))) ?_ rfl
      rw [if_pos (counts rfl)]
      split
      · exact count_maxOccurs le
      · exact count_text le
  | number x =>
      rcases numbers rfl with ⟨isNumber, noCount, other⟩
      refine field?_numeric (List.mem_append_right _ (List.contains_iff_mem.mp isNumber)) ?_ rfl
      rw [noCount, if_neg Bool.false_ne_true, if_neg other, Normal.number]
      simp only [Numeral.text, number x rfl]
  | texts => exact asItIs (.inl ⟨rfl, rfl⟩)
  | identifier | text | exactly => exact asItIs (.inr ⟨nofun, rfl⟩)
  | identifiers | textList | properties | links => exact asItIs (.inr ⟨nofun, unwrapped nofun⟩)

end Xml
end ProductGraph
