import Mathlib.Algebra.Group.Nat.Defs
import Mathlib.Data.List.TakeWhile
import ProductGraph.Proofs.Json.Number
import ProductGraph.Time.Timestamp

namespace ProductGraph
namespace Time

/-!
# Canonical timestamps read back

The canonical text of a timestamp is read as that timestamp.  So a text that was brought to its canonical form once
stays as it is from then on.
-/

open Unicode (isAsciiDigit isBlank)

/-! ## Numbers of a fixed width -/

theorem digitsFrom_zeros (count : Nat) (cs : List Char) :
    digitsFrom 0 (List.replicate count '0' ++ cs) = digitsFrom 0 cs := by
  induction count with
  | zero => rfl
  | succ count ih =>
      rw [List.replicate_succ, List.cons_append]
      exact ih

theorem length_padded {width n : Nat} (positive : 0 < width) (fits : n < 10 ^ width) :
    (padded width n).length = width := by
  have short := (Nat.length_toDigits_le_iff (by decide) positive).mpr fits
  rw [padded, List.length_append, List.length_replicate]
  omega

theorem isAsciiDigit_of_mem_padded {width n : Nat} {c : Char} (member : c ∈ padded width n) :
    isAsciiDigit c = true := by
  rcases List.mem_append.mp member with zero | digit
  · rw [List.eq_of_mem_replicate zero]
    rfl
  · exact isAsciiDigit_of_mem_toDigits digit

theorem digitsValue_padded (width n : Nat) : digitsValue (padded width n) = n :=
  (digitsFrom_zeros _ _).trans (digitsFrom_toDigits n)

/-- A number of a width is read as that number. -/
theorem exactly?_padded {width n : Nat} (positive : 0 < width) (fits : n < 10 ^ width) (rest : List Char) :
    exactly? width (padded width n ++ rest) = some (n, rest) := by
  have length := length_padded positive fits
  have taken : (padded width n ++ rest).take width = padded width n := by
    rw [List.take_append_of_le_length (Nat.le_of_eq length.symm), List.take_of_length_le (Nat.le_of_eq length)]
  have left : (padded width n ++ rest).drop width = rest := List.drop_left' length
  have digits : (padded width n).all isAsciiDigit = true :=
    List.all_eq_true.mpr fun c member => isAsciiDigit_of_mem_padded member
  simp only [exactly?, taken, left, length, digits, digitsValue_padded]
  rfl

theorem digitsFrom_lt {cs : List Char} (digits : cs.all isAsciiDigit = true) (before : Nat) :
    digitsFrom before cs < (before + 1) * 10 ^ cs.length := by
  induction cs generalizing before with
  | nil => simp [digitsFrom]
  | cons c rest ih =>
      simp only [List.all_cons, Bool.and_eq_true] at digits
      have small : digitValue c < 10 := by
        have upper : c ≤ '9' := by
          have digit := digits.1
          simp only [isAsciiDigit, Bool.and_eq_true, decide_eq_true_eq] at digit
          exact digit.2
        have bound : c.toNat ≤ 57 := upper
        have zero : '0'.toNat = 48 := rfl
        rw [digitValue, zero]
        omega
      have further := ih digits.2 (10 * before + digitValue c)
      have same : digitsFrom before (c :: rest) = digitsFrom (10 * before + digitValue c) rest := rfl
      rw [same, List.length_cons, Nat.pow_succ]
      calc digitsFrom (10 * before + digitValue c) rest
          < (10 * before + digitValue c + 1) * 10 ^ rest.length := further
        _ ≤ ((before + 1) * 10) * 10 ^ rest.length := Nat.mul_le_mul_right _ (by omega)
        _ = (before + 1) * (10 ^ rest.length * 10) := by rw [Nat.mul_assoc, Nat.mul_comm 10]

theorem lt_of_exactly? {width n : Nat} {cs rest : List Char} (found : exactly? width cs = some (n, rest)) :
    n < 10 ^ width := by
  rw [exactly?] at found
  split at found
  · rename_i digits
    cases found
    have bound := digitsFrom_lt digits.2 0
    rwa [digits.1, Nat.zero_add, Nat.one_mul] at bound
  · cases found

/-! ## Fractions -/

/-- A text that does not go on with a point or a digit. -/
def EndsFraction (cs : List Char) : Prop := ∃ c rest, cs = c :: rest ∧ c ≠ '.' ∧ isAsciiDigit c = false

theorem fraction?_padded {width n : Nat} (positive : 0 < width) (narrow : width ≤ 9) (fits : n < 10 ^ width)
    {rest : List Char} (ends : EndsFraction rest) :
    fraction? ('.' :: (padded width n ++ rest)) = some (n * 10 ^ (9 - width), rest) := by
  rcases ends with ⟨c, rest, rfl, _, notDigit⟩
  have length := length_padded positive fits
  have digits : ∀ d ∈ padded width n, isAsciiDigit d = true := fun d member => isAsciiDigit_of_mem_padded member
  have taken : (padded width n ++ c :: rest).takeWhile isAsciiDigit = padded width n := by
    rw [List.takeWhile_append_of_pos digits, List.takeWhile_cons_of_neg (by rw [notDigit]; exact Bool.false_ne_true),
      List.append_nil]
  have left : (padded width n ++ c :: rest).dropWhile isAsciiDigit = c :: rest := by
    rw [List.dropWhile_append_of_pos digits, List.dropWhile_cons_of_neg (by rw [notDigit]; exact Bool.false_ne_true)]
  have kept : (padded width n).take 9 = padded width n := List.take_of_length_le (by omega)
  have filled : (padded width n).isEmpty = false := by
    cases spelled : padded width n with
    | nil =>
        rw [spelled] at length
        exact absurd length.symm (Nat.ne_of_gt positive)
    | cons => rfl
  simp only [fraction?, taken, left, kept, filled, length, digitsValue_padded]
  rfl

theorem fraction?_fractionText {nanosecond : Nat} (fits : nanosecond < 10 ^ 9) {rest : List Char}
    (ends : EndsFraction rest) : fraction? (fractionText nanosecond ++ rest) = some (nanosecond, rest) := by
  rw [fractionText]
  split
  · rename_i isZero
    rcases ends with ⟨c, rest, rfl, notPoint, _⟩
    rw [isZero, List.nil_append, fraction?]
    intro after same
    cases same
    exact notPoint rfl
  · split
    · rename_i whole
      rw [List.cons_append, fraction?_padded (by decide) (by decide) (by omega) ends]
      exact congrArg some (Prod.ext (by simp only; omega) rfl)
    · split
      · rename_i whole
        rw [List.cons_append, fraction?_padded (by decide) (by decide) (by omega) ends]
        exact congrArg some (Prod.ext (by simp only; omega) rfl)
      · rw [List.cons_append, fraction?_padded (by decide) (by decide) fits ends]
        exact congrArg some (Prod.ext (by simp only; omega) rfl)

theorem lt_of_fraction? {n : Nat} {cs rest : List Char} (found : fraction? cs = some (n, rest)) : n < 10 ^ 9 := by
  rw [fraction?.eq_def] at found
  split at found
  · rename_i after
    simp only at found
    split at found
    · cases found
    · cases found
      have digits : ((after.takeWhile isAsciiDigit).take 9).all isAsciiDigit = true :=
        List.all_eq_true.mpr fun c member => List.all_eq_true.mp List.all_takeWhile c (List.mem_of_mem_take member)
      have short : ((after.takeWhile isAsciiDigit).take 9).length ≤ 9 := List.length_take_le _ _
      have bound := digitsFrom_lt digits 0
      generalize (after.takeWhile isAsciiDigit).take 9 = kept at bound short ⊢
      rw [Nat.zero_add, Nat.one_mul] at bound
      have scaled : digitsValue kept * 10 ^ (9 - kept.length) < 10 ^ kept.length * 10 ^ (9 - kept.length) :=
        Nat.mul_lt_mul_of_pos_right bound (Nat.pow_pos (by decide))
      rwa [← Nat.pow_add, Nat.add_sub_cancel' short] at scaled
  · cases found
    decide

/-! ## Offsets -/

theorem offset?_offsetText {offset : Int} (fits : offset.natAbs < 1440) :
    offset? (offsetText offset) = some offset := by
  rw [offsetText]
  split
  · rename_i isZero
    rw [isZero]
    rfl
  · have hours := exactly?_padded (n := offset.natAbs / 60) (by decide : 0 < 2) (by omega)
      (':' :: padded 2 (offset.natAbs % 60))
    have minutes := exactly?_padded (n := offset.natAbs % 60) (by decide : 0 < 2) (by omega) []
    rw [List.append_nil] at minutes
    have inHour : offset.natAbs % 60 < 60 := Nat.mod_lt _ (by decide)
    have inDay : offset.natAbs / 60 < 24 := by omega
    have size : ((offset.natAbs / 60 : Nat) : Int) * 60 + ((offset.natAbs % 60 : Nat) : Int) = offset.natAbs := by omega
    generalize offset.natAbs / 60 = hour at *
    generalize offset.natAbs % 60 = minute at *
    by_cases west : offset < 0
    · have back : -(offset.natAbs : Int) = offset := by omega
      simp [offset?, west, hours, after?, minutes, inHour, inDay]
      omega
    · have back : (offset.natAbs : Int) = offset := by omega
      simp [offset?, west, hours, after?, minutes, inHour, inDay]
      omega

theorem natAbs_lt_of_offset? {cs : List Char} {offset : Int} (found : offset? cs = some offset) :
    offset.natAbs < 1440 := by
  rw [offset?.eq_def] at found
  split at found
  · cases found
    decide
  · cases found
    decide
  · -- The sign is known, so what is left is the same for both.
    have size : ∀ (negative : Bool) (cs : List Char), ((exactly? 2 cs).bind fun hours =>
        (after? ':' hours.2).bind fun rest =>
          (exactly? 2 rest).bind fun minutes =>
            if minutes.2.isEmpty ∧ minutes.1 < 60 ∧ hours.1 < 24 then
              let size : Int := hours.1 * 60 + minutes.1
              some (if negative then -size else size)
            else none) = some offset → offset.natAbs < 1440 := by
      intro negative cs found
      rcases Option.bind_eq_some_iff.mp found with ⟨⟨hours, _⟩, _, found⟩
      rcases Option.bind_eq_some_iff.mp found with ⟨_, _, found⟩
      rcases Option.bind_eq_some_iff.mp found with ⟨⟨minutes, rest⟩, _, found⟩
      simp only at found
      split at found
      · rename_i inRange
        rcases inRange with ⟨_, inHour, inDay⟩
        cases negative <;> cases found <;> simp only [Bool.false_eq_true, if_false, if_true] <;> omega
      · cases found
    split at found
    · exact size false _ found
    · split at found
      · exact size true _ found
      · cases found
  · cases found

theorem endsFraction_offsetText (offset : Int) : EndsFraction (offsetText offset) := by
  rw [offsetText]
  split
  · exact ⟨'Z', [], rfl, by decide, rfl⟩
  · split
    · exact ⟨'-', _, rfl, by decide, rfl⟩
    · exact ⟨'+', _, rfl, by decide, rfl⟩

/-! ## Timestamps -/

namespace Timestamp

/-- A timestamp that a text can write. -/
structure Fits (t : Timestamp) : Prop where
  year : t.year < 10 ^ 4
  month : t.month < 10 ^ 2
  day : t.day < 10 ^ 2
  hour : t.hour < 10 ^ 2
  minute : t.minute < 10 ^ 2
  second : t.second < 10 ^ 2
  nanosecond : t.nanosecond < 10 ^ 9
  offset : t.offset.natAbs < 1440
  inRange : (isDate t.year t.month t.day && isTimeOfDay t.hour t.minute t.second) = true

theorem fits_of_ofText? {cs : List Char} {t : Timestamp} (found : ofText? cs = some t) : t.Fits := by
  rw [ofText?] at found
  rcases Option.bind_eq_some_iff.mp found with ⟨⟨year, _⟩, y, found⟩
  rcases Option.bind_eq_some_iff.mp found with ⟨_, _, found⟩
  rcases Option.bind_eq_some_iff.mp found with ⟨⟨month, _⟩, mo, found⟩
  rcases Option.bind_eq_some_iff.mp found with ⟨_, _, found⟩
  rcases Option.bind_eq_some_iff.mp found with ⟨⟨day, _⟩, d, found⟩
  rcases Option.bind_eq_some_iff.mp found with ⟨_, _, found⟩
  rcases Option.bind_eq_some_iff.mp found with ⟨⟨hour, _⟩, h, found⟩
  rcases Option.bind_eq_some_iff.mp found with ⟨_, _, found⟩
  rcases Option.bind_eq_some_iff.mp found with ⟨⟨minute, _⟩, mi, found⟩
  rcases Option.bind_eq_some_iff.mp found with ⟨_, _, found⟩
  rcases Option.bind_eq_some_iff.mp found with ⟨⟨second, _⟩, s, found⟩
  rcases Option.bind_eq_some_iff.mp found with ⟨⟨nanosecond, _⟩, n, found⟩
  rcases Option.bind_eq_some_iff.mp found with ⟨offset, o, found⟩
  split at found
  · rename_i inRange
    cases found
    exact ⟨lt_of_exactly? y, lt_of_exactly? mo, lt_of_exactly? d, lt_of_exactly? h, lt_of_exactly? mi,
      lt_of_exactly? s, lt_of_fraction? n, natAbs_lt_of_offset? o, inRange⟩
  · cases found

/-- The canonical text of a timestamp is read as that timestamp. -/
theorem ofText?_text {t : Timestamp} (fits : t.Fits) : ofText? t.text = some t := by
  have four : 0 < 4 := by decide
  have two : 0 < 2 := by decide
  have mark : ∀ (c : Char) (rest : List Char), after? c (c :: rest) = some rest := fun c rest => if_pos rfl
  refine Option.bind_eq_some_iff.mpr ⟨_, exactly?_padded four fits.year _, ?_⟩
  refine Option.bind_eq_some_iff.mpr ⟨_, mark '-' _, ?_⟩
  refine Option.bind_eq_some_iff.mpr ⟨_, exactly?_padded two fits.month _, ?_⟩
  refine Option.bind_eq_some_iff.mpr ⟨_, mark '-' _, ?_⟩
  refine Option.bind_eq_some_iff.mpr ⟨_, exactly?_padded two fits.day _, ?_⟩
  refine Option.bind_eq_some_iff.mpr ⟨_, (congrArg (Option.or · _) (mark 'T' _)).trans (Option.some_or ..), ?_⟩
  refine Option.bind_eq_some_iff.mpr ⟨_, exactly?_padded two fits.hour _, ?_⟩
  refine Option.bind_eq_some_iff.mpr ⟨_, mark ':' _, ?_⟩
  refine Option.bind_eq_some_iff.mpr ⟨_, exactly?_padded two fits.minute _, ?_⟩
  refine Option.bind_eq_some_iff.mpr ⟨_, mark ':' _, ?_⟩
  refine Option.bind_eq_some_iff.mpr ⟨_, exactly?_padded two fits.second _, ?_⟩
  refine Option.bind_eq_some_iff.mpr
    ⟨_, fraction?_fractionText fits.nanosecond (endsFraction_offsetText t.offset), ?_⟩
  refine Option.bind_eq_some_iff.mpr ⟨_, offset?_offsetText fits.offset, ?_⟩
  exact if_pos fits.inRange

end Timestamp

/-! ## Canonical forms -/

/-- The canonical form of a text is the same timestamp as the text, if it is one at all. -/
theorem ofText?_canonical (s : String) :
    Timestamp.ofText? (canonical s).toList = Timestamp.ofText? s.toList := by
  cases found : Timestamp.ofText? s.toList with
  | none => simp only [canonical, found]
  | some t =>
      have again := Timestamp.ofText?_text (Timestamp.fits_of_ofText? found)
      simp only [canonical, found, String.toList_ofList, again]

theorem canonical_of_ofText?_eq_none {s : String} (foreign : Timestamp.ofText? s.toList = none) : canonical s = s := by
  simp only [canonical, foreign]

/-- Bringing a text to its canonical form a second time changes nothing. -/
theorem canonical_canonical (s : String) : canonical (canonical s) = canonical s := by
  cases found : Timestamp.ofText? s.toList with
  | none => rw [canonical_of_ofText?_eq_none found, canonical_of_ofText?_eq_none found]
  | some t =>
      have again := (ofText?_canonical s).trans found
      rw [canonical, again, canonical, found]

theorem isTimestamp_canonical (s : String) : isTimestamp (canonical s) = isTimestamp s := by
  cases found : Timestamp.ofText? s.toList with
  | none => rw [canonical_of_ofText?_eq_none found]
  | some t =>
      -- Local times and dates are not looked at, since the text is a timestamp before and after.
      have again := (ofText?_canonical s).trans found
      rw [isTimestamp, isTimestamp, isDateTimeText, isDateTimeText, again, found]
      rfl

/-- The canonical form of a text is its own canonical form, and it is accepted as a point in time exactly if the text
is.  A text that is no timestamp stays as it is.  Of a timestamp every part stays: the instant with its nanosecond,
also within a second 60, and the offset, not only the instant that the two make. -/
theorem canonical_keeps (s : String) :
    canonical (canonical s) = canonical s ∧
      (Timestamp.ofText? s.toList = none → canonical s = s) ∧
      (∀ t, Timestamp.ofText? s.toList = some t → Timestamp.ofText? (canonical s).toList = some t) ∧
      isTimestamp (canonical s) = isTimestamp s := by
  have same := ofText?_canonical s
  refine ⟨canonical_canonical s, canonical_of_ofText?_eq_none, ?_, isTimestamp_canonical s⟩
  intro t found
  rw [same]
  exact found

/-- A date stays, and a leap second at a western offset keeps its nanosecond, its second and its offset. -/
theorem canonical_keeps_leapSecond :
    canonical "2025-03-01" = "2025-03-01" ∧
      Timestamp.ofText? "2016-12-31t15:59:60.12500000079-08:00".toList =
        some ⟨2016, 12, 31, 15, 59, 60, 125000000, -480⟩ ∧
      canonical "2016-12-31t15:59:60.12500000079-08:00" = "2016-12-31T15:59:60.125-08:00" ∧
      Timestamp.ofText? (canonical "2016-12-31t15:59:60.12500000079-08:00").toList =
        some ⟨2016, 12, 31, 15, 59, 60, 125000000, -480⟩ := by
  have foreign : Timestamp.ofText? "2025-03-01".toList = none := by decide +kernel
  have leap : Timestamp.ofText? "2016-12-31t15:59:60.12500000079-08:00".toList =
      some ⟨2016, 12, 31, 15, 59, 60, 125000000, -480⟩ := by decide +kernel
  have date := (canonical_keeps "2025-03-01").2.1 foreign
  have kept := (canonical_keeps "2016-12-31t15:59:60.12500000079-08:00").2.2.1 _ leap
  exact ⟨date, leap, by decide +kernel, kept⟩

/-! ## Blank texts -/

theorem isBlank_of_isAsciiDigit {c : Char} (digit : isAsciiDigit c = true) : isBlank c = false := by
  simp only [isAsciiDigit, Bool.and_eq_true, decide_eq_true_eq] at digit
  have low : 48 ≤ c.toNat := digit.1
  have high : c.toNat ≤ 57 := digit.2
  have apart : ¬ c.toNat < 0x9 ∧ ¬ c.toNat ≤ 0xD ∧ ¬ c.toNat < 0x20 ∧ ¬ c.toNat ≤ 0x20 ∧ c.toNat < 0x85 := by omega
  simp [isBlank, Unicode.blankRanges, Unicode.Ranges.contains, apart]

theorem exactly?_of_blank {count : Nat} (positive : 0 < count) {cs : List Char} (blank : cs.all isBlank = true) :
    exactly? count cs = none := by
  rw [exactly?]
  refine if_neg fun found => ?_
  rcases found with ⟨length, digits⟩
  cases cs with
  | nil =>
      rw [List.take_nil] at length
      exact absurd length (Nat.ne_of_lt positive)
  | cons c rest =>
      rcases Nat.exists_eq_add_of_lt positive with ⟨fewer, rfl⟩
      simp only [Nat.zero_add, List.take_succ_cons, List.all_cons, Bool.and_eq_true] at digits blank
      have noBlank := isBlank_of_isAsciiDigit digits.1
      rw [blank.1] at noBlank
      cases noBlank

theorem looseDate?_of_blank {cs : List Char} (blank : cs.all isBlank = true) : looseDate? cs = none := by
  have nothing : cs.dropWhile isBlank = [] :=
    List.dropWhile_eq_nil_iff.mpr fun c member => List.all_eq_true.mp blank c member
  have noYear : looseYear? cs = none := by
    rw [looseYear?, nothing]
    rfl
  rw [looseDate?, noYear]
  rfl

/-- A text of nothing but white space is no point in time. -/
theorem not_isTimestamp_of_blank {s : String} (blank : s.toList.all isBlank = true) : isTimestamp s = false := by
  have noZone : Timestamp.ofText? s.toList = none := by
    rw [Timestamp.ofText?, exactly?_of_blank (by decide) blank]
    rfl
  rw [isTimestamp, isDateTimeText, isLocalText, isDateText, looseDate?_of_blank blank, noZone]
  rfl

end Time
end ProductGraph
