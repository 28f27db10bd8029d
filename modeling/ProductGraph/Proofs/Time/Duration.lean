import Mathlib.Data.List.TakeWhile
import ProductGraph.Consistency.Value

namespace ProductGraph
namespace Time

/-!
# The grammar of durations

What a duration says is which counts it has and which digits they are written with.  A duration as data has no form for
what is not one: it has a count, and so has its clock if there is one.

A text is recognised from its front, one count after the other, each passed over if it is there.  This never passes over
too much, since a count is told from the others by the first character behind its digits, and none of these units is a
digit itself.  So the text of every duration is recognised, and every text that is recognised is that of a duration.
-/

open Unicode (isDigit)

/-- Digits of any script, one at least. -/
structure Digits where
  chars : List Char
  nonempty : chars ≠ []
  areDigits : ∀ c ∈ chars, isDigit c = true

/-- A number of seconds, with or without a fraction. -/
structure Seconds where
  whole : Digits
  fraction : Option Digits

/-- What stands behind the `T`: one of the counts at least. -/
structure Clock where
  hours : Option Digits
  minutes : Option Digits
  seconds : Option Seconds
  hasCount : hours.isSome ∨ minutes.isSome ∨ seconds.isSome

/-- A duration: it has a count of days or longer, or a clock. -/
structure Duration where
  negative : Bool
  years : Option Digits
  months : Option Digits
  days : Option Digits
  clock : Option Clock
  hasCount : years.isSome ∨ months.isSome ∨ days.isSome ∨ clock.isSome

/-! ## The text of a duration -/

def countText (unit : Char) : Option Digits → List Char
  | none => []
  | some n => n.chars ++ [unit]

def secondsText : Option Seconds → List Char
  | none => []
  | some ⟨whole, none⟩ => whole.chars ++ ['S']
  | some ⟨whole, some fraction⟩ => whole.chars ++ '.' :: (fraction.chars ++ ['S'])

def Clock.text (c : Clock) : List Char :=
  countText 'H' c.hours ++ (countText 'M' c.minutes ++ secondsText c.seconds)

def clockText : Option Clock → List Char
  | none => []
  | some c => 'T' :: c.text

def Duration.body (d : Duration) : List Char :=
  countText 'Y' d.years ++ (countText 'M' d.months ++ (countText 'D' d.days ++ clockText d.clock))

/-- The text of a duration. -/
def Duration.text (d : Duration) : List Char := (if d.negative then ['-'] else []) ++ 'P' :: d.body

variable {unit other : Char} {cs rest : List Char}

/-! ## Counts -/

theorem Digits.takeWhile (n : Digits) (stop : isDigit unit = false) (rest : List Char) :
    (n.chars ++ unit :: rest).takeWhile isDigit = n.chars := by
  rw [List.takeWhile_append_of_pos n.areDigits, List.takeWhile_cons_of_neg (Bool.eq_false_iff.mp stop), List.append_nil]

theorem Digits.dropWhile (n : Digits) (stop : isDigit unit = false) (rest : List Char) :
    (n.chars ++ unit :: rest).dropWhile isDigit = unit :: rest := by
  rw [List.dropWhile_append_of_pos n.areDigits, List.dropWhile_cons_of_neg (Bool.eq_false_iff.mp stop)]

theorem Digits.isEmpty (n : Digits) : n.chars.isEmpty = false := List.isEmpty_eq_false_iff.mpr n.nonempty

/-- The digits that a text begins with, if it does. -/
theorem exists_digits (cs : List Char) (filled : ¬(cs.takeWhile isDigit).isEmpty = true) :
    ∃ n : Digits, cs = n.chars ++ cs.dropWhile isDigit :=
  ⟨⟨cs.takeWhile isDigit, fun isNil => filled (List.isEmpty_iff.mpr isNil), fun _ => List.mem_takeWhile_imp⟩,
    List.takeWhile_append_dropWhile.symm⟩

/-- A count of a unit is digits and the unit. -/
theorem count?_append (stop : isDigit other = false) (n : Digits) (rest : List Char) :
    count? unit (n.chars ++ other :: rest) = if other = unit then some rest else none := by
  simp only [count?, n.takeWhile stop, n.isEmpty, n.dropWhile stop]
  rfl

theorem exists_of_count? (found : count? unit cs = some rest) : ∃ n : Digits, cs = n.chars ++ unit :: rest := by
  rw [count?] at found
  split at found
  · cases found
  · rename_i filled
    rcases exists_digits cs filled with ⟨n, whole⟩
    split at found
    · rename_i behind
      rcases Option.ite_none_right_eq_some.mp found with ⟨same, left⟩
      cases left
      exact ⟨n, same ▸ behind ▸ whole⟩
    · cases found

theorem count?_of_head (notDigit : ∀ c ∈ cs.head?, isDigit c = false) : count? unit cs = none := by
  have noDigits : cs.takeWhile isDigit = [] := by
    cases cs with
    | nil => rfl
    | cons c rest => exact List.takeWhile_cons_of_neg (Bool.eq_false_iff.mp (notDigit c rfl))
  rw [count?, noDigits]
  rfl

/-- Behind a count of another unit, or behind none, there is a count only if it is there without it. -/
theorem count?_countText_append (stop : isDigit other = false) (ne : other ≠ unit) (n : Option Digits)
    (absent : count? unit rest = none) : count? unit (countText other n ++ rest) = none := by
  cases n with
  | none => exact absent
  | some n =>
      rw [countText, List.append_assoc, List.singleton_append, count?_append stop, if_neg ne]

theorem exists_of_seconds? (found : seconds? cs = some rest) : ∃ s : Seconds, cs = secondsText (some s) ++ rest := by
  rw [seconds?] at found
  split at found
  · cases found
  · rename_i filled
    rcases exists_digits cs filled with ⟨n, whole⟩
    split at found
    · rename_i fraction behind
      rcases exists_of_count? found with ⟨m, rfl⟩
      exact ⟨⟨n, some m⟩, by rw [whole, behind]; simp [secondsText]⟩
    · rename_i behind
      cases found
      exact ⟨⟨n, none⟩, by rw [whole, behind]; simp [secondsText]⟩
    · cases found

theorem seconds?_secondsText (s : Seconds) (rest : List Char) :
    seconds? (secondsText (some s) ++ rest) = some rest := by
  rcases s with ⟨whole, _ | fraction⟩
  · have text : secondsText (some ⟨whole, none⟩) ++ rest = whole.chars ++ 'S' :: rest := by simp [secondsText]
    have stop : isDigit 'S' = false := by decide
    simp only [text, seconds?, whole.takeWhile stop, whole.isEmpty, whole.dropWhile stop]
    rfl
  · have text : secondsText (some ⟨whole, some fraction⟩) ++ rest =
        whole.chars ++ '.' :: (fraction.chars ++ 'S' :: rest) := by simp [secondsText]
    have stop : isDigit '.' = false := by decide
    have behind : count? 'S' (fraction.chars ++ 'S' :: rest) = some rest :=
      (count?_append (by decide) fraction rest).trans (if_pos rfl)
    simp only [text, seconds?, whole.takeWhile stop, whole.isEmpty, whole.dropWhile stop, behind]
    rfl

/-- Seconds are no count of another unit. -/
theorem count?_secondsText (ne : 'S' ≠ unit) (noPoint : '.' ≠ unit) (s : Option Seconds) :
    count? unit (secondsText s) = none := by
  rcases s with _ | ⟨whole, _ | fraction⟩
  · rfl
  · rw [secondsText, count?_append (by decide), if_neg ne]
  · rw [secondsText, count?_append (by decide), if_neg noPoint]

/-! ## Parts that may be left out -/

theorem skip_countText (stop : isDigit unit = false) (n : Option Digits) (absent : count? unit rest = none) :
    skip (count? unit) (countText unit n ++ rest) = rest := by
  cases n with
  | none => rw [countText, List.nil_append, skip, absent, Option.getD_none]
  | some n =>
      rw [countText, List.append_assoc, List.singleton_append, skip, count?_append stop, if_pos rfl, Option.getD_some]

theorem skip_secondsText (s : Option Seconds) : skip seconds? (secondsText s) = [] := by
  cases s with
  | none => rfl
  | some s =>
      have read := seconds?_secondsText s []
      rw [List.append_nil] at read
      rw [skip, read, Option.getD_some]

/-- What is passed over is a count or nothing. -/
theorem exists_count (unit : Char) (cs : List Char) : ∃ n, cs = countText unit n ++ skip (count? unit) cs := by
  cases found : count? unit cs with
  | none => exact ⟨none, by rw [skip, found]; rfl⟩
  | some rest =>
      rcases exists_of_count? found with ⟨n, whole⟩
      refine ⟨some n, ?_⟩
      rw [skip, found, Option.getD_some, countText, List.append_assoc, List.singleton_append]
      exact whole

theorem exists_seconds (cs : List Char) : ∃ s, cs = secondsText s ++ skip seconds? cs := by
  cases found : seconds? cs with
  | none => exact ⟨none, by rw [skip, found]; rfl⟩
  | some rest =>
      rcases exists_of_seconds? found with ⟨s, whole⟩
      refine ⟨some s, ?_⟩
      rw [skip, found, Option.getD_some]
      exact whole

theorem exists_days (cs : List Char) : ∃ years months days,
    cs = countText 'Y' years ++ (countText 'M' months ++ (countText 'D' days ++ skipDays cs)) := by
  rcases exists_count 'Y' cs with ⟨years, first⟩
  rcases exists_count 'M' (skip (count? 'Y') cs) with ⟨months, second⟩
  rcases exists_count 'D' (skip (count? 'M') (skip (count? 'Y') cs)) with ⟨days, third⟩
  refine ⟨years, months, days, ?_⟩
  rw [skipDays, ← third, ← second]
  exact first

theorem exists_clock (cs : List Char) : ∃ hours minutes seconds,
    cs = countText 'H' hours ++ (countText 'M' minutes ++ (secondsText seconds ++ skipClock cs)) := by
  rcases exists_count 'H' cs with ⟨hours, first⟩
  rcases exists_count 'M' (skip (count? 'H') cs) with ⟨minutes, second⟩
  rcases exists_seconds (skip (count? 'M') (skip (count? 'H') cs)) with ⟨seconds, third⟩
  refine ⟨hours, minutes, seconds, ?_⟩
  rw [skipClock, ← third, ← second]
  exact first

/-- The counts of a clock are passed over, and nothing else. -/
theorem skipClock_text (c : Clock) : skipClock c.text = [] := by
  have noMinutes : count? 'M' (secondsText c.seconds) = none := count?_secondsText (by decide) (by decide) c.seconds
  have noHours : count? 'H' (countText 'M' c.minutes ++ secondsText c.seconds) = none :=
    count?_countText_append (by decide) (by decide) c.minutes (count?_secondsText (by decide) (by decide) c.seconds)
  rw [skipClock, Clock.text, skip_countText (by decide) c.hours noHours, skip_countText (by decide) c.minutes noMinutes,
    skip_secondsText]

theorem count?_clockText (unit : Char) (c : Option Clock) : count? unit (clockText c) = none := by
  apply count?_of_head
  cases c with
  | none => exact nofun
  | some c =>
      intro first here
      cases here
      decide

/-- The counts of days and longer are passed over, and nothing else. -/
theorem skipDays_body (d : Duration) : skipDays d.body = clockText d.clock := by
  have noDays := count?_clockText 'D' d.clock
  have noMonths : count? 'M' (countText 'D' d.days ++ clockText d.clock) = none :=
    count?_countText_append (by decide) (by decide) d.days (count?_clockText 'M' d.clock)
  have noYears : count? 'Y' (countText 'M' d.months ++ (countText 'D' d.days ++ clockText d.clock)) = none := by
    apply count?_countText_append (by decide) (by decide)
    exact count?_countText_append (by decide) (by decide) d.days (count?_clockText 'Y' d.clock)
  rw [skipDays, Duration.body, skip_countText (by decide) d.years noYears,
    skip_countText (by decide) d.months noMonths, skip_countText (by decide) d.days noDays]

/-! ## Durations -/

theorem countText_eq_nil_iff {n : Option Digits} : countText unit n = [] ↔ n = none := by
  cases n <;> simp [countText]

theorem secondsText_eq_nil_iff {s : Option Seconds} : secondsText s = [] ↔ s = none := by
  rcases s with _ | ⟨whole, _ | fraction⟩ <;> simp [secondsText]

theorem clockText_eq_nil_iff {c : Option Clock} : clockText c = [] ↔ c = none := by
  cases c <;> simp [clockText]

theorem Clock.text_ne_nil (c : Clock) : c.text ≠ [] := by
  have counted := c.hasCount
  simp only [Clock.text, ne_eq, List.append_eq_nil_iff, countText_eq_nil_iff, secondsText_eq_nil_iff]
  rintro ⟨noHours, noMinutes, noSeconds⟩
  simp [noHours, noMinutes, noSeconds] at counted

theorem Duration.body_ne_nil (d : Duration) : d.body ≠ [] := by
  have counted := d.hasCount
  simp only [Duration.body, ne_eq, List.append_eq_nil_iff, countText_eq_nil_iff, clockText_eq_nil_iff]
  rintro ⟨noYears, noMonths, noDays, noClock⟩
  simp [noYears, noMonths, noDays, noClock] at counted

/-- A text without the sign that it may begin with. -/
def unsigned (cs : List Char) : List Char :=
  match cs with
  | '-' :: rest => rest
  | _ => cs

/-- Whether a text may stand behind the `P` of a duration. -/
def isBody (body : List Char) : Bool :=
  match skipDays body with
  | [] => !body.isEmpty
  | 'T' :: clock => !clock.isEmpty && (skipClock clock).isEmpty
  | _ => false

theorem isDuration_eq (cs : List Char) :
    isDuration cs = match unsigned cs with | 'P' :: body => isBody body | _ => false := rfl

theorem unsigned_text (d : Duration) : unsigned d.text = 'P' :: d.body := by
  rw [Duration.text]
  cases d.negative <;> rfl

theorem exists_sign (cs : List Char) : ∃ negative : Bool, cs = (if negative then ['-'] else []) ++ unsigned cs := by
  unfold unsigned
  split
  · exact ⟨true, rfl⟩
  · exact ⟨false, rfl⟩

theorem isBody_body (d : Duration) : isBody d.body = true := by
  have bodyFilled : d.body.isEmpty = false := List.isEmpty_eq_false_iff.mpr d.body_ne_nil
  rw [isBody, skipDays_body]
  cases d.clock with
  | none => simp [clockText, bodyFilled]
  | some c =>
      have clockSome : c.text.isEmpty = false := List.isEmpty_eq_false_iff.mpr c.text_ne_nil
      simp [clockText, skipClock_text, clockSome]

theorem exists_of_isBody {body : List Char} (is : isBody body = true) (negative : Bool) :
    ∃ d : Duration, d.negative = negative ∧ d.body = body := by
  rcases exists_days body with ⟨years, months, days, whole⟩
  rw [isBody] at is
  split at is
  · rename_i ends
    rw [ends] at whole
    refine ⟨⟨negative, years, months, days, none, ?_⟩, rfl, whole.symm⟩
    by_contra countless
    simp only [not_or, Option.not_isSome_iff_eq_none, Option.isSome_none] at countless
    simp [whole, countless, countText] at is
  · rename_i clock behind
    rcases Bool.and_eq_true_iff.mp is with ⟨clockFilled, all⟩
    rcases exists_clock clock with ⟨hours, minutes, seconds, text⟩
    rw [List.isEmpty_iff.mp all, List.append_nil] at text
    have clockSome : hours.isSome ∨ minutes.isSome ∨ seconds.isSome := by
      by_contra countless
      simp only [not_or, Option.not_isSome_iff_eq_none] at countless
      simp [text, countless, countText, secondsText] at clockFilled
    rw [behind, text] at whole
    exact ⟨⟨negative, years, months, days, some ⟨hours, minutes, seconds, clockSome⟩, by simp⟩, rfl, whole.symm⟩
  · cases is

/-- A text is recognised exactly if it is that of a duration. -/
theorem isDuration_iff (cs : List Char) : isDuration cs = true ↔ ∃ d : Duration, d.text = cs := by
  rw [isDuration_eq]
  constructor
  · intro is
    split at is
    · rename_i body behind
      rcases exists_sign cs with ⟨negative, whole⟩
      rcases exists_of_isBody is negative with ⟨d, rfl, rfl⟩
      rw [behind] at whole
      exact ⟨d, whole.symm⟩
    · cases is
  · rintro ⟨d, rfl⟩
    rw [unsigned_text]
    exact isBody_body d

end Time
end ProductGraph
