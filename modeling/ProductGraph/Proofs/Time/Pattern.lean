import ProductGraph.Pattern.Meaning
import ProductGraph.Proofs.Pattern.Reach
import ProductGraph.Proofs.Time.Duration

namespace ProductGraph
namespace Time

/-!
# Durations by a pattern

Durations may be told by a pattern that has a part for each count, and each of these parts may be left out.  So the
pattern admits some texts that say nothing, as they have no count at all or none behind the `T`.  Such a text ends in
one of the two marks, and no duration does.  Together with a look at the last character, the pattern admits the
durations and nothing else.
-/

/-- The pattern of durations. -/
def patternText : String := "^-?P(\\d+Y)?(\\d+M)?(\\d+D)?(T(\\d+H)?(\\d+M)?(\\d+(\\.\\d+)?S)?)?$"

/-! ## Its parts -/

open Pattern (single optional someOf mem_language_single mem_language_optional mem_language_someOf)

def digitsPattern : Pattern := someOf Unicode.digitRanges

def countPattern (unit : Char) : Pattern := optional (.group (.sequence digitsPattern (single unit)))

def fractionPattern : Pattern := optional (.group (.sequence (single '.') digitsPattern))

def secondsPattern : Pattern := optional (.group (.sequence digitsPattern (.sequence fractionPattern (single 'S'))))

def clockPattern : Pattern :=
  optional (.group (.sequence (single 'T')
    (.sequence (countPattern 'H') (.sequence (countPattern 'M') secondsPattern))))

/-- What a duration is from its sign to its end. -/
def wholePattern : Pattern :=
  .sequence (optional (single '-')) (.sequence (single 'P') (.sequence (countPattern 'Y') (.sequence (countPattern 'M')
    (.sequence (countPattern 'D') (.sequence clockPattern (.look .textEnd))))))

set_option maxRecDepth 20000 in
theorem read?_patternText : Pattern.read? patternText = some (.sequence (.look .textStart) wholePattern) := rfl

variable {text : List Char}

theorem mem_language_digits : text ∈ digitsPattern.language ↔ ∃ n : Digits, n.chars = text := by
  rw [digitsPattern, mem_language_someOf]
  constructor
  · rintro ⟨nonempty, areDigits⟩
    exact ⟨⟨text, nonempty, areDigits⟩, rfl⟩
  · rintro ⟨n, rfl⟩
    exact ⟨n.nonempty, n.areDigits⟩

theorem mem_language_count {unit : Char} :
    text ∈ (countPattern unit).language ↔ ∃ n, countText unit n = text := by
  rw [countPattern, mem_language_optional, Option.exists]
  refine or_congr eq_comm ?_
  simp [Pattern.language, Language.mem_mul, mem_language_digits, mem_language_single, countText]

theorem mem_language_fraction :
    text ∈ fractionPattern.language ↔ text = [] ∨ ∃ n : Digits, '.' :: n.chars = text := by
  rw [fractionPattern, mem_language_optional]
  refine or_congr_right ?_
  simp [Pattern.language, Language.mem_mul, mem_language_digits, mem_language_single]

theorem mem_language_seconds : text ∈ secondsPattern.language ↔ ∃ s, secondsText s = text := by
  rw [secondsPattern, mem_language_optional, Option.exists]
  refine or_congr eq_comm ?_
  simp only [Pattern.language, Language.mem_mul, mem_language_digits, mem_language_single, mem_language_fraction]
  constructor
  · rintro ⟨_, ⟨n, rfl⟩, _, ⟨_, fraction, _, rfl, rfl⟩, rfl⟩
    rcases fraction with rfl | ⟨m, rfl⟩
    · exact ⟨⟨n, none⟩, rfl⟩
    · exact ⟨⟨n, some m⟩, rfl⟩
  · rintro ⟨⟨n, _ | m⟩, rfl⟩
    · exact ⟨n.chars, ⟨n, rfl⟩, ['S'], ⟨[], .inl rfl, ['S'], rfl, rfl⟩, rfl⟩
    · exact ⟨n.chars, ⟨n, rfl⟩, _, ⟨'.' :: m.chars, .inr ⟨m, rfl⟩, ['S'], rfl, rfl⟩, rfl⟩

/-- Behind the `T` of a clock there may be no count. -/
theorem mem_language_clock : text ∈ clockPattern.language ↔ text = [] ∨ ∃ hours minutes seconds,
    'T' :: (countText 'H' hours ++ (countText 'M' minutes ++ secondsText seconds)) = text := by
  rw [clockPattern, mem_language_optional]
  refine or_congr_right ?_
  simp [Pattern.language, Language.mem_mul, mem_language_single, mem_language_count, mem_language_seconds]

theorem mem_language_sign : text ∈ (optional (single '-')).language ↔
    ∃ negative : Bool, (if negative then ['-'] else []) = text := by
  rw [mem_language_optional, mem_language_single, Bool.exists_bool]
  exact or_congr eq_comm eq_comm

/-- What the pattern admits: a sign and counts, and a clock, any of which may be left out. -/
theorem matchesText_pattern (s : String) :
    (Pattern.sequence (.look .textStart) wholePattern).matchesText s = true ↔
      ∃ (negative : Bool) (years months days : Option Digits), ∃ clock ∈ clockPattern.language,
        (if negative then ['-'] else []) ++
          'P' :: (countText 'Y' years ++ (countText 'M' months ++ (countText 'D' days ++ clock))) = s.toList := by
  -- None of the parts looks at anything, and so the way from the start to the end passes their languages.
  have clock := Pattern.passesRest_textEnd.sequence (p := clockPattern) rfl
  have days := (clock.sequence (p := countPattern 'D') rfl).sequence (p := countPattern 'M') rfl
  have years := (days.sequence (p := countPattern 'Y') rfl).sequence (p := single 'P') rfl
  have whole := years.sequence (p := optional (single '-')) rfl
  refine (whole.matchesText_iff s).trans ?_
  simp [Language.mem_mul, mem_language_sign, mem_language_single, mem_language_count]

/-! ## The last character -/

/-- A text that ends in none of the marks that have to be followed by a count. -/
def EndsUnmarked (text : List Char) : Prop := text.getLast? ≠ some 'P' ∧ text.getLast? ≠ some 'T'

instance : DecidablePred EndsUnmarked := fun _ => inferInstanceAs (Decidable (_ ∧ _))

namespace EndsUnmarked

variable {front back : List Char} {unit : Char}

theorem append (first : EndsUnmarked front) (second : EndsUnmarked back) : EndsUnmarked (front ++ back) := by
  rw [EndsUnmarked, List.getLast?_append]
  cases last : back.getLast? with
  | none => exact first
  | some c =>
      rw [Option.some_or, ← last]
      exact second

/-- Only the last character counts. -/
theorem append_iff (nonempty : back ≠ []) (front : List Char) : EndsUnmarked (front ++ back) ↔ EndsUnmarked back := by
  rw [EndsUnmarked, EndsUnmarked, List.getLast?_append_of_ne_nil front nonempty]

theorem behind (ends : EndsUnmarked back) (nonempty : back ≠ []) (front : List Char) : EndsUnmarked (front ++ back) :=
  (append_iff nonempty front).mpr ends

theorem countText (stop : EndsUnmarked [unit]) (n : Option Digits) : EndsUnmarked (countText unit n) := by
  cases n with
  | none => exact ⟨nofun, nofun⟩
  | some n => exact stop.behind (List.cons_ne_nil unit []) n.chars

theorem secondsText (s : Option Seconds) : EndsUnmarked (secondsText s) := by
  have stop : EndsUnmarked ['S'] := by decide
  rcases s with _ | ⟨whole, _ | fraction⟩
  · decide
  · exact stop.behind (by simp) whole.chars
  · exact (stop.behind (by simp) ('.' :: fraction.chars)).behind (by simp) whole.chars

theorem clockText (c : Option Clock) : EndsUnmarked (clockText c) := by
  cases c with
  | none => decide
  | some c =>
      have counts : EndsUnmarked c.text :=
        (countText (by decide) c.hours).append ((countText (by decide) c.minutes).append (secondsText c.seconds))
      exact counts.behind c.text_ne_nil ['T']

theorem durationText (d : Duration) : EndsUnmarked d.text := by
  have body : EndsUnmarked d.body :=
    (countText (by decide) d.years).append ((countText (by decide) d.months).append
      ((countText (by decide) d.days).append (clockText d.clock)))
  exact (body.behind d.body_ne_nil ['P']).behind (List.cons_ne_nil 'P' d.body) _

end EndsUnmarked

/-- The text of a clock without counts ends in a mark. -/
theorem Clock.exists_of_endsUnmarked {hours minutes : Option Digits} {seconds : Option Seconds}
    (ends : EndsUnmarked ('T' :: (countText 'H' hours ++ (countText 'M' minutes ++ secondsText seconds)))) :
    ∃ c : Clock,
      clockText (some c) = 'T' :: (countText 'H' hours ++ (countText 'M' minutes ++ secondsText seconds)) := by
  refine ⟨⟨hours, minutes, seconds, ?_⟩, rfl⟩
  by_contra countless
  simp only [not_or, Option.not_isSome_iff_eq_none] at countless
  rcases countless with ⟨rfl, rfl, rfl⟩
  exact absurd ends (by decide)

/-- The text of a duration without counts ends in a mark. -/
theorem Duration.exists_of_endsUnmarked (negative : Bool) {years months days : Option Digits} (clock : Option Clock)
    (ends : EndsUnmarked
      ('P' :: (countText 'Y' years ++ (countText 'M' months ++ (countText 'D' days ++ clockText clock))))) :
    ∃ d : Duration, d.text = (if negative then ['-'] else []) ++
      'P' :: (countText 'Y' years ++ (countText 'M' months ++ (countText 'D' days ++ clockText clock))) := by
  refine ⟨⟨negative, years, months, days, clock, ?_⟩, rfl⟩
  by_contra countless
  simp only [not_or, Option.not_isSome_iff_eq_none] at countless
  rcases countless with ⟨rfl, rfl, rfl, rfl⟩
  exact absurd ends (by decide)

/-! ## Durations -/

theorem one_lt_utf8ByteSize {s : String} {c : Char} {rest : List Char} (whole : c :: rest = s.toList)
    (nonempty : rest ≠ []) : 1 < s.utf8ByteSize := by
  have parts : s = String.singleton c ++ String.ofList rest := by
    rw [← String.toList_inj, ← whole]
    simp
  have behind : (String.ofList rest).utf8ByteSize ≠ 0 := by
    simpa using nonempty
  have first := c.utf8Size_pos
  rw [parts, String.utf8ByteSize_append, String.utf8ByteSize_singleton]
  omega

/-- A text is a duration exactly if the pattern of durations matches it and no count is missing at its end. -/
theorem isDuration_iff_pattern (s : String) : isDuration s.toList = true ↔
    (Pattern.read? patternText).any (fun p => p.matchesText s) = true ∧ 1 < s.utf8ByteSize ∧
      s.toList.getLast? ≠ some 'P' ∧ s.toList.getLast? ≠ some 'T' := by
  rw [read?_patternText, Option.any_some, matchesText_pattern, isDuration_iff]
  constructor
  · rintro ⟨d, whole⟩
    have ends : EndsUnmarked s.toList := whole ▸ .durationText d
    refine ⟨⟨d.negative, d.years, d.months, d.days, clockText d.clock, ?_, whole⟩, ?_, ends⟩
    · rw [mem_language_clock]
      cases d.clock with
      | none => exact .inl rfl
      | some c => exact .inr ⟨c.hours, c.minutes, c.seconds, rfl⟩
    · rw [Duration.text] at whole
      cases negative : d.negative with
      | false =>
          rw [negative] at whole
          exact one_lt_utf8ByteSize whole d.body_ne_nil
      | true =>
          rw [negative] at whole
          exact one_lt_utf8ByteSize whole (List.cons_ne_nil 'P' d.body)
  · rintro ⟨⟨negative, years, months, days, clock, member, whole⟩, -, ends⟩
    have unsigned := (EndsUnmarked.append_iff (List.cons_ne_nil 'P' _) _).mp (whole ▸ ends)
    rcases mem_language_clock.mp member with rfl | ⟨hours, minutes, seconds, rfl⟩
    · rcases Duration.exists_of_endsUnmarked negative none unsigned with ⟨d, text⟩
      exact ⟨d, text.trans whole⟩
    · have behind := (EndsUnmarked.append_iff (List.cons_ne_nil 'T' _)
        ('P' :: (countText 'Y' years ++ (countText 'M' months ++ countText 'D' days)))).mp (by simpa using unsigned)
      rcases Clock.exists_of_endsUnmarked behind with ⟨c, text⟩
      rw [← text] at unsigned whole
      rcases Duration.exists_of_endsUnmarked negative (some c) unsigned with ⟨d, text⟩
      exact ⟨d, text.trans whole⟩

end Time

/-- A text is a duration exactly if, blanks around it apart, it is the text of one: an optional sign, `P`, and counts of
years, months and days, each at most once and in this order, and then maybe `T` with counts of hours, minutes and
seconds in the same way, one of these at least; and one count at least in all.  Digits may be those of any script, and
the seconds may have a fraction.  The pattern of durations with a look at the last character says the same. -/
theorem Datatype.admits_duration_iff (text : String) :
    (Datatype.duration.admits text = true ↔ ∃ d : Time.Duration, d.text = Text.trim text.toList) ∧
      (Datatype.duration.admits text = true ↔
        (Pattern.read? Time.patternText).any (fun p => p.matchesText (Text.trimmed text)) = true ∧
          1 < (Text.trimmed text).utf8ByteSize ∧ (Text.trimmed text).toList.getLast? ≠ some 'P' ∧
          (Text.trimmed text).toList.getLast? ≠ some 'T') := by
  refine ⟨Time.isDuration_iff _, ?_⟩
  rw [← Time.isDuration_iff_pattern, Text.trimmed, String.toList_ofList]
  rfl

end ProductGraph
