import Mathlib.Computability.Language
import ProductGraph.Pattern.Basic

namespace ProductGraph

/-!
# The language of a pattern

The meaning of a pattern takes places of a text to places of it.  Here this is said of two places: a pattern leads from
the one to the other, and on the way it passes the characters between them.

A pattern that looks at nothing passes the texts of a language, and from which place it does so makes no difference.
The languages are put together as the patterns are: a sequence is a product, a choice a sum, and a repetition a number
of powers.  A pattern that looks around passes no other texts than these, but it may pass them at some places only.
-/

namespace Cursor

/-! ## Places of a text -/

/-- From a place some characters are passed, up to another. -/
structure Passes (x : Cursor) (taken : List Char) (y : Cursor) : Prop where
  rest : x.rest = taken ++ y.rest
  index : y.index = x.index + taken.length
  previous : y.previous = taken.getLast?.or x.previous

variable {x y z : Cursor} {before behind : List Char}

namespace Passes

theorem refl (x : Cursor) : Passes x [] x := ⟨rfl, rfl, rfl⟩

theorem append (first : Passes x before y) (second : Passes y behind z) : Passes x (before ++ behind) z where
  rest := by rw [first.rest, second.rest, List.append_assoc]
  index := by rw [second.index, first.index, List.length_append, Nat.add_assoc]
  previous := by rw [second.previous, first.previous, List.getLast?_append, Option.or_assoc]

theorem exists_between (passes : Passes x (before ++ behind) z) : ∃ y, Passes x before y ∧ Passes y behind z := by
  refine ⟨⟨x.index + before.length, before.getLast?.or x.previous, behind ++ z.rest⟩, ⟨?_, rfl, rfl⟩, ⟨rfl, ?_, ?_⟩⟩
  · rw [passes.rest, List.append_assoc]
  · rw [passes.index, List.length_append, Nat.add_assoc]
  · rw [passes.previous, List.getLast?_append, Option.or_assoc]

/-- Places at one index are one, if both are reached from one place. -/
theorem eq_of_index_eq (first : Passes x before y) (second : Passes x behind z) (same : y.index = z.index) : y = z := by
  have lengths : before.length = behind.length := by
    have indices := same
    rw [first.index, second.index] at indices
    exact Nat.add_left_cancel indices
  rcases List.append_inj (first.rest.symm.trans second.rest) lengths with ⟨rfl, rest⟩
  rcases y with ⟨index, previous, left⟩
  rcases z with ⟨index', previous', left'⟩
  cases same
  cases rest
  cases first.previous.trans second.previous.symm
  rfl

theorem nil_iff : Passes x [] y ↔ x = y := by
  constructor
  · intro passes
    exact (refl x).eq_of_index_eq passes passes.index.symm
  · rintro rfl
    exact refl x

theorem index_le (passes : Passes x before y) : x.index ≤ y.index := passes.index ▸ Nat.le_add_right _ _

/-- Nothing is passed, or less is left. -/
theorem eq_or_length_lt (passes : Passes x before y) : x = y ∨ y.rest.length < x.rest.length := by
  cases before with
  | nil => exact .inl (nil_iff.mp passes)
  | cons c taken =>
      right
      rw [passes.rest, List.length_append, List.length_cons]
      omega

end Passes

end Cursor

open Cursor (Passes)

namespace Pattern

/-! ## What a pattern leads to -/

/-- So many steps, each as a relation says. -/
def Steps (step : Cursor → Cursor → Prop) : Nat → Cursor → Cursor → Prop
  | 0, x, y => x = y
  | n + 1, x, y => ∃ z, step x z ∧ Steps step n z y

/-- A pattern leads from one place to another.  An upper bound of a repetition that is below the lower one says nothing
more than this one. -/
def Leads : Pattern → Cursor → Cursor → Prop
  | empty, x, y => x = y
  | chars set, x, y => ∃ c, set.has c = true ∧ Passes x [c] y
  | look condition, x, y => condition.holds x = true ∧ x = y
  | group inside, x, y => Leads inside x y
  | sequence first second, x, y => ∃ z, Leads first x z ∧ Leads second z y
  | choice first second, x, y => Leads first x y ∨ Leads second x y
  | repeated least most inside, x, y =>
    ∃ n, least ≤ n ∧ (∀ bound ∈ most, n ≤ max least bound) ∧ Steps (Leads inside) n x y

/-! ## Its language -/

/-- The texts that a pattern passes, whatever it looks at. -/
def language : Pattern → Language Char
  | empty => 1
  | chars set => {text | ∃ c, set.has c = true ∧ text = [c]}
  | look _ => 1
  | group inside => language inside
  | sequence first second => language first * language second
  | choice first second => language first + language second
  | repeated least most inside =>
    {text | ∃ n, least ≤ n ∧ (∀ bound ∈ most, n ≤ max least bound) ∧ text ∈ language inside ^ n}

/-- Whether a pattern looks at nothing. -/
def isPlain : Pattern → Bool
  | empty | chars _ => true
  | look _ => false
  | group inside => isPlain inside
  | sequence first second => isPlain first && isPlain second
  | choice first second => isPlain first && isPlain second
  | repeated _ _ inside => isPlain inside

variable {p : Pattern} {x y z : Cursor} {taken text : List Char} {L : Language Char} {R : Cursor → Cursor → Prop}

theorem exists_mem_pow_of_steps (passes : ∀ {x y}, R x y → ∃ taken ∈ L, Passes x taken y) {n : Nat}
    (steps : Steps R n x y) : ∃ taken ∈ L ^ n, Passes x taken y := by
  induction n generalizing x with
  | zero => exact ⟨[], Language.nil_mem_one, Passes.nil_iff.mpr steps⟩
  | succ n ih =>
      rcases steps with ⟨z, first, more⟩
      rcases passes first with ⟨before, inFirst, toMiddle⟩
      rcases ih more with ⟨behind, inMore, fromMiddle⟩
      refine ⟨before ++ behind, ?_, toMiddle.append fromMiddle⟩
      rw [pow_succ']
      exact Language.append_mem_mul inFirst inMore

theorem steps_of_mem_pow (leads : ∀ {x y taken}, taken ∈ L → Passes x taken y → R x y) {n : Nat}
    (member : taken ∈ L ^ n) (passes : Passes x taken y) : Steps R n x y := by
  induction n generalizing x taken with
  | zero =>
      cases (Language.mem_one taken).mp member
      exact Passes.nil_iff.mp passes
  | succ n ih =>
      rw [pow_succ'] at member
      rcases Language.mem_mul.mp member with ⟨before, inFirst, behind, inMore, rfl⟩
      rcases passes.exists_between with ⟨z, toMiddle, fromMiddle⟩
      exact ⟨z, leads inFirst toMiddle, ih inMore fromMiddle⟩

/-- Every pattern passes texts of its language only. -/
theorem exists_mem_language (leads : p.Leads x y) : ∃ taken ∈ p.language, Passes x taken y := by
  induction p generalizing x y with
  | empty => exact ⟨[], Language.nil_mem_one, Passes.nil_iff.mpr leads⟩
  | chars set =>
      rcases leads with ⟨c, has, passes⟩
      exact ⟨[c], ⟨c, has, rfl⟩, passes⟩
  | look condition => exact ⟨[], Language.nil_mem_one, Passes.nil_iff.mpr leads.2⟩
  | group inside ih => exact ih leads
  | sequence first second ihFirst ihSecond =>
      rcases leads with ⟨z, leadsFirst, leadsSecond⟩
      rcases ihFirst leadsFirst with ⟨before, inFirst, toMiddle⟩
      rcases ihSecond leadsSecond with ⟨behind, inSecond, fromMiddle⟩
      exact ⟨before ++ behind, Language.append_mem_mul inFirst inSecond, toMiddle.append fromMiddle⟩
  | choice first second ihFirst ihSecond =>
      rcases leads with leadsFirst | leadsSecond
      · rcases ihFirst leadsFirst with ⟨taken, inFirst, passes⟩
        exact ⟨taken, .inl inFirst, passes⟩
      · rcases ihSecond leadsSecond with ⟨taken, inSecond, passes⟩
        exact ⟨taken, .inr inSecond, passes⟩
  | repeated least most inside ih =>
      rcases leads with ⟨n, le, bounded, steps⟩
      rcases exists_mem_pow_of_steps ih steps with ⟨taken, member, passes⟩
      exact ⟨taken, ⟨n, le, bounded, member⟩, passes⟩

/-- A pattern that looks at nothing passes every text of its language, wherever it stands. -/
theorem leads_of_mem_language (plain : p.isPlain = true) (member : taken ∈ p.language) (passes : Passes x taken y) :
    p.Leads x y := by
  induction p generalizing x y taken with
  | empty =>
      cases (Language.mem_one taken).mp member
      exact Passes.nil_iff.mp passes
  | chars set =>
      rcases member with ⟨c, has, rfl⟩
      exact ⟨c, has, passes⟩
  | look condition => cases plain
  | group inside ih => exact ih plain member passes
  | sequence first second ihFirst ihSecond =>
      rcases Bool.and_eq_true_iff.mp plain with ⟨plainFirst, plainSecond⟩
      rcases Language.mem_mul.mp member with ⟨before, inFirst, behind, inSecond, rfl⟩
      rcases passes.exists_between with ⟨z, toMiddle, fromMiddle⟩
      exact ⟨z, ihFirst plainFirst inFirst toMiddle, ihSecond plainSecond inSecond fromMiddle⟩
  | choice first second ihFirst ihSecond =>
      rcases Bool.and_eq_true_iff.mp plain with ⟨plainFirst, plainSecond⟩
      rcases (Language.mem_add _ _ taken).mp member with inFirst | inSecond
      · exact .inl (ihFirst plainFirst inFirst passes)
      · exact .inr (ihSecond plainSecond inSecond passes)
  | repeated least most inside ih =>
      rcases member with ⟨n, le, bounded, member⟩
      exact ⟨n, le, bounded, steps_of_mem_pow (fun member passes => ih plain member passes) member passes⟩

/-! ## Common patterns -/

def single (c : Char) : Pattern := chars (CharSet.single c)

def optional (p : Pattern) : Pattern := repeated 0 (some 1) p

/-- Characters of a set, one at least. -/
def someOf (set : CharSet) : Pattern := repeated 1 none (chars set)

theorem mem_language_single {c : Char} : text ∈ (single c).language ↔ text = [c] := by
  have has (d : Char) : (CharSet.single c).has d = true ↔ d = c := by
    rw [← Char.toNat_inj]
    simp only [CharSet.has, CharSet.single, Unicode.Ranges.contains, Bool.or_false]
    grind
  constructor
  · rintro ⟨d, is, rfl⟩
    rw [(has d).mp is]
  · rintro rfl
    exact ⟨c, (has c).mpr rfl, rfl⟩

theorem mem_language_optional : text ∈ (optional p).language ↔ text = [] ∨ text ∈ p.language := by
  constructor
  · rintro ⟨n, -, bounded, member⟩
    have le : n ≤ 1 := bounded 1 rfl
    rcases Nat.le_one_iff_eq_zero_or_eq_one.mp le with rfl | rfl
    · exact .inl ((Language.mem_one text).mp member)
    · exact .inr (pow_one p.language ▸ member)
  · rintro (rfl | member)
    · exact ⟨0, Nat.le_refl 0, fun _ _ => Nat.zero_le _, Language.nil_mem_one⟩
    · refine ⟨1, Nat.zero_le 1, fun bound same => ?_, (pow_one p.language).symm ▸ member⟩
      cases same
      exact Nat.le_refl 1

theorem mem_pow_language_chars {set : CharSet} {n : Nat} :
    text ∈ (chars set).language ^ n ↔ text.length = n ∧ ∀ c ∈ text, set.has c = true := by
  induction n generalizing text with
  | zero =>
      rw [pow_zero, Language.mem_one, List.length_eq_zero_iff]
      refine ⟨?_, And.left⟩
      rintro rfl
      exact ⟨rfl, fun _ member => absurd member List.not_mem_nil⟩
  | succ n ih =>
      rw [pow_succ', Language.mem_mul]
      constructor
      · rintro ⟨_, ⟨c, has, rfl⟩, others, member, rfl⟩
        rcases ih.mp member with ⟨rfl, all⟩
        exact ⟨rfl, List.forall_mem_cons.mpr ⟨has, all⟩⟩
      · rintro ⟨size, all⟩
        rcases List.exists_of_length_succ text size with ⟨c, others, rfl⟩
        rcases List.forall_mem_cons.mp all with ⟨has, more⟩
        exact ⟨[c], ⟨c, has, rfl⟩, others, ih.mpr ⟨Nat.succ.inj size, more⟩, rfl⟩

theorem mem_language_someOf {set : CharSet} :
    text ∈ (someOf set).language ↔ text ≠ [] ∧ ∀ c ∈ text, set.has c = true := by
  constructor
  · rintro ⟨n, le, -, member⟩
    rcases mem_pow_language_chars.mp member with ⟨rfl, all⟩
    exact ⟨List.length_pos_iff.mp le, all⟩
  · rintro ⟨nonempty, all⟩
    exact ⟨text.length, List.length_pos_iff.mpr nonempty, nofun, mem_pow_language_chars.mpr ⟨rfl, all⟩⟩

end Pattern
end ProductGraph
