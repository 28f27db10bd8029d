import ProductGraph.Pattern.Meaning
import ProductGraph.Proofs.Pattern.Levels

namespace ProductGraph

/-!
# Patterns that are to match in full

A pattern is checked by itself, and it is used between anchors: in a group that stands between the start and the end of
the text.  A text that is a pattern by itself need not be one there.  Its group stays open if it ends in a comment, it
may be nested too deep by two, and what is written between the anchors may be beyond the limit.  In all other cases it
is a pattern there as well, and it matches from the start of a text exactly to its end.

The limit on patterns may be any: nothing is said about how much room a pattern takes.
-/

namespace Expression

/-- A text whose last line ends in a comment: what is written behind it on that line belongs to it and says nothing. -/
def EndsInComment (p : String) : Prop := ∀ more : String, '\n' ∉ more.toList → ofText? (p ++ more) = ofText? p

/-- An expression in a group between the start and the end of a text. -/
def enclosed (e : Expression) : Expression := sequence [.assertion .lineStart, .group [] false e, .assertion .lineEnd]

theorem depth_enclosed (e : Expression) : (enclosed e).depth = e.depth + 2 := by
  simp [enclosed, depth, depthOfAll]

theorem readLevel_opening (steps : Nat) (tail : List Char) :
    readLevel (steps + 2) false (.fresh []) ('^' :: '(' :: '?' :: ':' :: tail) =
      readGroup steps false ((Level.fresh []).add (.assertion .lineStart)) [] false [] tail := by
  have start : ∀ tail, readLevel (steps + 2) false (.fresh []) ('^' :: tail) =
      readLevel (steps + 1) false ((Level.fresh []).add (.assertion .lineStart)) tail :=
    fun tail => (readLevel_succ _ _ _ _).trans (readFrom_atom (by decide) _ _ _ _)
  rw [start, readLevel_succ]
  rfl

theorem readLevel_closing (steps : Nat) (level : Level) :
    readLevel (steps + 2) false level ['$'] = some (level.add (.assertion .lineEnd), []) := by
  have dollar : readLevel (steps + 2) false level ['$'] =
      readLevel (steps + 1) false (level.add (.assertion .lineEnd)) [] :=
    (readLevel_succ _ _ _ _).trans (readFrom_atom (by decide) _ _ _ _)
  rw [dollar, readLevel_succ]
  rfl

section Whole

variable {p : String} {e : Expression} {inside : Level}

theorem readLevel_wholeText (p : String) :
    readLevel ((Pattern.wholeText p).toList.length + 1) false (.fresh []) (Pattern.wholeText p).toList =
      readGroup (p.toList.length + 5) false ((Level.fresh []).add (.assertion .lineStart)) [] false []
        (p.toList ++ [')', '$']) := by
  have letters : (Pattern.wholeText p).toList = '^' :: '(' :: '?' :: ':' :: (p.toList ++ [')', '$']) := by
    simp [Pattern.wholeText]
  rw [letters, ← readLevel_opening]
  simp

/-- A group that nothing closes is no pattern. -/
theorem ofText?_wholeText_of_open
    (reads : readLevel (p.toList.length + 5) false (.fresh []) (p.toList ++ [')', '$']) = some (inside, [])) :
    ofText? (Pattern.wholeText p) = none := by
  have group : readGroup (p.toList.length + 5) false ((Level.fresh []).add (.assertion .lineStart)) [] false []
      (p.toList ++ [')', '$']) = none := by
    have unclosed : closedLevel (p.toList.length + 5) false [] (p.toList ++ [')', '$']) = none := by
      rw [closedLevel, reads]
    exact Option.bind_eq_none_iff.mpr fun found closes => absurd (unclosed.symm.trans closes) nofun
  unfold ofText?
  simp only [readLevel_wholeText, group]

/-- A group that is closed stands between the anchors. -/
theorem ofText?_wholeText_of_closed
    (reads : readLevel (p.toList.length + 5) false (.fresh []) (p.toList ++ [')', '$']) = some (inside, [')', '$'])) :
    ofText? (Pattern.wholeText p) =
      if inside.whole.depth + 2 ≤ depthLimit then some (enclosed inside.whole) else none := by
  have closed : closedLevel (p.toList.length + 5) false [] (p.toList ++ [')', '$']) = some (inside, ['$']) := by
    rw [closedLevel, reads]
    rfl
  have group : ∃ level : Level, level.whole = enclosed inside.whole ∧
      readGroup (p.toList.length + 5) false ((Level.fresh []).add (.assertion .lineStart)) [] false []
        (p.toList ++ [')', '$']) = some (level, []) := by
    refine ⟨_, ?_, Option.bind_eq_some_iff.mpr ⟨_, closed, readLevel_closing (p.toList.length + 3) _⟩⟩
    rfl
  rcases group with ⟨level, whole, group⟩
  unfold ofText?
  simp only [readLevel_wholeText, group, whole, depth_enclosed]

/-- What a pattern is read to, and how that stands before what is written behind. -/
theorem exists_level (reads : ofText? p = some e) : ∃ level : Level, level.whole = e ∧ e.depth ≤ depthLimit ∧
    Extends (fun fuel => readLevel fuel false (.fresh [])) (p.toList.length + 1) p.toList level [] := by
  unfold ofText? at reads
  simp only at reads
  split at reads
  · next level found =>
      rcases Option.ite_none_right_eq_some.mp reads with ⟨shallow, same⟩
      exact ⟨level, Option.some.inj same, Option.some.inj same ▸ shallow, extends_readLevel _ found⟩
  · cases reads

/-- Between anchors a pattern is what it is by itself in a group, unless it ends in a comment or is nested too deep. -/
theorem ofText?_wholeText (reads : ofText? p = some e) [Decidable (EndsInComment p)] : ofText? (Pattern.wholeText p) =
    if ¬EndsInComment p ∧ e.depth + 2 ≤ depthLimit then some (enclosed e) else none := by
  rcases exists_level reads with ⟨level, rfl, shallow, later⟩
  rcases later.behind with grows | ⟨-, sign, swallows⟩
  · have closed := grows [')', '$'] (p.toList.length + 5) (fun _ c member => by simpa using member.symm) (by simp)
    have ends : ¬EndsInComment p := by
      intro comment
      have unclosed := comment ")" (by decide)
      rw [reads] at unclosed
      have left := grows [')'] (p.toList.length + 2) (fun _ c member => by simpa using member.symm) (by simp)
      unfold ofText? at unclosed
      simp [left] at unclosed
    rw [ofText?_wholeText_of_closed closed]
    simp [ends]
  · have unclosed := swallows [')', '$'] (p.toList.length + 5) (by decide) (by simp)
    have ends : EndsInComment p := by
      intro more oneLine
      have all := swallows more.toList (p.toList.length + more.toList.length + 1) oneLine (by omega)
      rw [reads]
      unfold ofText?
      simp [all, shallow]
    rw [ofText?_wholeText_of_open unclosed, if_neg fun both => both.1 ends]

end Whole

end Expression

namespace Pattern

open Expression (EndsInComment)

/-- A pattern that is one between anchors as well: it does not end in a comment, its depth leaves room for a group in a
sequence, and its text between anchors keeps within the limit. -/
structure Anchorable [PatternLimit] (p : String) : Prop where
  noComment : ¬EndsInComment p
  shallow : ∀ e, Expression.ofText? p = some e → e.depth + 2 ≤ Expression.depthLimit
  fits : PatternLimit.fits (wholeText p) = true

/-- A pattern between the start and the end of a text. -/
def anchored (q : Pattern) : Pattern := .sequence (.look .textStart) (.sequence q (.look .textEnd))

/-- Whether a pattern matches all of a text: from the start it reaches the end. -/
def matchesAll (q : Pattern) (s : String) : Bool :=
  (q.reach [⟨0, none, s.toList⟩]).any fun cursor => cursor.rest.isEmpty

variable {p : String} {q : Pattern}

theorem read?_eq_some :
    read? p = some q ↔ ∃ e flags, Expression.ofText? p = some e ∧ e.meaning? .initial = some (q, flags) := by
  simp [read?, Option.bind_eq_some_iff]

theorem ofText?_eq_some [PatternLimit] : ofText? p = some q ↔ PatternLimit.fits p = true ∧ read? p = some q :=
  Option.ite_none_right_eq_some

theorem meaning?_enclosed {e : Expression} {flags : PatternFlags} (meaning : e.meaning? .initial = some (q, flags)) :
    e.enclosed.meaning? .initial = some (anchored q, .initial) := by
  have unset : PatternFlags.initial.apply [] = .initial := rfl
  simp only [Expression.enclosed, Expression.meaning?, Expression.sequence?, unset, meaning, Option.map_some]
  rfl

/-- Between anchors a pattern is read to itself between the start and the end of a text, unless it ends in a comment or
is nested too deep. -/
theorem read?_wholeText {e : Expression} {flags : PatternFlags} (expression : Expression.ofText? p = some e)
    (meaning : e.meaning? .initial = some (q, flags)) [Decidable (EndsInComment p)] : read? (wholeText p) =
      if ¬EndsInComment p ∧ e.depth + 2 ≤ Expression.depthLimit then some (anchored q) else none := by
  rw [read?, Expression.ofText?_wholeText expression]
  split
  · rw [Option.bind_some, meaning?_enclosed meaning]
    rfl
  · rfl

section Limit

variable [PatternLimit]

theorem ofText?_wholeText (reads : ofText? p = some q) (anchorable : Anchorable p) :
    ofText? (wholeText p) = some (anchored q) := by
  classical
  rcases read?_eq_some.mp (ofText?_eq_some.mp reads).2 with ⟨e, flags, expression, meaning⟩
  refine ofText?_eq_some.mpr ⟨anchorable.fits, ?_⟩
  rw [read?_wholeText expression meaning, if_pos ⟨anchorable.noComment, anchorable.shallow e expression⟩]

/-- A pattern is one between anchors under three conditions, and under no fewer. -/
theorem isPattern_wholeText_iff (reads : ofText? p = some q) : isPattern (wholeText p) = true ↔ Anchorable p := by
  classical
  constructor
  · intro whole
    rcases Option.isSome_iff_exists.mp whole with ⟨r, whole⟩
    rcases ofText?_eq_some.mp whole with ⟨fits, whole⟩
    rcases read?_eq_some.mp (ofText?_eq_some.mp reads).2 with ⟨e, flags, expression, meaning⟩
    rw [read?_wholeText expression meaning] at whole
    have between := (Option.ite_none_right_eq_some.mp whole).1
    refine ⟨between.1, fun e' same => ?_, fits⟩
    cases expression.symm.trans same
    exact between.2
  · intro anchorable
    rw [isPattern, ofText?_wholeText reads anchorable]
    rfl

end Limit

/-! ## What it matches between anchors -/

theorem filter_textStart_onward (index : Nat) (previous : Char) (cs : List Char) :
    (Cursor.onward index (some previous) cs).filter (Look.holds .textStart) = [] := by
  induction cs generalizing index previous with
  | nil => rfl
  | cons c rest ih =>
      rw [Cursor.onward, List.filter_cons_of_neg (by simp [Look.holds]), ih]

theorem matchesText_anchored (q : Pattern) (s : String) : (anchored q).matchesText s = q.matchesAll s := by
  have start : (Cursor.onward 0 none s.toList).filter (Look.holds .textStart) = [⟨0, none, s.toList⟩] := by
    cases s.toList with
    | nil => rfl
    | cons c rest =>
        rw [Cursor.onward, List.filter_cons_of_pos (by simp [Look.holds]), filter_textStart_onward]
  simp only [matchesText, anchored, reach, start, matchesAll]
  rw [Bool.eq_iff_iff]
  simp [Look.holds, List.any_eq_true]

end Pattern
end ProductGraph
