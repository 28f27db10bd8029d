import Mathlib.Logic.Relation
import ProductGraph.Schema.Documents

namespace ProductGraph

/-!
# The form of identifiers

Schemas ask that identifiers match a pattern.  What the pattern means is written out here, and one thing is drawn
from it: what matches has a colon in it, so it is no bare name.  That a text matches is not the same as that it is an
identifier.  The pattern leaves out fewer sorts of white space than the rule for absolute URIs does, and one that
the rule does not know.
-/

namespace Pattern

/-- What a pattern can take from a text, and what it leaves.  How often it repeats and what it looks for at a place is
not asked, so more is spanned than matched. -/
def Spans : Pattern → List Char → List Char → Prop
  | empty, text, rest => text = rest
  | chars set, text, rest => ∃ c, set.has c = true ∧ text = c :: rest
  | look _, text, rest => text = rest
  | group inside, text, rest => Spans inside text rest
  | sequence first second, text, rest => ∃ between, Spans first text between ∧ Spans second between rest
  | choice first second, text, rest => Spans first text rest ∨ Spans second text rest
  | repeated _ _ inside, text, rest => Relation.ReflTransGen (Spans inside) text rest

/-- Each of some places is reached from one of others by what a relation allows to be taken. -/
def Reached (takes : List Char → List Char → Prop) (starts ends : List Cursor) : Prop :=
  ∀ there ∈ ends, ∃ here ∈ starts, takes here.rest there.rest

theorem mem_union {c : Cursor} {first second : List Cursor} (member : c ∈ Cursor.union first second) :
    c ∈ first ∨ c ∈ second := by
  fun_induction Cursor.union first second with
  | case1 => exact Or.inr member
  | case2 => exact Or.inl member
  | case3 a as b bs below ih =>
      rcases List.mem_cons.mp member with rfl | later
      · exact Or.inl List.mem_cons_self
      · exact (ih later).imp_left (List.mem_cons_of_mem _)
  | case4 a as b bs _ below ih =>
      rcases List.mem_cons.mp member with rfl | later
      · exact Or.inr List.mem_cons_self
      · exact (ih later).imp_right (List.mem_cons_of_mem _)
  | case5 a as b bs _ _ ih =>
      rcases List.mem_cons.mp member with rfl | later
      · exact Or.inl List.mem_cons_self
      · exact (ih later).imp (List.mem_cons_of_mem _) (List.mem_cons_of_mem _)

theorem mem_of_mem_diff {c : Cursor} {first second : List Cursor} (member : c ∈ Cursor.diff first second) :
    c ∈ first := by
  fun_induction Cursor.diff first second with
  | case1 => cases member
  | case2 => exact member
  | case3 a as b bs below ih =>
      rcases List.mem_cons.mp member with rfl | later
      · exact List.mem_cons_self
      · exact List.mem_cons_of_mem _ (ih later)
  | case4 a as b bs _ below ih => exact ih member
  | case5 a as b bs _ _ ih => exact List.mem_cons_of_mem _ (ih member)

section Repetition

variable {takes : List Char → List Char → Prop} {step : List Cursor → List Cursor}

theorem reached_afterExactly (each : ∀ cursors, Reached takes cursors (step cursors)) (n : Nat)
    (cursors : List Cursor) : Reached (Relation.ReflTransGen takes) cursors (afterExactly step n cursors) := by
  induction n generalizing cursors with
  | zero => exact fun there member => ⟨there, member, .refl⟩
  | succ n ih =>
      intro there member
      rw [afterExactly] at member
      split at member
      · cases member
      · rcases ih (step cursors) there member with ⟨between, inStep, onward⟩
        rcases each cursors between inStep with ⟨here, inCursors, first⟩
        exact ⟨here, inCursors, .head first onward⟩

theorem reached_afterUpTo (each : ∀ cursors, Reached takes cursors (step cursors)) {origin : List Cursor} (n : Nat)
    {edge known : List Cursor} (edgeReached : Reached (Relation.ReflTransGen takes) origin edge)
    (knownReached : Reached (Relation.ReflTransGen takes) origin known) :
    Reached (Relation.ReflTransGen takes) origin (afterUpTo step n edge known) := by
  induction n generalizing edge known with
  | zero => exact knownReached
  | succ n ih =>
      have found : Reached (Relation.ReflTransGen takes) origin (Cursor.diff (step edge) known) := by
        intro there member
        rcases each edge there (mem_of_mem_diff member) with ⟨between, inEdge, last⟩
        rcases edgeReached between inEdge with ⟨here, inOrigin, before⟩
        exact ⟨here, inOrigin, .tail before last⟩
      rw [afterUpTo]
      split
      · exact knownReached
      · apply ih found
        intro there member
        rcases mem_union member with old | new
        · exact knownReached there old
        · exact found there new

end Repetition

/-- What a pattern reaches is spanned by it. -/
theorem reached_reach (p : Pattern) (cursors : List Cursor) : Reached (Spans p) cursors (p.reach cursors) := by
  induction p generalizing cursors with
  | empty => exact fun there member => ⟨there, member, rfl⟩
  | chars set =>
      intro there member
      rcases List.mem_filterMap.mp member with ⟨here, inCursors, next⟩
      refine ⟨here, inCursors, ?_⟩
      rw [Cursor.next?] at next
      split at next
      · cases next
      · rename_i c rest text_eq
        split at next
        · rename_i has
          cases next
          exact ⟨c, has, text_eq⟩
        · cases next
  | look condition => exact fun there member => ⟨there, (List.mem_filter.mp member).1, rfl⟩
  | group inside ih => exact ih cursors
  | sequence first second ihFirst ihSecond =>
      intro there member
      rcases ihSecond _ there member with ⟨between, inFirst, onward⟩
      rcases ihFirst _ between inFirst with ⟨here, inCursors, start⟩
      exact ⟨here, inCursors, between.rest, start, onward⟩
  | choice first second ihFirst ihSecond =>
      intro there member
      rcases mem_union member with left | right
      · rcases ihFirst _ there left with ⟨here, inCursors, spans⟩
        exact ⟨here, inCursors, Or.inl spans⟩
      · rcases ihSecond _ there right with ⟨here, inCursors, spans⟩
        exact ⟨here, inCursors, Or.inr spans⟩
  | repeated least most inside ih =>
      have needed := reached_afterExactly ih least cursors
      intro there member
      simp only [reach] at member
      cases most with
      | none => exact reached_afterUpTo ih _ needed needed there member
      | some most => exact reached_afterUpTo ih _ needed needed there member

/-- What a pattern leaves of a text is the end of it. -/
theorem Spans.suffix {p : Pattern} {text rest : List Char} (spans : Spans p text rest) : rest <:+ text := by
  induction p generalizing text rest with
  | empty => exact spans ▸ List.suffix_rfl
  | chars set =>
      rcases spans with ⟨c, _, rfl⟩
      exact List.suffix_cons c rest
  | look condition => exact spans ▸ List.suffix_rfl
  | group inside ih => exact ih spans
  | sequence first second ihFirst ihSecond =>
      rcases spans with ⟨between, start, onward⟩
      exact (ihSecond onward).trans (ihFirst start)
  | choice first second ihFirst ihSecond => exact spans.elim ihFirst ihSecond
  | repeated least most inside ih =>
      induction (show Relation.ReflTransGen (Spans inside) text rest from spans) with
      | refl => exact List.suffix_rfl
      | tail before last ihBefore => exact (ih last).trans (ihBefore before)

theorem rest_suffix_of_mem_onward {index : Nat} {previous : Option Char} {text : List Char} {c : Cursor}
    (member : c ∈ Cursor.onward index previous text) : c.rest <:+ text := by
  induction text generalizing index previous with
  | nil =>
      rw [Cursor.onward, List.mem_singleton] at member
      subst member
      exact List.suffix_rfl
  | cons d rest ih =>
      rw [Cursor.onward] at member
      rcases List.mem_cons.mp member with rfl | later
      · exact List.suffix_rfl
      · exact (ih later).trans (List.suffix_cons d rest)

/-- A text that a pattern matches has a part that the pattern spans. -/
theorem exists_spans_of_matchesText {p : Pattern} {s : String} (found : p.matchesText s = true) :
    ∃ text rest, text <:+ s.toList ∧ Spans p text rest := by
  cases reached : p.reach (Cursor.onward 0 none s.toList) with
  | nil => simp [matchesText, reached] at found
  | cons there others =>
      have member : there ∈ p.reach (Cursor.onward 0 none s.toList) := by
        rw [reached]
        exact List.mem_cons_self
      rcases reached_reach p _ there member with ⟨here, inText, spans⟩
      exact ⟨here.rest, there.rest, rest_suffix_of_mem_onward inText, spans⟩

end Pattern

namespace SchemaDocument

/-- A term as the schemas mean it. -/
def termForm : Pattern :=
  .sequence (.chars [(65, 90), (95, 95), (97, 122)])
    (.sequence (.repeated 0 none (.chars [(45, 46), (48, 57), (65, 90), (95, 95), (97, 122)]))
      (.sequence (.chars [(58, 58)])
        (.sequence (.chars [(48, 57), (65, 90), (95, 95), (97, 122)])
          (.repeated 0 none (.chars [(35, 35), (45, 57), (65, 90), (95, 95), (97, 122)])))))

/-- An absolute URI as the schemas mean it. -/
def uriForm : Pattern :=
  .sequence (.chars [(65, 90), (97, 122)])
    (.sequence (.repeated 0 none (.chars [(43, 43), (45, 46), (48, 57), (65, 90), (97, 122)]))
      (.sequence (.chars [(58, 58)])
        (.sequence (.chars [(47, 47)])
          (.sequence (.chars [(47, 47)])
            (.repeated 1 none (.chars [(0, 8), (14, 31), (33, 159), (161, 8194), (8196, 8232), (8234, 65278),
              (65280, 1114111)]))))))

def identifierForm : Pattern :=
  .sequence (.look .textStart) (.sequence (.group (.choice termForm uriForm)) (.look .textEnd))

deriving instance DecidableEq for Pattern

theorem pattern?_identifierPattern : Schema.pattern? identifierPattern = some identifierForm := by
  decide +kernel

/-- What stands for a colon in a pattern takes a colon. -/
theorem colon_of_spans {text rest : List Char} (spans : Pattern.Spans (.chars [(58, 58)]) text rest) :
    text = ':' :: rest := by
  rcases spans with ⟨c, has, rfl⟩
  have point : c.toNat = 58 := by
    simp only [CharSet.has, Unicode.Ranges.contains, Bool.or_false, Bool.if_false_left, Bool.and_eq_true,
      Bool.not_eq_true', decide_eq_false_iff_not, decide_eq_true_eq] at has
    omega
  rw [show c = ':' from Char.toNat_inj.mp point]

/-- What matches the form of identifiers has a colon in it. -/
theorem colon_mem_of_matchesText {s : String} (found : identifierForm.matchesText s = true) : ':' ∈ s.toList := by
  rcases Pattern.exists_spans_of_matchesText found with ⟨text, rest, inText, start, _, between, form, _⟩
  have colon : ∀ later after, Pattern.Spans (.chars [(58, 58)]) later after → later <:+ text → ':' ∈ s.toList := by
    intro later after spans ends
    rw [colon_of_spans spans] at ends
    exact (ends.trans inText).subset List.mem_cons_self
  subst start
  rcases form with ⟨b₁, first, b₂, onward, b₃, spans, _⟩ | ⟨b₁, first, b₂, onward, b₃, spans, _⟩
  all_goals
    exact colon b₂ b₃ spans ((Pattern.Spans.suffix (p := .repeated 0 none _) onward).trans first.suffix)

end SchemaDocument
end ProductGraph
