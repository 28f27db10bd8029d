import ProductGraph.Proofs.Markup.Fragment
import ProductGraph.Proofs.Markup.Rich

namespace ProductGraph
namespace Markup

/-!
# Markup inside an element

Whether a text is markup is tried out between the tags of an element of its own, and the text is then written between
the tags of another.  A text that stays inside the first stays inside the second: it closes what it opens, and no event
of it reaches into the closing tag behind it.

The trial does not ask for that.  A text may close the element that it is tried in and open it anew.  Such a text is
markup, but in every other element its closing tag closes nothing, so that the document around it cannot be read.
-/

/-! ## Events that are tried -/

/-- Whether an event may be part of markup: its attributes can be read, and its references resolve. -/
def Event.isLegible : Event → Bool
  | .opening _ attributes | .single _ attributes => (attributes? attributes).isSome
  | .text raw => (resolve? raw).isSome
  | .closing _ | .characterData _ | .aside => true

theorem isReadable_succ {steps : Nat} {opened : List String} {cs : List Char} {event : Event} {rest : List Char}
    (step : next cs = .event event rest) :
    isReadable (steps + 1) opened cs =
      (event.isLegible && (openedAfter? opened event).any fun inside => isReadable steps inside rest) := by
  rw [isReadable, step]
  cases event with
  | closing closed =>
      cases opened with
      | nil => rfl
      | cons innermost others =>
          simp only [Event.isLegible, openedAfter?, Bool.true_and, beq_eq_decide]
          by_cases same : closed = innermost
          · simp [same]
          · simp [same]
  | _ => simp [Event.isLegible, openedAfter?]

theorem isReadable_nil {steps : Nat} {opened : List String} (readable : isReadable steps opened [] = true) :
    opened = [] := by
  cases steps with
  | zero => cases readable
  | succ steps =>
      rw [isReadable, next] at readable
      exact List.isEmpty_iff.mp readable

theorem openedAfter?_append {opened inside : List String} {event : Event}
    (after : openedAfter? opened event = some inside) (below : List String) :
    openedAfter? (opened ++ below) event = some (inside ++ below) := by
  cases event with
  | opening inner attributes =>
      cases after
      rfl
  | closing closed =>
      cases opened with
      | nil => cases after
      | cons innermost others =>
          rcases Option.ite_none_right_eq_some.mp after with ⟨same, left⟩
          cases left
          exact if_pos same
  | _ =>
      cases after
      rfl

/-- An event leaves the lowest of the open elements open, unless it closes it. -/
theorem openedAfter?_concat {opened inside : List String} {lowest : String} {event : Event}
    (after : openedAfter? (opened ++ [lowest]) event = some inside) :
    (∃ above, inside = above ++ [lowest] ∧ openedAfter? opened event = some above) ∨
      (opened = [] ∧ event = .closing lowest ∧ inside = []) := by
  cases event with
  | opening inner attributes =>
      cases after
      exact .inl ⟨_, rfl, rfl⟩
  | closing closed =>
      cases opened with
      | nil =>
          rcases Option.ite_none_right_eq_some.mp after with ⟨rfl, left⟩
          cases left
          exact .inr ⟨rfl, rfl, rfl⟩
      | cons innermost others =>
          rcases Option.ite_none_right_eq_some.mp after with ⟨same, left⟩
          cases left
          exact .inl ⟨_, rfl, if_pos same⟩
  | _ =>
      cases after
      exact .inl ⟨_, rfl, rfl⟩

/-- An event ends with the document, before an angle, or with an angle. -/
theorem ends_of_next {cs : List Char} {event : Event} {rest : List Char} (step : next cs = .event event rest) :
    rest = [] ∨ rest.head? = some '<' ∨ ∃ before, cs = before ++ '>' :: rest := by
  have angle : ∀ {mark : Char} {more inside : List Char}, splitAt '>' more = (inside, rest) →
      rest = [] ∨ rest.head? = some '<' ∨ ∃ before, '<' :: mark :: more = before ++ '>' :: rest := by
    intro mark more inside parts
    by_cases left : rest = []
    · exact .inl left
    · rcases splitAt_again parts left with ⟨rfl, _⟩
      exact .inr (.inr ⟨'<' :: mark :: inside, rfl⟩)
  cases reads_of_next step with
  | @text c more notAngle =>
      have head := List.head?_dropWhile_not (· != '<') (c :: more)
      cases behind : (c :: more).dropWhile (· != '<') with
      | nil => exact .inl rfl
      | cons d within =>
          rw [behind] at head
          exact .inr (.inl (congrArg some (by simpa using head)))
  | declaration reads =>
      rcases declaration_again reads with ⟨used, whole, _⟩
      exact .inr (.inr ⟨'<' :: used, congrArg ('<' :: ·) whole⟩)
  | closing parts => exact angle parts
  | instruction parts _ => exact angle parts
  | tag _ _ _ ends =>
      rcases tagEnd?_again ends with ⟨whole, _⟩
      exact .inr (.inr ⟨'<' :: _, congrArg ('<' :: ·) whole⟩)

/-- A closing tag has a plain name exactly if nothing but blanks stands behind the name. -/
theorem closedName_eq_iff {name : String} (plain : IsPlainName name) {inside : List Char} :
    closedName inside = name ↔ ∃ gaps, inside = name.toList ++ gaps ∧ gaps.all isTrailingGap = true := by
  constructor
  · intro named
    simp only [closedName] at named
    split at named
    · refine ⟨[], ?_, rfl⟩
      rw [← named, String.toList_ofList, List.append_nil]
    · refine ⟨(inside.reverse.takeWhile isTrailingGap).reverse, ?_, ?_⟩
      · rw [← named, String.toList_ofList, ← List.reverse_append, List.takeWhile_append_dropWhile, List.reverse_reverse]
      · rw [List.all_reverse]
        exact List.all_takeWhile
  · rintro ⟨gaps, rfl, blank⟩
    have dropped : (name.toList ++ gaps).reverse.dropWhile isTrailingGap = name.toList.reverse := by
      have all : ∀ c ∈ gaps.reverse, isTrailingGap c = true :=
        fun c member => List.all_eq_true.mp blank c (List.mem_reverse.mp member)
      rw [List.reverse_append, List.dropWhile_append_of_pos all]
      cases backwards : name.toList.reverse with
      | nil => rfl
      | cons c more =>
          have last : isPlainChar c = true := plain.2 c (List.mem_reverse.mp (backwards ▸ List.mem_cons_self))
          exact List.dropWhile_cons_of_neg (by rw [isTrailingGap_of_isPlainChar last]; exact Bool.false_ne_true)
    have filled : name.toList.isEmpty = false := List.isEmpty_eq_false_iff.mpr plain.1
    rw [closedName]
    simp only [dropped, List.reverse_reverse, filled, Bool.false_eq_true, if_false, String.ofList_toList]

/-! ## Text that stays inside -/

/-- A text that is read before an angle as events that close what they open and the elements in `opened`, but nothing
else. -/
inductive Inside : List String → List Char → Prop
  | done : Inside [] []
  | event {opened inside : List String} {used cs : List Char} {event : Event}
      (step : ∀ other, other.head? = some '<' → next (used ++ (cs ++ other)) = .event event (cs ++ other))
      (legible : event.isLegible = true) (after : openedAfter? opened event = some inside)
      (behind : Inside inside cs) : Inside opened (used ++ cs)

namespace Inside

variable {opened : List String} {cs : List Char}

theorem length_lt {used : List Char} {event : Event}
    (step : ∀ other, other.head? = some '<' → next (used ++ (cs ++ other)) = .event event (cs ++ other)) :
    cs.length < (used ++ cs).length := by
  have shorter := (length_lt_of_next (step ['<'] rfl)).1
  simp only [List.length_append] at shorter ⊢
  omega

/-- Reading content passes over a text that stays inside. -/
theorem rawContent?_append (inside : Inside opened cs) :
    ∃ events, events ≤ cs.length ∧ ∀ name steps written other, other.head? = some '<' →
      rawContent? name (steps + events) opened written (cs ++ other) =
        rawContent? name steps [] (cs.reverse ++ written) other := by
  induction inside with
  | done => exact ⟨0, Nat.le_refl 0, fun _ _ _ _ _ => rfl⟩
  | @event opened inside used cs event step legible after behind ih =>
      rcases ih with ⟨events, le, passes⟩
      refine ⟨events + 1, Nat.lt_of_le_of_lt le (length_lt step), fun name steps written other angle => ?_⟩
      have notEnd : ¬(opened = [] ∧ event = .closing name) := by
        rintro ⟨rfl, rfl⟩
        cases after
      rw [List.append_assoc, ← Nat.add_assoc, rawContent?_succ (step other angle), if_neg notEnd, after,
        Option.bind_some, passes _ _ _ _ angle, List.reverse_append, List.append_assoc]

/-- Trying out markup passes over a text that stays inside. -/
theorem isReadable_append (inside : Inside opened cs) :
    ∃ events, events ≤ cs.length ∧ ∀ steps below other, other.head? = some '<' →
      isReadable (steps + events) (opened ++ below) (cs ++ other) = isReadable steps below other := by
  induction inside with
  | done => exact ⟨0, Nat.le_refl 0, fun _ _ _ _ => rfl⟩
  | @event opened inside used cs event step legible after behind ih =>
      rcases ih with ⟨events, le, passes⟩
      refine ⟨events + 1, Nat.lt_of_le_of_lt le (length_lt step), fun steps below other angle => ?_⟩
      rw [List.append_assoc, ← Nat.add_assoc, isReadable_succ (step other angle), legible,
        openedAfter?_append after below, Option.any_some, Bool.true_and]
      exact passes steps below other angle

/-- A text that stays inside ends where the closing tag of its element begins, whichever element that is. -/
theorem endsAt {name : String} (plain : IsPlainName name) (inside : Inside [] cs) : EndsAt name cs := by
  intro steps more enough
  rcases inside.rawContent?_append with ⟨events, le, passes⟩
  have angle : ((Token.closing name).written ++ more).head? = some '<' := rfl
  have counts : ∃ fewer, steps = fewer + 1 + events := by
    rw [List.length_append] at enough
    exact ⟨steps - events - 1, by omega⟩
  rcases counts with ⟨fewer, rfl⟩
  rw [passes _ _ _ _ angle, rawContent?_succ (next_closing plain more), if_pos ⟨rfl, rfl⟩, List.append_nil,
    List.reverse_reverse]

end Inside

/-! ## Text that steps out -/

/-- The closing tag of the element that a text is tried in, with blanks before its end. -/
def outerClosing (gaps : List Char) : List Char := '<' :: '/' :: ("r".toList ++ (gaps ++ ['>']))

/-- Whether a text closes the element that it is tried in: behind some markup, or at once, stands the closing tag of
that element. -/
def StepsOut (s : String) : Prop :=
  ∃ before gaps behind : String, s = before ++ "</r" ++ gaps ++ ">" ++ behind ∧ isMarkup before = true ∧
    gaps.toList.all isTrailingGap = true

theorem isPlainName_outer : IsPlainName "r" := by decide

theorem next_outerClosing {gaps : List Char} (blank : gaps.all isTrailingGap = true) (rest : List Char) :
    next (outerClosing gaps ++ rest) = .event (.closing "r") rest := by
  have noEnd : '>' ∉ "r".toList ++ gaps := by
    intro member
    rcases List.mem_append.mp member with inName | inGaps
    · exact absurd inName (by decide)
    · exact absurd (List.all_eq_true.mp blank _ inGaps) (by decide)
  have named : closedName ("r".toList ++ gaps) = "r" := (closedName_eq_iff isPlainName_outer).mpr ⟨gaps, rfl, blank⟩
  have written : outerClosing gaps ++ rest = '<' :: '/' :: ("r".toList ++ gaps ++ '>' :: rest) := by
    simp [outerClosing]
  rw [written, next_slash, splitAt_append noEnd, named]

/-- The document that a text is tried in is read to its end exactly if the text and the closing tag are, inside the
element. -/
theorem isMarkup_eq (s : String) :
    isMarkup s = isReadable (s.toList.length + 7) ["r"] (s.toList ++ outerClosing []) := by
  have opening : next (wrapped s.toList) = .event (.opening "r" []) (s.toList ++ outerClosing []) := by
    rw [wrapped, List.append_assoc]
    rfl
  have length : (wrapped s.toList).length + 1 = s.toList.length + 7 + 1 := by simp [wrapped]
  rw [isMarkup]
  simp only [length, isReadable_succ opening]
  rfl

theorem isMarkup_of_inside {s : String} (inside : Inside [] s.toList) : isMarkup s = true := by
  rcases inside.isReadable_append with ⟨events, le, passes⟩
  have counts : ∃ fewer, s.toList.length + 7 = fewer + 2 + events := ⟨s.toList.length + 7 - 2 - events, by omega⟩
  rcases counts with ⟨fewer, counts⟩
  rw [isMarkup_eq, counts]
  rw [show ["r"] = [] ++ ["r"] from rfl, passes _ _ _ rfl]
  have closes : next (outerClosing []) = .event (.closing "r") [] := rfl
  rw [isReadable_succ closes]
  rfl

/-- A closing tag of the outer element, unless the document ends with it. -/
theorem exists_outerClosing {cs rest : List Char} (step : next cs = .event (.closing "r") rest) (left : rest ≠ []) :
    ∃ gaps, cs = outerClosing gaps ++ rest ∧ gaps.all isTrailingGap = true := by
  rcases parts_of_closing step with ⟨more, inside, rfl, parts, named⟩
  rcases (closedName_eq_iff isPlainName_outer).mp named with ⟨gaps, rfl, blank⟩
  rcases splitAt_again parts left with ⟨rfl, _⟩
  exact ⟨gaps, by simp [outerClosing], blank⟩

/-- What is left of the closing tag behind an event that reaches into it: nothing. -/
theorem eq_nil_of_reaches_into {cs part rest : List Char} {event : Event} (nonempty : part ≠ [])
    (parts : outerClosing [] = part ++ rest) (step : next (cs ++ outerClosing []) = .event event rest) : rest = [] := by
  change ['<', '/', 'r', '>'] = part ++ rest at parts
  rcases ends_of_next step with nothing | angle | ⟨before, ends⟩
  · exact nothing
  · -- no angle stands behind the first character
    rcases List.exists_cons_of_ne_nil nonempty with ⟨c, more, rfl⟩
    rcases List.head?_eq_some_iff.mp angle with ⟨within, rfl⟩
    have member : '<' ∈ ['/', 'r', '>'] := (List.cons.inj parts).2 ▸ List.mem_append_right more List.mem_cons_self
    exact absurd member (by decide)
  · -- what ends with an angle is all of the tag
    change cs ++ ['<', '/', 'r', '>'] = _ at ends
    rw [parts, ← List.append_assoc, List.append_cons] at ends
    rcases List.eq_nil_or_concat part with rfl | ⟨front, c, rfl⟩
    · exact absurd rfl nonempty
    · have joined := List.append_cancel_right ends
      rw [List.concat_eq_append, ← List.append_assoc] at joined
      have last : [c] = ['>'] := (List.append_inj' joined rfl).2
      cases last
      rcases front with _ | ⟨a, _ | ⟨b, _ | ⟨d, _ | ⟨e, more⟩⟩⟩⟩
      all_goals simp_all

/-- A closing tag of the outer element is over before the closing tag that stands behind the text. -/
theorem ne_nil_of_closes {cs rest : List Char} (nonempty : cs ≠ [])
    (step : next (cs ++ outerClosing []) = .event (.closing "r") rest) : rest ≠ [] := by
  intro nothing
  rcases parts_of_closing step with ⟨more, inside, whole, parts, named⟩
  rcases (closedName_eq_iff isPlainName_outer).mp named with ⟨gaps, rfl, blank⟩
  rcases cs with _ | ⟨c, _ | ⟨d, within⟩⟩
  · exact nonempty rfl
  · cases whole
  · have behind : more = within ++ outerClosing [] := (List.cons.inj (List.cons.inj whole).2).2.symm
    by_cases ended : '>' ∈ within
    · rcases List.eq_append_cons_of_mem ended with ⟨front, back, rfl, absent⟩
      rw [behind, List.append_assoc, List.cons_append, splitAt_append absent] at parts
      have empty : back ++ outerClosing [] = [] := (Prod.mk.inj parts).2.trans nothing
      exact absurd empty (List.append_ne_nil_of_right_ne_nil _ (List.cons_ne_nil _ _))
    · -- the name would have the angle of the tag behind the text in it
      have noEnd : '>' ∉ within ++ ['<', '/', 'r'] := by
        intro member
        rcases List.mem_append.mp member with inside | inTag
        · exact ended inside
        · exact absurd inTag (by decide)
      have tag : within ++ outerClosing [] = within ++ ['<', '/', 'r'] ++ '>' :: [] := by
        rw [List.append_assoc]
        rfl
      rw [behind, tag, splitAt_append noEnd] at parts
      have angle : '<' ∈ "r".toList ++ gaps :=
        (Prod.mk.inj parts).1 ▸ List.mem_append_right within List.mem_cons_self
      rcases List.mem_append.mp angle with inName | inGaps
      · exact absurd inName (by decide)
      · exact absurd (List.all_eq_true.mp blank _ inGaps) (by decide)

/-- An event that is tried is over before the closing tag behind the text. -/
theorem exists_rest_of_next {opened : List String} {steps : Nat} {cs : List Char} {event : Event}
    {rest : List Char} {after : List String} (nonempty : cs ≠ [])
    (step : next (cs ++ outerClosing []) = .event event rest)
    (goesOn : openedAfter? (opened ++ ["r"]) event = some after) (readable : isReadable steps after rest = true) :
    ∃ used left, cs = used ++ left ∧ rest = left ++ outerClosing [] ∧ Takes used event rest := by
  rcases takes_of_next step with ⟨used, parts, takes⟩
  rcases List.append_eq_append_iff.mp parts with ⟨part, rfl, closing⟩ | ⟨left, rfl, rfl⟩
  · by_cases nothing : part = []
    · subst nothing
      rw [List.append_nil] at takes
      exact ⟨cs, [], (List.append_nil cs).symm, closing.symm, takes⟩
    · have isEnd := eq_nil_of_reaches_into nothing closing step
      subst isEnd
      have closed := isReadable_nil readable
      subst closed
      rcases openedAfter?_concat goesOn with ⟨above, same, _⟩ | ⟨_, rfl, _⟩
      · exact absurd same.symm (List.append_ne_nil_of_right_ne_nil _ (List.cons_ne_nil _ _))
      · exact absurd rfl (ne_nil_of_closes nonempty step)
  · exact ⟨used, left, rfl, rfl, takes⟩

/-- What an event takes it takes before any angle, if an angle stands behind what is left of the text. -/
theorem Takes.before_angle {used left rest : List Char} {event : Event} (takes : Takes used event (left ++ rest))
    (angle : rest.head? = some '<') (other : List Char) (alsoAngle : other.head? = some '<') :
    next (used ++ (left ++ other)) = .event event (left ++ other) := by
  apply takes.again
  · apply List.append_ne_nil_of_right_ne_nil
    rintro rfl
    cases angle
  · rw [List.head?_append, List.head?_append, angle, alsoAngle]

/-- A text that is tried stays inside, or there is a first place where it closes the element around it. -/
theorem inside_or_closes {steps : Nat} {opened : List String} {cs : List Char}
    (readable : isReadable steps (opened ++ ["r"]) (cs ++ outerClosing []) = true) :
    Inside opened cs ∨ ∃ before gaps behind, cs = before ++ (outerClosing gaps ++ behind) ∧ Inside opened before ∧
      gaps.all isTrailingGap = true := by
  induction steps generalizing opened cs with
  | zero => cases readable
  | succ steps ih =>
      cases step : next (cs ++ outerClosing []) with
      | finished =>
          rw [isReadable, step] at readable
          exact absurd (List.isEmpty_iff.mp readable) (List.append_ne_nil_of_right_ne_nil _ (List.cons_ne_nil _ _))
      | broken =>
          rw [isReadable, step] at readable
          cases readable
      | event event rest =>
          rw [isReadable_succ step] at readable
          rcases Bool.and_eq_true_iff.mp readable with ⟨legible, goesOn⟩
          rcases (Option.any_eq_true _ _).mp goesOn with ⟨after, opens, readable⟩
          by_cases ended : cs = []
          · -- the tag behind the text is read, which nothing but the element around it may be open for
            subst ended
            cases step
            rcases openedAfter?_concat opens with ⟨above, rfl, _⟩ | ⟨rfl, _, _⟩
            · exact absurd (isReadable_nil readable) (List.append_ne_nil_of_right_ne_nil _ (List.cons_ne_nil _ _))
            · exact .inl .done
          · rcases exists_rest_of_next ended step opens readable with ⟨used, left, rfl, rfl, takes⟩
            rcases openedAfter?_concat opens with ⟨above, rfl, opensWithin⟩ | ⟨rfl, rfl, rfl⟩
            · rcases ih readable with inside | ⟨before, gaps, behind, rfl, inside, blank⟩
              · exact .inl (.event (takes.before_angle rfl) legible opensWithin inside)
              · refine .inr ⟨used ++ before, gaps, behind, (List.append_assoc _ _ _).symm, ?_, blank⟩
                rw [List.append_assoc] at takes
                exact .event (takes.before_angle rfl) legible opensWithin inside
            · have leftNonempty : left ++ outerClosing [] ≠ [] :=
                List.append_ne_nil_of_right_ne_nil _ (List.cons_ne_nil _ _)
              rcases exists_outerClosing step leftNonempty with ⟨gaps, same, blank⟩
              refine .inr ⟨[], gaps, left, ?_, .done, blank⟩
              rw [← List.append_assoc] at same
              exact List.append_cancel_right same

/-! ## What tells whether a text stays inside -/

theorem toList_stepsOut (before gaps behind : String) :
    (before ++ "</r" ++ gaps ++ ">" ++ behind).toList =
      before.toList ++ (outerClosing gaps.toList ++ behind.toList) := by
  simp [outerClosing]

theorem inside_or_closes_of_isMarkup {s : String} (markup : isMarkup s = true) :
    Inside [] s.toList ∨ ∃ before gaps behind, s.toList = before ++ (outerClosing gaps ++ behind) ∧ Inside [] before ∧
      gaps.all isTrailingGap = true := by
  rw [isMarkup_eq] at markup
  exact inside_or_closes markup

/-- A text that closes the element it is tried in does so at a first place. -/
theorem exists_inside_of_stepsOut {s : String} (leaves : StepsOut s) :
    ∃ before gaps behind, s.toList = before ++ (outerClosing gaps ++ behind) ∧ Inside [] before ∧
      gaps.all isTrailingGap = true := by
  rcases leaves with ⟨before, gaps, behind, rfl, markup, blank⟩
  rw [toList_stepsOut]
  rcases inside_or_closes_of_isMarkup markup with inside | ⟨first, others, left, whole, inside, alsoBlank⟩
  · exact ⟨_, _, _, rfl, inside, blank⟩
  · exact ⟨first, others, left ++ (outerClosing gaps.toList ++ behind.toList), by simp [whole], inside, alsoBlank⟩

/-- Markup stays inside the element that it is tried in or steps out of it. -/
theorem inside_or_stepsOut {s : String} (markup : isMarkup s = true) : Inside [] s.toList ∨ StepsOut s := by
  rcases inside_or_closes_of_isMarkup markup with inside | ⟨before, gaps, behind, whole, inside, blank⟩
  · exact .inl inside
  · refine .inr ⟨String.ofList before, String.ofList gaps, String.ofList behind, ?_, ?_, ?_⟩
    · apply String.toList_injective
      rw [toList_stepsOut, whole]
      simp
    · apply isMarkup_of_inside
      rwa [String.toList_ofList]
    · rwa [String.toList_ofList]

/-- The content of no other element can be read, once a text has stepped out. -/
theorem rawContent?_of_stepsOut {s name : String} (other : name ≠ "r") (leaves : StepsOut s) {steps : Nat}
    {more written : List Char} (enough : s.toList.length ≤ steps) :
    rawContent? name (steps + 1) [] written (s.toList ++ more) = none := by
  rcases exists_inside_of_stepsOut leaves with ⟨before, gaps, behind, whole, inside, blank⟩
  rcases inside.rawContent?_append with ⟨events, le, passes⟩
  have counts : ∃ fewer, steps = fewer + events := by
    rw [whole, List.length_append] at enough
    exact ⟨steps - events, by omega⟩
  rcases counts with ⟨fewer, rfl⟩
  have notEnd : ¬(([] : List String) = [] ∧ Event.closing "r" = .closing name) :=
    fun closes => other (Event.closing.inj closes.2).symm
  rw [whole, List.append_assoc, List.append_assoc, Nat.add_right_comm, passes _ _ _ _ rfl,
    rawContent?_succ (next_outerClosing blank _), if_neg notEnd]
  rfl

/-- Markup ends where the closing tag of an element begins exactly if it does not step out of the one it is tried in. -/
theorem endsAt_iff {s name : String} (plain : IsPlainName name) (other : name ≠ "r") (markup : isMarkup s = true) :
    EndsAt name s.toList ↔ ¬StepsOut s := by
  constructor
  · intro ends leaves
    have found := ends _ [] (Nat.lt_succ_self _)
    rw [rawContent?_of_stepsOut other leaves (by simp)] at found
    cases found
  · intro stays
    exact ((inside_or_stepsOut markup).resolve_right stays).endsAt plain

/-- What steps out has the beginning of a closing tag of the element that it is tried in. -/
theorem isInfix_of_stepsOut {s : String} (leaves : StepsOut s) : "</r".toList <:+: s.toList := by
  rcases leaves with ⟨before, gaps, behind, rfl, _, _⟩
  refine ⟨before.toList, gaps.toList ++ '>' :: behind.toList, ?_⟩
  simp

/-- What becomes markup by writing its special characters by reference stays inside. -/
theorem not_stepsOut_asMarkup {s : String} (plain : isMarkup s = false) : ¬StepsOut (asMarkup s) := by
  intro leaves
  have angle : '<' ∈ (asMarkup s).toList := (isInfix_of_stepsOut leaves).subset (by decide)
  rw [asMarkup, plain, if_neg Bool.false_ne_true, String.toList_ofList] at angle
  exact not_mem_partlyEscape (.inl rfl) s.toList angle

/-! ## Documents of one rich element -/

variable {isRich : String → Bool} {name : String} {attributes : List (String × String)}

/-- A rich text that ends where it should is read back. -/
theorem root_of_endsAt (plain : IsPlainName name) (attributesPlain : AttributesPlain attributes)
    (holdsRich : isRich name = true) {raw : List Char} (ends : EndsAt name raw) :
    Markup.root isRich (Token.write [.opening name attributes, .text raw, .closing name]) =
      .ok (.mk name attributes [] (String.ofList raw)) := by
  have reaches : Reaches isRich .empty
      ((Token.opening name attributes).written ++ (raw ++ ((Token.closing name).written ++ [])))
      (Tree.empty.attach (.mk name attributes [] (String.ofList raw))) [] :=
    reaches_rich plain attributesPlain holdsRich ends
  have reads := reaches.readTree_eq rfl
  have written : Token.writeFrom 0 false [.opening name attributes, .text raw, .closing name] =
      (Token.opening name attributes).written ++ (raw ++ ((Token.closing name).written ++ [])) := by
    rw [writeFrom_tag 0 false rfl, writeFrom_text, writeFrom_tag _ false rfl]
    rfl
  have marked : withoutMark ((Token.opening name attributes).written ++ (raw ++ ((Token.closing name).written ++ []))) =
      (Token.opening name attributes).written ++ (raw ++ ((Token.closing name).written ++ [])) := rfl
  rw [Token.write, written, Markup.root, String.toList_ofList]
  simp only [marked, reads]
  rfl

/-- A rich text whose end is not found makes the document unreadable. -/
theorem root_of_rawContent? (plain : IsPlainName name) (attributesPlain : AttributesPlain attributes)
    (holdsRich : isRich name = true) {raw : List Char}
    (lost : rawContent? name ((raw ++ (Token.closing name).written).length + 1) [] []
      (raw ++ (Token.closing name).written) = none) :
    Markup.root isRich (Token.write [.opening name attributes, .text raw, .closing name]) = .error .notWellFormed := by
  have written : Token.writeFrom 0 false [.opening name attributes, .text raw, .closing name] =
      (Token.opening name attributes).written ++ (raw ++ (Token.closing name).written) := by
    rw [writeFrom_tag 0 false rfl, writeFrom_text, writeFrom_tag _ false rfl]
    simp [gap, Token.writeFrom]
  have marked : withoutMark ((Token.opening name attributes).written ++ (raw ++ (Token.closing name).written)) =
      (Token.opening name attributes).written ++ (raw ++ (Token.closing name).written) := rfl
  rw [Token.write, written, Markup.root, String.toList_ofList, marked, readTree,
    next_opening plain attributesPlain]
  simp only [attributes?_attributesText attributesPlain, holdsRich, if_true, lost]

/-- Markup in a rich element is read back exactly if it does not step out of the element that it is tried in; else the
document cannot be read. -/
theorem root_rich_iff (plain : IsPlainName name) (other : name ≠ "r") (attributesPlain : AttributesPlain attributes)
    (holdsRich : isRich name = true) {s : String} (markup : isMarkup s = true) :
    (Markup.root isRich (Token.write [.opening name attributes, .text s.toList, .closing name]) =
        .ok (.mk name attributes [] s) ↔ ¬StepsOut s) ∧
      (StepsOut s → Markup.root isRich (Token.write [.opening name attributes, .text s.toList, .closing name]) =
        .error .notWellFormed) := by
  have lost : StepsOut s → Markup.root isRich (Token.write [.opening name attributes, .text s.toList, .closing name]) =
      .error .notWellFormed := by
    intro leaves
    apply root_of_rawContent? plain attributesPlain holdsRich
    exact rawContent?_of_stepsOut other leaves (by simp)
  refine ⟨⟨fun reads leaves => ?_, fun stays => ?_⟩, lost⟩
  · rw [lost leaves] at reads
    cases reads
  · have ends := (endsAt_iff plain other markup).mpr stays
    rw [root_of_endsAt plain attributesPlain holdsRich ends, String.ofList_toList]

end Markup
end ProductGraph
