import Mathlib.Data.List.TakeWhile
import ProductGraph.Proofs.Markup.Element

namespace ProductGraph
namespace Markup

/-!
# Rich text between its tags

Rich text is kept as it is written, so what ends it has to be found by reading.  If a text alone between the tags of
its element is read back, then it is read back wherever the element stands, whatever follows: each event of it is
over before the closing tag begins.

The last element outside all others is the root, so it has to be ruled out that the text closes its element itself and
that the root is another element behind it.  That one would have to hold more text than is left.
-/

variable {isRich : String → Bool}

/-! ## Events and what follows them -/

/-- What an event adds to the text of an element at most. -/
def Event.size : Event → Nat
  | .text raw => raw.length
  | .characterData content => content.length
  | _ => 0

/-- An event is what stands before the rest, and it stays that if the rest is replaced by one that begins alike. -/
structure Takes (used : List Char) (event : Event) (rest : List Char) : Prop where
  nonempty : used ≠ []
  size : event.size ≤ used.length
  again : ∀ other, rest ≠ [] → other.head? = rest.head? → next (used ++ other) = .event event other

theorem takes_all {cs : List Char} {event : Event} (nonempty : cs ≠ []) (size : event.size ≤ cs.length) :
    Takes cs event [] :=
  ⟨nonempty, size, fun _ left => absurd rfl left⟩

theorem splitAt_again {mark : Char} {cs inside rest : List Char} (parts : splitAt mark cs = (inside, rest))
    (left : rest ≠ []) :
    cs = inside ++ mark :: rest ∧ ∀ other, splitAt mark (inside ++ mark :: other) = (inside, other) := by
  by_cases member : mark ∈ cs
  · rcases List.eq_append_cons_of_mem member with ⟨before, behind, rfl, absent⟩
    rw [splitAt_append absent] at parts
    cases parts
    exact ⟨rfl, splitAt_append absent⟩
  · have all : ∀ c ∈ cs, (c != mark) = true := fun c inCs => bne_iff_ne.mpr fun same => member (same ▸ inCs)
    rw [splitAt, List.dropWhile_eq_nil_iff.mpr all] at parts
    cases parts
    exact absurd rfl left

theorem tagEnd?_again {quote : Option Char} {cs inside rest : List Char}
    (ends : tagEnd? quote cs = some (inside, rest)) :
    cs = inside ++ '>' :: rest ∧ ∀ other, tagEnd? quote (inside ++ '>' :: other) = some (inside, other) := by
  induction cs generalizing quote inside with
  | nil => cases ends
  | cons c more ih =>
      cases quote with
      | none =>
          rw [tagEnd?] at ends
          by_cases isEnd : c = '>'
          · simp only [if_pos isEnd] at ends
            cases ends
            subst isEnd
            exact ⟨rfl, fun other => by rw [List.nil_append, tagEnd?]; rfl⟩
          · simp only [if_neg isEnd] at ends
            rcases Option.map_eq_some_iff.mp ends with ⟨⟨within, tail⟩, behind, same⟩
            cases same
            rcases ih behind with ⟨whole, again⟩
            refine ⟨by rw [whole]; rfl, fun other => ?_⟩
            rw [List.cons_append, tagEnd?]
            simp only [if_neg isEnd, again]
            rfl
      | some q =>
          rw [tagEnd?] at ends
          rcases Option.map_eq_some_iff.mp ends with ⟨⟨within, tail⟩, behind, same⟩
          cases same
          rcases ih behind with ⟨whole, again⟩
          refine ⟨by rw [whole]; rfl, fun other => ?_⟩
          rw [List.cons_append, tagEnd?]
          simp only [again]
          rfl

theorem until?_again {accepts : List Char → Bool} {read cs inside rest : List Char}
    (ends : until? accepts read cs = some (inside, rest)) :
    ∃ used, cs = used ++ '>' :: rest ∧ inside = read.reverse ++ used ∧
      ∀ other, until? accepts read (used ++ '>' :: other) = some (inside, other) := by
  induction cs generalizing read with
  | nil => cases ends
  | cons c more ih =>
      rw [until?] at ends
      split at ends
      · rename_i isEnd
        cases ends
        refine ⟨[], by rw [isEnd.1]; rfl, (List.append_nil _).symm, fun other => ?_⟩
        rw [List.nil_append, until?, if_pos ⟨rfl, isEnd.2⟩]
      · rename_i goesOn
        rcases ih ends with ⟨used, whole, inside_eq, again⟩
        refine ⟨c :: used, by rw [whole]; rfl, by simp [inside_eq], fun other => ?_⟩
        rw [List.cons_append, until?, if_neg goesOn, again]

/-! ## Declarations -/

/-- What character data says, up to its end. -/
def dataEvent? (inside : List Char) : Option Event :=
  let content := inside.take (inside.length - 2)
  if beginsWith "![CDATA[" inside then
    if content.length < 8 then none else some (.characterData (content.drop 8))
  else none

/-- What a comment says, up to its end. -/
def commentEvent? (inside : List Char) : Option Event :=
  if beginsWith "!--" inside then some .aside else none

/-- What a document type says, up to its end. -/
def typeEvent? (inside : List Char) : Option Event :=
  if beginsWith "!DOCTYPE" inside && !(inside.drop 8).all isGap then some .aside else none

/-- A declaration that is read up to where it may end, and says something then. -/
def declared (accepts : List Char → Bool) (event? : List Char → Option Event) (cs : List Char) : Step :=
  (until? accepts [] cs).elim .broken fun found => (event? found.1).elim .broken fun event => .event event found.2

theorem declared_eq_event {accepts : List Char → Bool} {event? : List Char → Option Event} {cs : List Char}
    {event : Event} {rest : List Char} :
    declared accepts event? cs = .event event rest ↔
      ∃ inside, until? accepts [] cs = some (inside, rest) ∧ event? inside = some event := by
  rw [declared]
  cases until? accepts [] cs with
  | none => simp
  | some found =>
      rcases found with ⟨inside, tail⟩
      rw [Option.elim_some]
      constructor
      · intro reads
        cases told : event? inside with
        | none => simp [told] at reads
        | some other =>
            rw [told] at reads
            cases reads
            exact ⟨inside, rfl, told⟩
      · rintro ⟨_, ⟨⟩, told⟩
        rw [told]
        rfl

theorem declaration_data (behind : List Char) :
    declaration ('!' :: '[' :: behind) = declared dataEnds dataEvent? ('!' :: '[' :: behind) := by
  have second : ('!' :: '[' :: behind).drop 1 = '[' :: behind := rfl
  rw [declaration, declared, second]
  cases until? dataEnds [] ('!' :: '[' :: behind) with
  | none => rfl
  | some found =>
      simp only [dataEvent?, Option.elim_some]
      split
      · split <;> rfl
      · rfl

theorem declaration_comment (behind : List Char) :
    declaration ('!' :: '-' :: behind) = declared commentEnds commentEvent? ('!' :: '-' :: behind) := by
  have second : ('!' :: '-' :: behind).drop 1 = '-' :: behind := rfl
  rw [declaration, declared, second]
  cases until? commentEnds [] ('!' :: '-' :: behind) with
  | none => rfl
  | some found =>
      simp only [commentEvent?, Option.elim_some]
      split <;> rfl

theorem declaration_of_ne {c : Char} (data : c ≠ '[') (comment : c ≠ '-') (behind : List Char) :
    declaration ('!' :: c :: behind) =
      if c = 'D' ∨ c = 'd' then declared typeEnds typeEvent? ('!' :: c :: behind) else .broken := by
  have second : ('!' :: c :: behind).drop 1 = c :: behind := rfl
  rw [declaration, declared, second]
  split
  · rename_i same
    exact absurd (List.cons.inj same).1 data
  · rename_i same
    exact absurd (List.cons.inj same).1 comment
  · rename_i same
    cases same
    cases until? typeEnds [] ('!' :: c :: behind) with
    | none => rfl
    | some found =>
        simp only [typeEvent?, Option.elim_some]
        congr 1
        split <;> rfl
  · rename_i nothing
    cases nothing

theorem size_le_of_dataEvent? {inside : List Char} {event : Event} (told : dataEvent? inside = some event) :
    event.size ≤ inside.length := by
  simp only [dataEvent?, Option.ite_none_right_eq_some, Option.ite_none_left_eq_some] at told
  rcases told with ⟨_, _, told⟩
  cases told
  simp only [Event.size, List.length_drop, List.length_take]
  omega

theorem eq_aside_of_commentEvent? {inside : List Char} {event : Event} (told : commentEvent? inside = some event) :
    event = .aside :=
  (Option.some.inj (Option.ite_none_right_eq_some.mp told).2).symm

theorem eq_aside_of_typeEvent? {inside : List Char} {event : Event} (told : typeEvent? inside = some event) :
    event = .aside :=
  (Option.some.inj (Option.ite_none_right_eq_some.mp told).2).symm

/-- The character behind the mark tells what ends a declaration and what it says. -/
theorem declaration_eq (c : Char) :
    (∀ behind, declaration ('!' :: c :: behind) = .broken) ∨
      c ≠ '>' ∧ ∃ accepts event?, (∀ inside event, event? inside = some event → event.size ≤ inside.length) ∧
        ∀ behind, declaration ('!' :: c :: behind) = declared accepts event? ('!' :: c :: behind) := by
  by_cases data : c = '['
  · subst data
    exact .inr ⟨by decide, _, _, fun _ _ => size_le_of_dataEvent?, declaration_data⟩
  · by_cases comment : c = '-'
    · subst comment
      refine .inr ⟨by decide, _, _, fun _ _ told => ?_, declaration_comment⟩
      exact eq_aside_of_commentEvent? told ▸ Nat.zero_le _
    · by_cases isType : c = 'D' ∨ c = 'd'
      · refine .inr ⟨by rcases isType with rfl | rfl <;> decide, typeEnds, typeEvent?, fun _ _ told => ?_, ?_⟩
        · exact eq_aside_of_typeEvent? told ▸ Nat.zero_le _
        · exact fun behind => (declaration_of_ne data comment behind).trans (if_pos isType)
      · exact .inl fun behind => (declaration_of_ne data comment behind).trans (if_neg isType)

/-- What a declaration takes ends with an angle, and what follows has no bearing on it. -/
theorem declaration_again {more : List Char} {event : Event} {rest : List Char}
    (reads : declaration ('!' :: more) = .event event rest) :
    ∃ used, '!' :: more = used ++ '>' :: rest ∧ event.size ≤ used.length ∧ (∃ within, used = '!' :: within) ∧
      ∀ other, declaration (used ++ '>' :: other) = .event event other := by
  cases more with
  | nil => cases reads
  | cons c behind =>
      rcases declaration_eq c with broken | ⟨notEnd, accepts, event?, size, eq⟩
      · rw [broken] at reads
        cases reads
      · rw [eq, declared_eq_event] at reads
        rcases reads with ⟨inside, ends, told⟩
        rcases until?_again ends with ⟨used, whole, inside_eq, alsoEnds⟩
        cases inside_eq
        rcases used with _ | ⟨a, _ | ⟨b, within⟩⟩
        · cases whole
        · exact absurd (List.cons.inj (List.cons.inj whole).2).1 notEnd
        · cases whole
          exact ⟨_, rfl, size _ _ told, ⟨_, rfl⟩,
            fun other => (eq _).trans (declared_eq_event.mpr ⟨_, alsoEnds other, told⟩)⟩

/-! ## Single events -/

/-- A step to an angle that ends what was taken. -/
theorem takes_of_angle (used : List Char) {event : Event} {rest : List Char} (size : event.size ≤ used.length)
    (again : ∀ other, next (used ++ '>' :: other) = .event event other) :
    ∃ taken, used ++ '>' :: rest = taken ++ rest ∧ Takes taken event rest := by
  refine ⟨used ++ ['>'], List.append_cons _ _ _, List.append_ne_nil_of_right_ne_nil _ nofun, ?_, ?_⟩
  · rw [List.length_append]
    omega
  · intro other _ _
    rw [List.append_assoc]
    exact again other

theorem takes_of_splitAt {mark : Char} {after inside rest : List Char} {event : Event}
    (parts : splitAt '>' after = (inside, rest)) (size : event.size = 0)
    (again : ∀ others other, splitAt '>' others = (inside, other) → next ('<' :: mark :: others) = .event event other) :
    ∃ used, '<' :: mark :: after = used ++ rest ∧ Takes used event rest := by
  cases rest with
  | nil => exact ⟨_, (List.append_nil _).symm, takes_all nofun (size ▸ Nat.zero_le _)⟩
  | cons c more =>
      rcases splitAt_again parts nofun with ⟨rfl, alsoParts⟩
      exact takes_of_angle ('<' :: mark :: inside) (size ▸ Nat.zero_le _)
        fun other => again _ _ (alsoParts other)

/-- The name in a closing tag, blanks behind it aside. -/
def closedName (inside : List Char) : String :=
  let trimmed := (inside.reverse.dropWhile isTrailingGap).reverse
  String.ofList (if trimmed.isEmpty then inside else trimmed)

theorem next_slash (more : List Char) :
    next ('<' :: '/' :: more) = .event (.closing (closedName (splitAt '>' more).1)) (splitAt '>' more).2 := rfl

theorem next_question (more : List Char) :
    next ('<' :: '?' :: more) =
      if 1 < (splitAt '>' more).1.length && (splitAt '>' more).1.getLast? == some '?' then
        .event .aside (splitAt '>' more).2
      else .broken := rfl

theorem size_tagOf (inside : List Char) : (tagOf inside).size = 0 := by
  rw [tagOf]
  split <;> rfl

theorem takes_of_text {c : Char} (notAngle : c ≠ '<') (more : List Char) :
    ∃ used, c :: more = used ++ (c :: more).dropWhile (· != '<') ∧
      Takes used (.text ((c :: more).takeWhile (· != '<'))) ((c :: more).dropWhile (· != '<')) := by
  have filled : (c :: more).takeWhile (· != '<') ≠ [] := by
    simp [notAngle]
  have noAngle : '<' ∉ (c :: more).takeWhile (· != '<') :=
    fun member => absurd (List.mem_takeWhile_imp member) (by decide)
  refine ⟨_, List.takeWhile_append_dropWhile.symm, filled, Nat.le_refl _, fun other left same => ?_⟩
  have head := List.head?_dropWhile_not (· != '<') (c :: more)
  cases behind : (c :: more).dropWhile (· != '<') with
  | nil => exact absurd behind left
  | cons d within =>
      rw [behind] at head same
      have angle : d = '<' := by simpa using head
      rw [List.head?_cons, List.head?_eq_some_iff, angle] at same
      rcases same with ⟨others, rfl⟩
      exact next_text filled noAngle

/-- What an event is read from, and what is left behind it. -/
inductive Reads : List Char → Event → List Char → Prop
  | text {c : Char} {more : List Char} (notAngle : c ≠ '<') :
      Reads (c :: more) (.text ((c :: more).takeWhile (· != '<'))) ((c :: more).dropWhile (· != '<'))
  | declaration {more : List Char} {event : Event} {rest : List Char}
      (reads : declaration ('!' :: more) = .event event rest) : Reads ('<' :: '!' :: more) event rest
  | closing {more inside rest : List Char} (parts : splitAt '>' more = (inside, rest)) :
      Reads ('<' :: '/' :: more) (.closing (closedName inside)) rest
  | instruction {more inside rest : List Char} (parts : splitAt '>' more = (inside, rest))
      (complete : (1 < inside.length && inside.getLast? == some '?') = true) : Reads ('<' :: '?' :: more) .aside rest
  | tag {c : Char} {more inside rest : List Char} (mark : c ≠ '!') (slash : c ≠ '/') (question : c ≠ '?')
      (ends : tagEnd? none (c :: more) = some (inside, rest)) : Reads ('<' :: c :: more) (tagOf inside) rest

theorem reads_of_next {cs : List Char} {event : Event} {rest : List Char} (reads : next cs = .event event rest) :
    Reads cs event rest := by
  rcases cs with _ | ⟨first, after⟩
  · cases reads
  · by_cases angle : first = '<'
    · subst angle
      rcases after with _ | ⟨c, more⟩
      · cases reads
      · by_cases mark : c = '!'
        · subst mark
          exact .declaration reads
        · by_cases slash : c = '/'
          · subst slash
            cases reads
            exact .closing rfl
          · by_cases question : c = '?'
            · subst question
              rw [next_question] at reads
              split at reads
              · rename_i complete
                cases reads
                exact .instruction rfl complete
              · cases reads
            · cases ends : tagEnd? none (c :: more) with
              | none =>
                  rw [next, afterAngle_of_ne mark slash question, ends] at reads
                  cases reads
              | some found =>
                  rw [next_of_tagEnd? mark slash question ends] at reads
                  cases reads
                  exact .tag mark slash question ends
    · rw [next_of_ne angle] at reads
      cases reads
      exact .text angle

/-- Every event takes something, and what follows has no bearing on it but for how it begins. -/
theorem takes_of_next {cs : List Char} {event : Event} {rest : List Char} (reads : next cs = .event event rest) :
    ∃ used, cs = used ++ rest ∧ Takes used event rest := by
  cases reads_of_next reads with
  | text notAngle => exact takes_of_text notAngle _
  | declaration reads =>
      rcases declaration_again reads with ⟨used, whole, size, ⟨within, rfl⟩, again⟩
      rw [whole]
      exact takes_of_angle ('<' :: '!' :: within) (Nat.le_succ_of_le size) again
  | closing parts =>
      refine takes_of_splitAt parts rfl fun others other alsoParts => ?_
      rw [next_slash, alsoParts]
  | instruction parts complete =>
      refine takes_of_splitAt parts rfl fun others other alsoParts => ?_
      rw [next_question, alsoParts, if_pos complete]
  | @tag c more inside tail mark slash question ends =>
      rcases tagEnd?_again ends with ⟨whole, again⟩
      rw [whole]
      refine takes_of_angle ('<' :: inside) (size_tagOf inside ▸ Nat.zero_le _) fun other => ?_
      have alsoEnds := again other
      cases inside with
      | nil =>
          cases whole
          exact next_of_tagEnd? mark slash question alsoEnds
      | cons d within =>
          cases whole
          exact next_of_tagEnd? mark slash question alsoEnds

theorem length_lt_of_next {cs : List Char} {event : Event} {rest : List Char} (reads : next cs = .event event rest) :
    rest.length < cs.length ∧ event.size + rest.length ≤ cs.length := by
  rcases takes_of_next reads with ⟨used, rfl, takes⟩
  have filled := List.length_pos_iff.mpr takes.nonempty
  have size := takes.size
  rw [List.length_append]
  omega

/-! ## Content up to its closing tag -/

/-- The elements that are open behind an event, if the event may stand where some are. -/
def openedAfter? (opened : List String) : Event → Option (List String)
  | .opening inner _ => some (inner :: opened)
  | .closing closed =>
    match opened with
    | innermost :: others => if closed = innermost then some others else none
    | [] => none
  | _ => some opened

theorem rawContent?_succ {name : String} {steps : Nat} {opened : List String} {written used : List Char} {event : Event}
    {rest : List Char} (step : next (used ++ rest) = .event event rest) :
    rawContent? name (steps + 1) opened written (used ++ rest) =
      if opened = [] ∧ event = .closing name then some (written.reverse, rest)
      else (openedAfter? opened event).bind
        fun inside => rawContent? name steps inside (used.reverse ++ written) rest := by
  have taken : (used ++ rest).take ((used ++ rest).length - rest.length) = used := by
    rw [List.length_append, Nat.add_sub_cancel, List.take_left]
  rw [rawContent?, step]
  simp only [taken]
  cases event with
  | closing closed =>
      cases opened with
      | nil => simp [openedAfter?]
      | cons innermost others =>
          simp only [openedAfter?, List.cons_ne_nil, false_and, if_false]
          split <;> rfl
  | _ => simp [openedAfter?]

/-- What was found to be the content of an element ends where its closing tag begins, and it is found again whatever
closing tag of that name stands there and whatever follows it. -/
theorem rawContent?_again {name : String} {steps : Nat} {opened : List String} {written cs content tail : List Char}
    (found : rawContent? name steps opened written cs = some (content, tail)) :
    ∃ read close, cs = read ++ close ∧ content = written.reverse ++ read ∧ next close = .event (.closing name) tail ∧
      ∀ more other rest, steps ≤ more → other.head? = close.head? → next other = .event (.closing name) rest →
        rawContent? name more opened written (read ++ other) = some (content, rest) := by
  induction steps generalizing opened written cs with
  | zero => cases found
  | succ steps ih =>
      cases step : next cs with
      | finished => simp [rawContent?, step] at found
      | broken => simp [rawContent?, step] at found
      | event event rest =>
          rcases takes_of_next step with ⟨used, rfl, takes⟩
          rw [rawContent?_succ step] at found
          split at found
          · rename_i ends
            cases found
            refine ⟨[], used ++ tail, rfl, (List.append_nil _).symm, ends.2 ▸ step, ?_⟩
            intro more other rest enough _ closes
            rcases Nat.exists_eq_add_of_le' enough with ⟨fewer, rfl⟩
            rcases takes_of_next closes with ⟨alsoUsed, rfl, _⟩
            rw [List.nil_append, ← Nat.add_assoc, rawContent?_succ closes, if_pos ⟨ends.1, rfl⟩]
          · rename_i goesOn
            rcases Option.bind_eq_some_iff.mp found with ⟨inside, opens, found⟩
            rcases ih found with ⟨read, close, rfl, content_eq, closes, again⟩
            refine ⟨used ++ read, close, (List.append_assoc _ _ _).symm, ?_, closes, ?_⟩
            · simp [content_eq]
            · intro more other rest enough same alsoCloses
              rcases Nat.exists_eq_add_of_le' enough with ⟨fewer, rfl⟩
              have left : read ++ close ≠ [] := by
                intro nothing
                rw [(List.append_eq_nil_iff.mp nothing).2] at closes
                cases closes
              have sameHead : (read ++ other).head? = (read ++ close).head? := by
                rw [List.head?_append, List.head?_append, same]
              rw [List.append_assoc, ← Nat.add_assoc, rawContent?_succ (takes.again _ left sameHead), if_neg goesOn,
                opens, Option.bind_some]
              exact again _ _ _ (Nat.le_add_left _ _) same alsoCloses

/-! ## Text is no longer than what it is read from -/

theorem length_lt_of_rawContent? {name : String} {steps : Nat} {cs content tail : List Char}
    (found : rawContent? name steps [] [] cs = some (content, tail)) : content.length + tail.length < cs.length := by
  rcases rawContent?_again found with ⟨read, close, rfl, content_eq, closes, _⟩
  rw [content_eq, List.reverse_nil, List.nil_append, List.length_append]
  exact Nat.add_lt_add_left (length_lt_of_next closes).1 _

theorem length_le_of_resolveFrom {reference : Option (List Char)} {cs text : List Char}
    (resolves : resolveFrom reference cs = some text) : text.length ≤ cs.length := by
  induction cs generalizing reference text with
  | nil =>
      rw [resolveFrom] at resolves
      split at resolves <;> cases resolves
      exact Nat.le_refl _
  | cons c rest ih =>
      cases reference with
      | none =>
          rw [resolveFrom] at resolves
          by_cases ampersand : c = '&'
          · simp only [if_pos ampersand] at resolves
            exact Nat.le_succ_of_le (ih resolves)
          · simp only [if_neg ampersand] at resolves
            rcases Option.map_eq_some_iff.mp resolves with ⟨behind, within, rfl⟩
            exact Nat.succ_le_succ (ih within)
      | some name =>
          rw [resolveFrom] at resolves
          by_cases ampersand : c = '&'
          · simp [ampersand] at resolves
          · by_cases semicolon : c = ';'
            · simp only [if_neg ampersand, if_pos semicolon] at resolves
              rcases Option.bind_eq_some_iff.mp resolves with ⟨d, _, resolves⟩
              rcases Option.map_eq_some_iff.mp resolves with ⟨behind, within, rfl⟩
              exact Nat.succ_le_succ (ih within)
            · simp only [if_neg ampersand, if_neg semicolon] at resolves
              exact Nat.le_succ_of_le (ih resolves)

theorem length_le_of_adds? {event : Event} {inside : Bool} {text : List Char} (adds : event.adds? inside = some text) :
    text.length ≤ event.size := by
  cases event with
  | text raw =>
      cases inside with
      | false =>
          cases adds
          exact Nat.zero_le _
      | true => exact length_le_of_resolveFrom adds
  | characterData content =>
      cases adds
      exact Nat.le_refl _
  | aside =>
      cases adds
      exact Nat.le_refl _
  | opening | single | closing => cases adds

/-- No element but the given root has as many characters of text as there were to be read, and none that is open can
come to have them from those that are left. -/
structure Tree.Below (n : Nat) (before : Option Element) (left : Nat) (t : Tree) : Prop where
  enough : left ≤ n
  opened : ∀ o ∈ t.opened, o.text.length + left < n
  root : t.root = before ∨ ∃ e, t.root = some e ∧ e.text.toList.length < n

namespace Tree.Below

variable {n left fewer : Nat} {before : Option Element} {t : Tree}

theorem mono (below : t.Below n before left) (le : fewer ≤ left) : t.Below n before fewer where
  enough := Nat.le_trans le below.enough
  opened o member := Nat.lt_of_le_of_lt (Nat.add_le_add_left le _) (below.opened o member)
  root := below.root

theorem attach (below : t.Below n before left) {e : Element} (short : e.text.toList.length < n) :
    (t.attach e).Below n before left := by
  rcases t with ⟨_ | ⟨innermost, others⟩, root⟩
  · exact ⟨below.enough, List.forall_mem_nil _, .inr ⟨e, rfl, short⟩⟩
  · refine ⟨below.enough, ?_, below.root⟩
    have opened := List.forall_mem_cons.mp below.opened
    exact List.forall_mem_cons.mpr ⟨opened.1, opened.2⟩

theorem addText (below : t.Below n before left) {text : List Char} (le : text.length + fewer ≤ left) :
    (t.addText text).Below n before fewer := by
  rcases t with ⟨_ | ⟨innermost, others⟩, root⟩
  · exact below.mono (by omega)
  · have opened := List.forall_mem_cons.mp below.opened
    refine ⟨Nat.le_trans (by omega) below.enough, List.forall_mem_cons.mpr ⟨?_, fun o member => ?_⟩, below.root⟩
    · have own := opened.1
      simp only [OpenElement.addText, List.length_append]
      omega
    · have own := opened.2 o member
      omega

/-- An element is opened, with no text yet. -/
theorem push (below : t.Below n before left) (shorter : fewer < left) (name : String)
    (attributes : List (String × String)) :
    Tree.Below n before fewer { t with opened := ⟨name, attributes, [], []⟩ :: t.opened } := by
  have behind := below.mono (Nat.le_of_lt shorter)
  refine ⟨behind.enough, List.forall_mem_cons.mpr ⟨?_, behind.opened⟩, behind.root⟩
  rw [List.length_nil, Nat.zero_add]
  exact Nat.lt_of_lt_of_le shorter below.enough

/-- The innermost element is closed, with the text that it has come to have. -/
theorem pop (below : t.Below n before left) (shorter : fewer < left) {innermost : OpenElement}
    {others : List OpenElement} (opened : t.opened = innermost :: others) :
    Tree.Below n before fewer (Tree.attach { t with opened := others } innermost.close) := by
  have behind := below.mono (Nat.le_of_lt shorter)
  have inner := List.forall_mem_cons.mp (opened ▸ behind.opened)
  have without : Tree.Below n before fewer { t with opened := others } := ⟨behind.enough, inner.2, behind.root⟩
  refine without.attach ?_
  rw [OpenElement.close, Element.text, String.toList_ofList]
  split
  · exact Nat.lt_of_le_of_lt (Nat.zero_le _) inner.1
  · exact Nat.lt_of_le_of_lt (Nat.le_add_right _ _) inner.1

end Tree.Below

/-- An event leaves less to read, and what it adds to a text is no more than what it takes. -/
theorem Moves.below {n : Nat} {t t' : Tree} {cs cs' : List Char} {before : Option Element}
    (moves : Moves isRich t cs t' cs') (below : t.Below n before cs.length) : t'.Below n before cs'.length := by
  cases moves with
  | single tag _ =>
      have shorter := (length_lt_of_next tag).1
      exact (below.mono (Nat.le_of_lt shorter)).attach (Nat.lt_of_lt_of_le (Nat.zero_lt_of_lt shorter) below.enough)
  | rich tag _ _ found =>
      have shorter := (length_lt_of_next tag).1
      have within := length_lt_of_rawContent? found
      refine (below.mono (by omega)).attach ?_
      rw [Element.text, String.toList_ofList]
      exact Nat.lt_of_lt_of_le (by omega) below.enough
  | opening tag _ _ => exact below.push (length_lt_of_next tag).1 _ _
  | closing tag => exact below.pop (length_lt_of_next tag).1 rfl
  | beside reads adds =>
      have short := length_le_of_adds? adds
      have size := (length_lt_of_next reads).2
      exact below.addText (by omega)

/-- The root that reading comes to is the one there was or has less text than there was to read. -/
theorem root_of_readTree {steps n : Nat} {t t' : Tree} {cs : List Char} {before : Option Element}
    (reads : readTree isRich steps t cs = .ok t') (below : t.Below n before cs.length) :
    t'.root = before ∨ ∃ e, t'.root = some e ∧ e.text.toList.length < n := by
  induction steps generalizing t cs with
  | zero => cases reads
  | succ steps ih =>
      rcases moves_of_readTree reads with ⟨_, rfl⟩ | ⟨_, _, moves, reads⟩
      · exact below.root
      · exact ih reads (moves.below below)

theorem declaration_ne_closing (cs : List Char) (name : String) (rest : List Char) :
    declaration cs ≠ .event (.closing name) rest := by
  intro reads
  unfold declaration at reads
  dsimp only at reads
  repeat' split at reads
  all_goals cases reads

theorem tagOf_ne_closing (inside : List Char) (name : String) : tagOf inside ≠ .closing name := by
  intro same
  rw [tagOf] at same
  split at same <;> cases same

theorem length_closedName (inside : List Char) : (closedName inside).toList.length ≤ inside.length := by
  rw [closedName, String.toList_ofList]
  split
  · exact Nat.le_refl _
  · have shorter := (List.dropWhile_suffix (l := inside.reverse) isTrailingGap).length_le
    rwa [List.length_reverse] at shorter ⊢

/-- A closing tag begins with an angle and a slash, and its name stands before the next closing angle. -/
theorem parts_of_closing {name : String} {cs rest : List Char} (closes : next cs = .event (.closing name) rest) :
    ∃ more inside, cs = '<' :: '/' :: more ∧ splitAt '>' more = (inside, rest) ∧ closedName inside = name := by
  have reads := reads_of_next closes
  generalize same : Event.closing name = event at reads
  cases reads with
  | text => cases same
  | declaration reads => exact absurd (same ▸ reads) (declaration_ne_closing _ _ _)
  | closing parts => exact ⟨_, _, rfl, parts, (Event.closing.inj same).symm⟩
  | instruction => cases same
  | tag => exact absurd same.symm (tagOf_ne_closing _ _)

/-- The closing tag of a name takes at least what it is written with, if anything follows it. -/
theorem length_of_closing {name : String} {cs rest : List Char} (closes : next cs = .event (.closing name) rest)
    (left : rest ≠ []) : rest.length + (Token.closing name).written.length ≤ cs.length := by
  rcases parts_of_closing closes with ⟨more, inside, rfl, parts, rfl⟩
  rcases splitAt_again parts left with ⟨rfl, _⟩
  have short := length_closedName inside
  have written : (Token.closing (closedName inside)).written.length = (closedName inside).toList.length + 3 := by
    change ('<' :: '/' :: ((closedName inside).toList ++ ['>'])).length = _
    simp
  simp only [List.length_cons, List.length_append]
  omega

/-! ## Text alone between its tags -/

/-- A document that begins with the opening tag of a rich element is read as this element and then as what follows its
content. -/
theorem root_of_rich {name : String} (plain : IsPlainName name) (holdsRich : isRich name = true) {behind : List Char}
    {e : Element} (reads : Markup.root isRich (String.ofList ((Token.opening name []).written ++ behind)) = .ok e) :
    ∃ content tail t steps, rawContent? name (behind.length + 1) [] [] behind = some (content, tail) ∧
      readTree isRich steps (Tree.empty.attach (.mk name [] [] (String.ofList content))) tail = .ok t ∧
      t.root = some e := by
  have noAttributes : AttributesPlain [] := ⟨List.forall_mem_nil _, .nil⟩
  have marked : withoutMark ((Token.opening name []).written ++ behind) =
      (Token.opening name []).written ++ behind := by
    rcases exists_written (rfl : (Token.opening name []).isText = false) with ⟨inside, angle⟩
    rw [angle]
    rfl
  rw [Markup.root, String.toList_ofList, marked, readTree, next_opening plain noAttributes] at reads
  simp only [attributes?_attributesText noAttributes, holdsRich, if_true] at reads
  cases found : rawContent? name (behind.length + 1) [] [] behind with
  | none => simp [found] at reads
  | some parts =>
      rcases parts with ⟨content, tail⟩
      simp only [found] at reads
      split at reads
      · cases reads
      · rename_i t tree
        refine ⟨content, tail, t, _, rfl, tree, ?_⟩
        split at reads
        · cases reads
        · split at reads
          · rename_i root
            exact root.trans (congrArg some (Except.ok.inj reads))
          · cases reads

/-- A rich text that is read back alone between the tags of its element is read back wherever the element stands. -/
theorem endsAt_of_root {name s : String} (plain : IsPlainName name) (holdsRich : isRich name = true) {e : Element}
    (reads : Markup.root isRich (String.ofList
      ((Token.opening name []).written ++ (s.toList ++ (Token.closing name).written))) = .ok e)
    (same : e.text = s) : EndsAt name s.toList := by
  rcases root_of_rich plain holdsRich reads with ⟨content, tail, t, steps, found, tree, isRoot⟩
  rcases rawContent?_again found with ⟨read, close, parts, content_eq, closes, again⟩
  rw [List.reverse_nil, List.nil_append] at content_eq
  subst content_eq
  have below : (Tree.empty.attach (.mk name [] [] (String.ofList content))).Below tail.length
      (some (.mk name [] [] (String.ofList content))) tail.length :=
    ⟨Nat.le_refl _, List.forall_mem_nil _, .inl rfl⟩
  have lengths := congrArg List.length parts
  simp only [List.length_append] at lengths
  rcases root_of_readTree tree below with first | ⟨last, root, short⟩
  · -- the element itself is the root, so the text ends where it was found to end
    have own : Element.mk name [] [] (String.ofList content) = e := Option.some.inj (first.symm.trans isRoot)
    have content_eq : content = s.toList := by
      rw [← same, ← own, Element.text, String.toList_ofList]
    subst content_eq
    have closing : (Token.closing name).written = close := List.append_cancel_left parts
    intro steps more enough
    rcases exists_written (rfl : (Token.closing name).isText = false) with ⟨inside, angle⟩
    refine again steps _ more ?_ ?_ (next_closing plain more)
    · simp only [List.length_append] at enough ⊢
      omega
    · rw [← closing, angle]
      rfl
  · -- another element is the root, and it would have more text than there is behind the first
    have other : last = e := Option.some.inj (root.symm.trans isRoot)
    rw [other, same] at short
    have left : tail ≠ [] := by
      rintro rfl
      exact Nat.not_lt_zero _ short
    have taken := length_of_closing closes left
    omega

end Markup
end ProductGraph
