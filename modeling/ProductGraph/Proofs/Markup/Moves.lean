import ProductGraph.Markup.Element

namespace ProductGraph
namespace Markup

/-!
# Reading event by event

Reading a document goes from one place and tree to the next, by one event at a time; the content of a rich element counts
as one event.  What an event does to the tree is said here once, for every way to go on: a tag adds an element, opens one
or closes one, and anything else adds to the text of the element around it.
-/

/-- What an event that is no tag adds to the text around it.  Outside all elements references are not looked at. -/
def Event.adds? (inside : Bool) : Event → Option (List Char)
  | .text raw => if inside then resolve? raw else some []
  | .characterData content => some content
  | .aside => some []
  | .opening .. | .single .. | .closing _ => none

namespace Tree

def isInside (t : Tree) : Bool := !t.opened.isEmpty

theorem addText_nil (t : Tree) : t.addText [] = t := by
  rcases t with ⟨_ | ⟨innermost, others⟩, root⟩
  · rfl
  · simp [addText, OpenElement.addText]

end Tree

variable {isRich : String → Bool}

/-- What one event makes of a tree. -/
inductive Moves (isRich : String → Bool) : Tree → List Char → Tree → List Char → Prop
  | single {t : Tree} {cs after written : List Char} {name : String} {attributes : List (String × String)}
      (tag : next cs = .event (.single name written) after) (values : attributes? written = some attributes) :
      Moves isRich t cs (t.attach (.mk name attributes [] "")) after
  | rich {t : Tree} {cs within after written content : List Char} {name : String} {attributes : List (String × String)}
      (tag : next cs = .event (.opening name written) within) (values : attributes? written = some attributes)
      (holdsRich : isRich name = true)
      (found : rawContent? name (within.length + 1) [] [] within = some (content, after)) :
      Moves isRich t cs (t.attach (.mk name attributes [] (String.ofList content))) after
  | opening {t : Tree} {cs after written : List Char} {name : String} {attributes : List (String × String)}
      (tag : next cs = .event (.opening name written) after) (values : attributes? written = some attributes)
      (notRich : isRich name = false) :
      Moves isRich t cs ⟨⟨name, attributes, [], []⟩ :: t.opened, t.root⟩ after
  | closing {innermost : OpenElement} {others : List OpenElement} {root : Option Element} {cs after : List Char}
      (tag : next cs = .event (.closing innermost.name) after) :
      Moves isRich ⟨innermost :: others, root⟩ cs (Tree.attach ⟨others, root⟩ innermost.close) after
  | beside {t : Tree} {cs after text : List Char} {event : Event} (reads : next cs = .event event after)
      (adds : event.adds? t.isInside = some text) : Moves isRich t cs (t.addText text) after

variable {t t' last : Tree} {cs cs' : List Char} {steps : Nat}

theorem Moves.readTree_eq (moves : Moves isRich t cs t' cs') (steps : Nat) :
    readTree isRich (steps + 1) t cs = readTree isRich steps t' cs' := by
  rw [readTree]
  cases moves with
  | single tag values => simp only [tag, values]
  | rich tag values holdsRich found => simp only [tag, values, holdsRich, found, if_true]
  | opening tag values notRich => simp only [tag, values, notRich, Bool.false_eq_true, if_false]
  | closing tag => simp only [tag, if_true]
  | @beside _ _ _ _ event reads adds =>
      simp only [reads]
      cases event with
      | text raw =>
          rcases t with ⟨_ | ⟨innermost, others⟩, root⟩
          · rfl
          · have resolves : resolve? raw = some _ := adds
            simp only [resolves]
            rfl
      | characterData content =>
          cases adds
          rfl
      | aside =>
          cases adds
          rw [Tree.addText_nil]
      | opening | single | closing => cases adds

/-- Reading is at the end of the document, breaks off or goes on by one event. -/
theorem moves_cases (isRich : String → Bool) (steps : Nat) (t : Tree) (cs : List Char) :
    next cs = .finished ∧ readTree isRich (steps + 1) t cs = .ok t ∨
      readTree isRich (steps + 1) t cs = .error .notWellFormed ∨ ∃ t' cs', Moves isRich t cs t' cs' := by
  rw [readTree]
  cases step : next cs with
  | finished => exact .inl ⟨rfl, rfl⟩
  | broken => exact .inr (.inl rfl)
  | event event rest =>
      refine .inr ?_
      cases event with
      | aside => exact .inr ⟨_, _, .beside step rfl⟩
      | characterData content => exact .inr ⟨_, _, .beside step rfl⟩
      | text raw =>
          rcases t with ⟨_ | ⟨innermost, others⟩, root⟩
          · exact .inr ⟨_, _, .beside step rfl⟩
          · cases resolves : resolve? raw with
            | none => exact .inl (by simp [resolves])
            | some text => exact .inr ⟨_, _, .beside step resolves⟩
      | closing name =>
          rcases t with ⟨_ | ⟨innermost, others⟩, root⟩
          · exact .inl rfl
          · by_cases same : name = innermost.name
            · subst same
              exact .inr ⟨_, _, .closing step⟩
            · exact .inl (if_neg same)
      | single name written =>
          cases values : attributes? written with
          | none => exact .inl (by simp [values])
          | some attributes => exact .inr ⟨_, _, .single step values⟩
      | opening name written =>
          cases values : attributes? written with
          | none => exact .inl (by simp [values])
          | some attributes =>
              cases holdsRich : isRich name with
              | false => exact .inr ⟨_, _, .opening step values holdsRich⟩
              | true =>
                  cases found : rawContent? name (rest.length + 1) [] [] rest with
                  | none => exact .inl (by simp [values, holdsRich, found])
                  | some parts => exact .inr ⟨_, _, .rich step values holdsRich found⟩

/-- A reading that succeeds is at the end of the document or goes on by one event. -/
theorem moves_of_readTree (reads : readTree isRich (steps + 1) t cs = .ok last) :
    next cs = .finished ∧ last = t ∨
      ∃ t' cs', Moves isRich t cs t' cs' ∧ readTree isRich steps t' cs' = .ok last := by
  rcases moves_cases isRich steps t cs with ⟨finished, atEnd⟩ | broken | ⟨t', cs', moves⟩
  · rw [atEnd] at reads
    exact .inl ⟨finished, (Except.ok.inj reads).symm⟩
  · rw [broken] at reads
    cases reads
  · exact .inr ⟨t', cs', moves, moves.readTree_eq steps ▸ reads⟩

/-- Reading does not ask for a root, nor for elements to be closed. -/
theorem readTree_error {error : TreeError} (fails : readTree isRich steps t cs = .error error) :
    error = .notWellFormed := by
  induction steps generalizing t cs with
  | zero => exact (Except.error.inj fails).symm
  | succ steps ih =>
      rcases moves_cases isRich steps t cs with ⟨_, atEnd⟩ | broken | ⟨_, _, moves⟩
      · rw [atEnd] at fails
        cases fails
      · rw [broken] at fails
        exact (Except.error.inj fails).symm
      · exact ih (moves.readTree_eq steps ▸ fails)

end Markup
end ProductGraph
