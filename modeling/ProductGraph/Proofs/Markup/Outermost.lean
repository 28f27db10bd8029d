import ProductGraph.Document.Vocabulary
import ProductGraph.Proofs.Markup.Rich

namespace ProductGraph
namespace Markup

/-!
# Elements at the outermost level

The grammar of a document says which elements stand next to each other, without a tree that is being built: an element
is a single tag, rich text between its tags, or other siblings between its tags.  A document is read exactly if the whole
of it consists of siblings and what lies between them, and there is at least one.

The element that is returned is the last of them.  It is the whole content of the document only if no other stands before
it.
-/

namespace Element

/-- The element that has children and text between its tags. -/
def holding (name : String) (attributes : List (String × String)) (children : List Element) (text : List Char) :
    Element :=
  .mk name attributes children (if children.isEmpty then standing (String.ofList text) else "")

end Element

/-- Elements that stand next to each other between two places of a document, and the text between them.  The places are
inside an element or outside all. -/
inductive Siblings (isRich : String → Bool) : Bool → List Char → List Element → List Char → List Char → Prop
  | nil {inside : Bool} {cs : List Char} : Siblings isRich inside cs [] [] cs
  | single {inside : Bool} {cs after written text rest : List Char} {name : String}
      {attributes : List (String × String)} {elements : List Element}
      (tag : next cs = .event (.single name written) after) (values : attributes? written = some attributes)
      (further : Siblings isRich inside after elements text rest) :
      Siblings isRich inside cs (.mk name attributes [] "" :: elements) text rest
  | rich {inside : Bool} {cs within after written content text rest : List Char} {name : String}
      {attributes : List (String × String)} {elements : List Element}
      (tag : next cs = .event (.opening name written) within) (values : attributes? written = some attributes)
      (holdsRich : isRich name = true)
      (found : rawContent? name (within.length + 1) [] [] within = some (content, after))
      (further : Siblings isRich inside after elements text rest) :
      Siblings isRich inside cs (.mk name attributes [] (String.ofList content) :: elements) text rest
  | nested {inside : Bool} {cs within close after written held text rest : List Char} {name : String}
      {attributes : List (String × String)} {children elements : List Element}
      (tag : next cs = .event (.opening name written) within) (values : attributes? written = some attributes)
      (notRich : isRich name = false) (content : Siblings isRich true within children held close)
      (closing : next close = .event (.closing name) after)
      (further : Siblings isRich inside after elements text rest) :
      Siblings isRich inside cs (.holding name attributes children held :: elements) text rest
  | beside {inside : Bool} {cs after more text rest : List Char} {event : Event} {elements : List Element}
      (reads : next cs = .event event after) (adds : event.adds? inside = some more)
      (further : Siblings isRich inside after elements text rest) :
      Siblings isRich inside cs elements (more ++ text) rest

/-- The elements of a document that are inside no other, in the order in which they stand. -/
def Outermost (isRich : String → Bool) (document : String) (elements : List Element) : Prop :=
  ∃ text rest, Siblings isRich false (withoutMark document.toList) elements text rest ∧ next rest = .finished

variable {isRich : String → Bool}

/-! ## What is grown -/

namespace Tree

/-- The tree with more elements and text where reading stands.  Outside all elements the last element becomes the root,
and text is dropped. -/
def grown (t : Tree) (elements : List Element) (text : List Char) : Tree :=
  match t.opened with
  | innermost :: others => ⟨innermost.grown elements text :: others, t.root⟩
  | [] => ⟨[], elements.getLast?.or t.root⟩

theorem grown_nil (t : Tree) : t.grown [] [] = t := by
  rcases t with ⟨_ | ⟨innermost, others⟩, root⟩
  · rfl
  · simp [grown, OpenElement.grown]

theorem grown_grown (t : Tree) (first second : List Element) (before behind : List Char) :
    (t.grown first before).grown second behind = t.grown (first ++ second) (before ++ behind) := by
  rcases t with ⟨_ | ⟨innermost, others⟩, root⟩
  · simp only [grown, List.getLast?_append, Option.or_assoc]
  · simp only [grown, OpenElement.grown_grown]

theorem isInside_grown (t : Tree) (elements : List Element) (text : List Char) :
    (t.grown elements text).isInside = t.isInside := by
  rcases t with ⟨_ | ⟨innermost, others⟩, root⟩ <;> rfl

theorem attach_eq_grown (t : Tree) (e : Element) : t.attach e = t.grown [e] [] := by
  rcases t with ⟨_ | ⟨innermost, others⟩, root⟩
  · rfl
  · simp [attach, grown, OpenElement.addChild, OpenElement.grown]

theorem addText_eq_grown (t : Tree) (text : List Char) : t.addText text = t.grown [] text := by
  rcases t with ⟨_ | ⟨innermost, others⟩, root⟩ <;> rfl

end Tree

theorem close_grown (name : String) (attributes : List (String × String)) (children : List Element)
    (text : List Char) :
    (OpenElement.grown ⟨name, attributes, [], []⟩ children text).close =
      .holding name attributes children text := by
  cases children with
  | nil =>
      have alone := close_text name attributes (String.ofList text)
      rw [String.toList_ofList] at alone
      exact alone
  | cons first others => simp [OpenElement.grown, OpenElement.close, Element.holding]

/-! ## Siblings are read -/

variable {t t' : Tree} {cs cs' rest text : List Char} {inside : Bool} {elements : List Element}

theorem Moves.length_lt (moves : Moves isRich t cs t' cs') : cs'.length < cs.length := by
  cases moves with
  | single tag _ => exact (length_lt_of_next tag).1
  | rich tag _ _ found =>
      have shorter := (length_lt_of_next tag).1
      have within := length_lt_of_rawContent? found
      omega
  | opening tag _ _ => exact (length_lt_of_next tag).1
  | closing tag => exact (length_lt_of_next tag).1
  | beside reads _ => exact (length_lt_of_next reads).1

theorem Moves.reaches (moves : Moves isRich t cs t' cs') : Reaches isRich t cs t' cs' :=
  reaches_one moves.length_lt moves

/-- What is read after something is read with the tree that has grown by it. -/
theorem Reaches.grown_trans {after more : List Char} {first : List Element}
    (reads : Reaches isRich t cs (t.grown first more) after) (place : t.isInside = inside)
    (further : ∀ t : Tree, t.isInside = inside → Reaches isRich t after (t.grown elements text) rest) :
    Reaches isRich t cs (t.grown (first ++ elements) (more ++ text)) rest := by
  have behind := reads.trans (further _ ((t.isInside_grown first more).trans place))
  rwa [Tree.grown_grown] at behind

/-- Siblings are read wherever they stand, and the tree grows by them. -/
theorem Siblings.reaches (siblings : Siblings isRich inside cs elements text rest) :
    ∀ t : Tree, t.isInside = inside → Reaches isRich t cs (t.grown elements text) rest := by
  induction siblings with
  | nil =>
      intro t _
      rw [Tree.grown_nil]
      exact .refl
  | single tag values _ ih =>
      intro t place
      have first : Reaches isRich t _ _ _ := Moves.reaches (.single tag values)
      rw [Tree.attach_eq_grown] at first
      exact first.grown_trans place ih
  | rich tag values holdsRich found _ ih =>
      intro t place
      have first : Reaches isRich t _ _ _ := Moves.reaches (.rich tag values holdsRich found)
      rw [Tree.attach_eq_grown] at first
      exact first.grown_trans place ih
  | nested tag values notRich _ closing _ ihContent ih =>
      intro t place
      have opens : Reaches isRich t _ _ _ := Moves.reaches (.opening tag values notRich)
      have held := opens.trans (ihContent _ rfl)
      have first := held.trans (Moves.reaches (.closing closing))
      rw [close_grown, Tree.attach_eq_grown] at first
      exact first.grown_trans place ih
  | beside reads adds _ ih =>
      intro t place
      have first : Reaches isRich t _ _ _ := Moves.reaches (.beside reads (place ▸ adds))
      rw [Tree.addText_eq_grown] at first
      exact first.grown_trans place ih

/-! ## What is read are siblings -/

/-- The rest of a document closes all that is open, one level after the other, and ends with a root. -/
inductive Ends (isRich : String → Bool) : Tree → List Char → Option Element → Prop
  | outside {root : Option Element} {cs text rest : List Char} {elements : List Element}
      (siblings : Siblings isRich false cs elements text rest) (ends : next rest = .finished) :
      Ends isRich ⟨[], root⟩ cs (elements.getLast?.or root)
  | inside {o : OpenElement} {os : List OpenElement} {root last : Option Element} {cs text close after : List Char}
      {elements : List Element} (siblings : Siblings isRich true cs elements text close)
      (closing : next close = .event (.closing o.name) after)
      (further : Ends isRich (Tree.attach ⟨os, root⟩ (o.grown elements text).close) after last) :
      Ends isRich ⟨o :: os, root⟩ cs last

variable {last : Option Element}

/-- What stands before siblings at any level joins them. -/
theorem Ends.before {after more : List Char} {first : List Element}
    (joins : ∀ elements text rest, Siblings isRich t.isInside after elements text rest →
      Siblings isRich t.isInside cs (first ++ elements) (more ++ text) rest)
    (ends : Ends isRich (t.grown first more) after last) : Ends isRich t cs last := by
  rcases t with ⟨_ | ⟨innermost, others⟩, root⟩
  · generalize same : Tree.grown ⟨[], root⟩ first more = grown at ends
    cases ends with
    | @outside before _ _ _ elements siblings ends =>
        have root_eq : first.getLast?.or root = before := congrArg Tree.root same
        have joined : Ends isRich ⟨[], root⟩ cs _ := .outside (joins _ _ _ siblings) ends
        rwa [List.getLast?_append, Option.or_assoc, root_eq] at joined
    | inside => cases same
  · cases ends with
    | inside siblings closing further =>
        refine .inside (joins _ _ _ siblings) closing ?_
        rwa [OpenElement.grown_grown] at further

theorem Moves.ends (moves : Moves isRich t cs t' cs') (ends : Ends isRich t' cs' last) : Ends isRich t cs last := by
  cases moves with
  | single tag values =>
      rw [Tree.attach_eq_grown] at ends
      exact ends.before fun _ _ _ siblings => .single tag values siblings
  | rich tag values holdsRich found =>
      rw [Tree.attach_eq_grown] at ends
      exact ends.before fun _ _ _ siblings => .rich tag values holdsRich found siblings
  | opening tag values notRich =>
      -- the element that is opened has been closed by the end, so it is one of the siblings here
      cases ends with
      | inside content closing further =>
          rw [close_grown, Tree.attach_eq_grown] at further
          exact further.before fun _ _ _ siblings => .nested tag values notRich content closing siblings
  | @closing innermost _ _ _ _ tag =>
      refine .inside .nil tag ?_
      have same : innermost.grown [] [] = innermost := by simp [OpenElement.grown]
      rwa [same]
  | beside reads adds =>
      rw [Tree.addText_eq_grown] at ends
      exact ends.before fun _ _ _ siblings => .beside reads adds siblings

theorem ends_of_readTree {steps : Nat} (reads : readTree isRich steps t cs = .ok ⟨[], last⟩) :
    Ends isRich t cs last := by
  induction steps generalizing t cs with
  | zero => cases reads
  | succ steps ih =>
      rcases moves_of_readTree reads with ⟨ends, rfl⟩ | ⟨_, _, moves, reads⟩
      · have here : Ends isRich ⟨[], last⟩ cs (([] : List Element).getLast?.or last) := .outside .nil ends
        exact here
      · exact moves.ends (ih reads)

/-! ## One way to read -/

/-- Siblings stop where a closing tag stands or the document ends. -/
def Stops (cs : List Char) : Prop := next cs = .finished ∨ ∃ name after, next cs = .event (.closing name) after

/-- The event at a place tells how siblings go on there, so they are the same however they are read. -/
theorem Siblings.unique {others : List Element} {otherText otherRest : List Char}
    (first : Siblings isRich inside cs elements text rest) (stops : Stops rest)
    (second : Siblings isRich inside cs others otherText otherRest) (alsoStops : Stops otherRest) :
    elements = others ∧ text = otherText ∧ rest = otherRest := by
  induction first generalizing others otherText otherRest with
  | nil => cases second <;> grind [Stops, Event.adds?]
  | single tag values _ ih =>
      cases second with
      | single alsoTag alsoValues further =>
          cases tag.symm.trans alsoTag
          cases values.symm.trans alsoValues
          rcases ih stops further alsoStops with ⟨rfl, rfl, rfl⟩
          exact ⟨rfl, rfl, rfl⟩
      | _ => grind [Stops, Event.adds?]
  | rich tag values holdsRich found _ ih =>
      cases second with
      | rich alsoTag alsoValues _ alsoFound further =>
          cases tag.symm.trans alsoTag
          cases values.symm.trans alsoValues
          cases found.symm.trans alsoFound
          rcases ih stops further alsoStops with ⟨rfl, rfl, rfl⟩
          exact ⟨rfl, rfl, rfl⟩
      | _ => grind [Stops, Event.adds?]
  | nested tag values notRich _ closing _ ihContent ih =>
      cases second with
      | nested alsoTag alsoValues _ alsoContent alsoClosing further =>
          cases tag.symm.trans alsoTag
          cases values.symm.trans alsoValues
          rcases ihContent (.inr ⟨_, _, closing⟩) alsoContent (.inr ⟨_, _, alsoClosing⟩) with ⟨rfl, rfl, rfl⟩
          cases closing.symm.trans alsoClosing
          rcases ih stops further alsoStops with ⟨rfl, rfl, rfl⟩
          exact ⟨rfl, rfl, rfl⟩
      | _ => grind [Stops, Event.adds?]
  | beside reads adds _ ih =>
      cases second with
      | beside alsoReads alsoAdds further =>
          cases reads.symm.trans alsoReads
          cases adds.symm.trans alsoAdds
          rcases ih stops further alsoStops with ⟨rfl, rfl, rfl⟩
          exact ⟨rfl, rfl, rfl⟩
      | _ => grind [Stops, Event.adds?]

/-! ## Whole documents -/

variable {document : String} {e : Element}

theorem Outermost.unique {others : List Element} (first : Outermost isRich document elements)
    (second : Outermost isRich document others) : elements = others := by
  rcases first with ⟨_, _, siblings, ends⟩
  rcases second with ⟨_, _, alsoSiblings, alsoEnds⟩
  exact (siblings.unique (.inl ends) alsoSiblings (.inl alsoEnds)).1

theorem readTree_of_siblings (siblings : Siblings isRich false cs elements text rest) (ends : next rest = .finished) :
    readTree isRich (cs.length + 1) .empty cs = .ok ⟨[], elements.getLast?⟩ := by
  have grown : Tree.empty.grown elements text = ⟨[], elements.getLast?⟩ := by
    rw [Tree.grown, Tree.empty, Option.or_none]
  rw [(siblings.reaches .empty rfl).readTree_eq ends, grown]

/-- Of the elements at the outermost level the last is returned. -/
theorem Outermost.root_eq (outermost : Outermost isRich document elements) :
    root isRich document = elements.getLast?.elim (.error .noRoot) .ok := by
  rcases outermost with ⟨text, rest, siblings, ends⟩
  rw [root, readTree_of_siblings siblings ends]
  cases elements.getLast? <;> rfl

/-- A document that is read to its end consists of elements at the outermost level. -/
theorem exists_outermost_of_readTree {steps : Nat} {last : Option Element}
    (reads : readTree isRich steps .empty (withoutMark document.toList) = .ok ⟨[], last⟩) :
    ∃ elements, Outermost isRich document elements ∧ elements.getLast? = last := by
  have ends := ends_of_readTree reads
  generalize same : Tree.empty = t at ends
  cases ends with
  | @outside root _ text rest elements siblings ends =>
      cases same
      exact ⟨elements, ⟨text, rest, siblings, ends⟩, (Option.or_none).symm⟩
  | inside => cases same

theorem root_eq_iff (last : Option Element) :
    root isRich document = last.elim (.error .noRoot) .ok ↔
      ∃ elements, Outermost isRich document elements ∧ elements.getLast? = last := by
  constructor
  · intro reads
    rw [root] at reads
    cases tree : readTree isRich ((withoutMark document.toList).length + 1) .empty
        (withoutMark document.toList) with
    | error error =>
        cases readTree_error tree
        cases last <;> simp [tree] at reads
    | ok t =>
        rcases t with ⟨_ | ⟨o, os⟩, found⟩
        · have found_eq : found = last := by
            cases found <;> cases last <;> simp_all
          rw [← found_eq]
          exact exists_outermost_of_readTree tree
        · cases last <;> simp [tree] at reads
  · rintro ⟨elements, outermost, rfl⟩
    exact outermost.root_eq

/-- A document is read exactly if the whole of it consists of elements at the outermost level and what lies between them,
and the last of these, which are the same however the document is taken apart, is what is returned; with none it has no
root.  So if there is no second element, the one that is returned is all there is. -/
theorem root_last_outermost (isRich : String → Bool) (document : String) :
    (∀ e, root isRich document = .ok e ↔ ∃ earlier, Outermost isRich document (earlier ++ [e])) ∧
      (root isRich document = .error .noRoot ↔ Outermost isRich document []) ∧
      (∀ elements others, Outermost isRich document elements → Outermost isRich document others →
        elements = others) ∧
      (∀ e elements, root isRich document = .ok e → Outermost isRich document elements → elements.length ≤ 1 →
        elements = [e]) := by
  have accepted : ∀ e, root isRich document = .ok e ↔ ∃ earlier, Outermost isRich document (earlier ++ [e]) := by
    intro e
    refine (root_eq_iff (some e)).trans ⟨?_, ?_⟩
    · rintro ⟨elements, outermost, isLast⟩
      rcases List.getLast?_eq_some_iff.mp isLast with ⟨earlier, rfl⟩
      exact ⟨earlier, outermost⟩
    · rintro ⟨earlier, outermost⟩
      exact ⟨_, outermost, List.getLast?_concat⟩
  have empty : root isRich document = .error .noRoot ↔ Outermost isRich document [] := by
    refine (root_eq_iff none).trans ⟨?_, fun outermost => ⟨[], outermost, rfl⟩⟩
    rintro ⟨elements, outermost, isLast⟩
    rwa [List.getLast?_eq_none_iff.mp isLast] at outermost
  refine ⟨accepted, empty, fun _ _ first second => first.unique second, ?_⟩
  intro e elements reads outermost few
  rcases (accepted e).mp reads with ⟨earlier, alsoOutermost⟩
  cases outermost.unique alsoOutermost
  have noEarlier : earlier = [] := by
    rw [List.length_append, List.length_singleton] at few
    exact List.length_eq_zero_iff.mp (by omega)
  rw [noEarlier, List.nil_append]

/-- A comment and a package are read as the package. -/
theorem root_last_outermost_package :
    root Vocabulary.isRichElement "<!-- draft --><pig:aPackage id=\"d:tools\"/>" =
        .ok (.mk "pig:aPackage" [("id", "d:tools")] [] "") ∧
      ∀ elements, Outermost Vocabulary.isRichElement "<!-- draft --><pig:aPackage id=\"d:tools\"/>" elements →
        elements = [.mk "pig:aPackage" [("id", "d:tools")] [] ""] := by
  have outermost : Outermost Vocabulary.isRichElement "<!-- draft --><pig:aPackage id=\"d:tools\"/>"
      [.mk "pig:aPackage" [("id", "d:tools")] [] ""] := by
    have comment : next "<!-- draft --><pig:aPackage id=\"d:tools\"/>".toList =
        .event .aside "<pig:aPackage id=\"d:tools\"/>".toList := by decide +kernel
    have tag : next "<pig:aPackage id=\"d:tools\"/>".toList =
        .event (.single "pig:aPackage" " id=\"d:tools\"".toList) [] := by decide +kernel
    have values : attributes? " id=\"d:tools\"".toList = some [("id", "d:tools")] := by decide +kernel
    exact ⟨_, [], .beside comment rfl (.single tag values .nil), rfl⟩
  rcases root_last_outermost Vocabulary.isRichElement "<!-- draft --><pig:aPackage id=\"d:tools\"/>" with
    ⟨accepted, _, unique, only⟩
  have reads := (accepted _).mpr ⟨[], outermost⟩
  refine ⟨reads, fun elements other => only _ elements reads other ?_⟩
  rw [unique _ _ other outermost]
  exact Nat.le_refl _

/-- Of two packages in a document the first is lost, with its graph. -/
theorem exists_outermost_lost :
    ∃ document first last, Outermost Vocabulary.isRichElement document [first, last] ∧
      first.name = "pig:aPackage" ∧ first.children ≠ [] ∧ last.children = [] ∧
      root Vocabulary.isRichElement document = .ok last ∧
      ¬∃ e, Outermost Vocabulary.isRichElement document [e] := by
  have outermost : Outermost Vocabulary.isRichElement
      "<pig:aPackage><pig:graph/></pig:aPackage><pig:aPackage/>"
      [.mk "pig:aPackage" [] [.mk "pig:graph" [] [] ""] "", .mk "pig:aPackage" [] [] ""] := by
    have package : next "<pig:aPackage><pig:graph/></pig:aPackage><pig:aPackage/>".toList =
        .event (.opening "pig:aPackage" []) "<pig:graph/></pig:aPackage><pig:aPackage/>".toList := by decide +kernel
    have graph : next "<pig:graph/></pig:aPackage><pig:aPackage/>".toList =
        .event (.single "pig:graph" []) "</pig:aPackage><pig:aPackage/>".toList := by decide +kernel
    have closing : next "</pig:aPackage><pig:aPackage/>".toList =
        .event (.closing "pig:aPackage") "<pig:aPackage/>".toList := by decide +kernel
    have other : next "<pig:aPackage/>".toList = .event (.single "pig:aPackage" []) [] := by decide +kernel
    have notRich : Vocabulary.isRichElement "pig:aPackage" = false := by decide +kernel
    have content : Siblings Vocabulary.isRichElement true _ _ _ _ := .single graph rfl .nil
    exact ⟨_, [], .nested package rfl notRich content closing (.single other rfl .nil), rfl⟩
  refine ⟨_, _, _, outermost, rfl, nofun, rfl, outermost.root_eq, ?_⟩
  rintro ⟨e, alone⟩
  cases outermost.unique alone

end Markup
end ProductGraph
