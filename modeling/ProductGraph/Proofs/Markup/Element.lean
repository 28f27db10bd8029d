import ProductGraph.Proofs.Markup.Event
import ProductGraph.Proofs.Markup.Moves

namespace ProductGraph
namespace Markup

/-!
# Elements written and read

Tokens with paired tags, written with any indentation, are read as elements: the blanks between tags end up in the text
of the element around them, which drops them when it is closed.

A text that is all that an element holds is kept unless it is nothing but blanks.  Rich text has to be such that reading
stops at the tag behind it; which text that is, is found by reading.
-/

/-- A text that is not mistaken for layout. -/
def Stands (s : String) : Prop := s.toList.all Unicode.isBlank = true → s = ""

instance (s : String) : Decidable (Stands s) := inferInstanceAs (Decidable (_ → _))

/-- What an element keeps of the text that is all it holds. -/
def standing (s : String) : String := if s.toList.all Unicode.isBlank then "" else s

theorem standing_eq_self_iff {s : String} : standing s = s ↔ Stands s := by
  unfold standing Stands
  split
  · rename_i blank
    exact ⟨fun empty _ => empty.symm, fun stands => (stands blank).symm⟩
  · rename_i visible
    exact ⟨fun _ blank => absurd blank visible, fun _ => rfl⟩

/-- A rich text that ends where the closing tag of its element stands behind it. -/
def EndsAt (name : String) (raw : List Char) : Prop :=
  ∀ steps more, (raw ++ ((Token.closing name).written ++ more)).length < steps →
    rawContent? name steps [] [] (raw ++ ((Token.closing name).written ++ more)) = some (raw, more)

variable {isRich : String → Bool}

/-! ## Reading up to a place -/

/-- Reading one text with a tree comes to reading another, which is shorter by as many characters as steps were taken
or more. -/
def Reaches (isRich : String → Bool) (t : Tree) (cs : List Char) (t' : Tree) (cs' : List Char) : Prop :=
  ∃ steps, steps + cs'.length ≤ cs.length ∧ ∀ more, readTree isRich (steps + more) t cs = readTree isRich more t' cs'

variable {t t' t'' : Tree} {cs cs' cs'' : List Char}

theorem Reaches.refl : Reaches isRich t cs t cs :=
  ⟨0, Nat.le_of_eq (Nat.zero_add _), fun more => by rw [Nat.zero_add]⟩

theorem Reaches.trans (first : Reaches isRich t cs t' cs') (second : Reaches isRich t' cs' t'' cs'') :
    Reaches isRich t cs t'' cs'' := by
  rcases first with ⟨steps, shorter, reads⟩
  rcases second with ⟨others, alsoShorter, alsoReads⟩
  refine ⟨steps + others, by omega, fun more => ?_⟩
  rw [Nat.add_assoc, reads, alsoReads]

theorem reaches_one (shorter : cs'.length < cs.length) (moves : Moves isRich t cs t' cs') :
    Reaches isRich t cs t' cs' :=
  ⟨1, by omega, fun more => by rw [Nat.add_comm, moves.readTree_eq]⟩

/-- A blank text has nothing to resolve. -/
theorem resolve?_of_not_mem (noReference : '&' ∉ cs) : resolve? cs = some cs := by
  induction cs with
  | nil => rfl
  | cons c rest ih =>
      have ordinary : c ≠ '&' := fun same => noReference (same ▸ List.mem_cons_self)
      have behind := ih fun later => noReference (List.mem_cons_of_mem _ later)
      rw [resolve?] at behind ⊢
      rw [resolveFrom_cons ordinary, behind]
      rfl

variable {o : OpenElement} {os : List OpenElement} {root : Option Element} {rest : List Char}

/-- Whatever is no text starts with an angle. -/
theorem exists_written {token : Token} (tag : token.isText = false) : ∃ inside, token.written = '<' :: inside := by
  cases token with
  | text => cases tag
  | declaration => exact ⟨_, rfl⟩
  | opening => exact ⟨_, rfl⟩
  | single => exact ⟨_, rfl⟩
  | closing => exact ⟨_, rfl⟩

theorem length_lt_of_tag {token : Token} (tag : token.isText = false) (rest : List Char) :
    rest.length < (token.written ++ rest).length := by
  rcases exists_written tag with ⟨inside, written⟩
  rw [written, List.length_append, List.length_cons]
  omega

theorem reaches_text {raw text : List Char} (noAngle : '<' ∉ raw) (resolves : resolve? raw = some text) :
    Reaches isRich ⟨o :: os, root⟩ (raw ++ '<' :: rest) ⟨o.addText text :: os, root⟩ ('<' :: rest) := by
  cases raw with
  | nil =>
      cases resolves
      have same : o.addText [] = o := by rw [OpenElement.addText, List.append_nil]
      rw [same]
      exact .refl
  | cons c more =>
      have shorter : ('<' :: rest).length < (c :: more ++ '<' :: rest).length := by
        simp only [List.length_append, List.length_cons]
        omega
      have event : next (c :: more ++ '<' :: rest) = _ := next_text (List.cons_ne_nil c more) noAngle
      exact reaches_one shorter (.beside event resolves)

theorem reaches_opening {name : String} {attributes : List (String × String)} (plain : IsPlainName name)
    (attributesPlain : AttributesPlain attributes) (notRich : isRich name = false) :
    Reaches isRich t ((Token.opening name attributes).written ++ rest)
      ⟨⟨name, attributes, [], []⟩ :: t.opened, t.root⟩ rest := by
  have tag := next_opening plain attributesPlain rest
  exact reaches_one (length_lt_of_tag rfl rest) (.opening tag (attributes?_attributesText attributesPlain) notRich)

theorem reaches_single {name : String} {attributes : List (String × String)} (plain : IsPlainName name)
    (attributesPlain : AttributesPlain attributes) :
    Reaches isRich t ((Token.single name attributes).written ++ rest) (t.attach (.mk name attributes [] "")) rest := by
  have tag := next_single plain attributesPlain rest
  exact reaches_one (length_lt_of_tag rfl rest) (.single tag (attributes?_attributesText attributesPlain))

theorem reaches_closing (plain : IsPlainName o.name) :
    Reaches isRich ⟨o :: os, root⟩ ((Token.closing o.name).written ++ rest)
      ((⟨os, root⟩ : Tree).attach o.close) rest :=
  reaches_one (length_lt_of_tag rfl rest) (.closing (next_closing plain rest))

theorem reaches_rich {name : String} {attributes : List (String × String)} {raw : List Char} (plain : IsPlainName name)
    (attributesPlain : AttributesPlain attributes) (holdsRich : isRich name = true) (ends : EndsAt name raw) :
    Reaches isRich t
      ((Token.opening name attributes).written ++ (raw ++ ((Token.closing name).written ++ rest)))
      (t.attach (.mk name attributes [] (String.ofList raw))) rest := by
  have shorter : rest.length <
      ((Token.opening name attributes).written ++ (raw ++ ((Token.closing name).written ++ rest))).length := by
    have tag : (Token.opening name attributes).isText = false := rfl
    have behind := length_lt_of_tag tag (raw ++ ((Token.closing name).written ++ rest))
    simp only [List.length_append] at behind ⊢
    omega
  have tag := next_opening plain attributesPlain (raw ++ ((Token.closing name).written ++ rest))
  have found := ends _ rest (Nat.lt_succ_self _)
  exact reaches_one shorter (.rich tag (attributes?_attributesText attributesPlain) holdsRich found)

/-! ## Indentation -/

/-- What is written before a tag: a line break where one is due. -/
def gap (depth : Nat) (breaks : Bool) (token : Token) : List Char :=
  if breaks then Token.lineBreak (token.level depth) else []

theorem mem_gap {depth : Nat} {breaks : Bool} {token : Token} {c : Char} (member : c ∈ gap depth breaks token) :
    c = '\n' ∨ c = ' ' := by
  rw [gap] at member
  split at member
  · rcases List.mem_cons.mp member with isBreak | blank
    · exact .inl isBreak
    · exact .inr (List.mem_replicate.mp blank).2
  · cases member

theorem all_isBlank_gap (depth : Nat) (breaks : Bool) (token : Token) :
    (gap depth breaks token).all Unicode.isBlank = true := by
  rw [List.all_eq_true]
  intro c member
  rcases mem_gap member with rfl | rfl <;> decide

theorem writeFrom_tag (depth : Nat) (breaks : Bool) {token : Token} (tag : token.isText = false) (rest : List Token) :
    Token.writeFrom depth breaks (token :: rest) =
      gap depth breaks token ++ (token.written ++ Token.writeFrom (token.depthAfter depth) true rest) := by
  rw [Token.writeFrom, tag, gap, List.append_assoc]
  simp only [Bool.not_false, Bool.and_true]

theorem writeFrom_text (depth : Nat) (breaks : Bool) (written : List Char) (rest : List Token) :
    Token.writeFrom depth breaks (.text written :: rest) = written ++ Token.writeFrom depth false rest := by
  have nothing : (breaks && !(Token.text written).isText) = false := Bool.and_false breaks
  rw [Token.writeFrom, nothing]
  rfl

/-- The blanks before a tag become text of the element around it. -/
theorem reaches_gap (depth : Nat) (breaks : Bool) {token : Token} (tag : token.isText = false) (rest : List Token) :
    Reaches isRich ⟨o :: os, root⟩ (Token.writeFrom depth breaks (token :: rest))
      ⟨o.addText (gap depth breaks token) :: os, root⟩
      (token.written ++ Token.writeFrom (token.depthAfter depth) true rest) := by
  have noAngle : '<' ∉ gap depth breaks token := fun member => absurd (mem_gap member) (by decide)
  have noReference : '&' ∉ gap depth breaks token := fun member => absurd (mem_gap member) (by decide)
  rcases exists_written tag with ⟨inside, written⟩
  rw [writeFrom_tag depth breaks tag, written, List.cons_append]
  exact reaches_text noAngle (resolve?_of_not_mem noReference)

theorem reaches_gap_opening {name : String} {attributes : List (String × String)} (plain : IsPlainName name)
    (attributesPlain : AttributesPlain attributes) (notRich : isRich name = false) (depth : Nat) (breaks : Bool)
    (rest : List Token) :
    Reaches isRich ⟨o :: os, root⟩ (Token.writeFrom depth breaks (.opening name attributes :: rest))
      ⟨⟨name, attributes, [], []⟩ :: o.addText (gap depth breaks (.opening name attributes)) :: os, root⟩
      (Token.writeFrom (depth + 1) true rest) :=
  (reaches_gap depth breaks rfl rest).trans (reaches_opening plain attributesPlain notRich)

/-- An element that is open with some children and some layout more. -/
def OpenElement.grown (o : OpenElement) (elements : List Element) (blank : List Char) : OpenElement :=
  ⟨o.name, o.attributes, elements.reverse ++ o.children, o.text ++ blank⟩

theorem OpenElement.grown_grown (o : OpenElement) (first second : List Element) (blank layout : List Char) :
    (o.grown first blank).grown second layout = o.grown (first ++ second) (blank ++ layout) := by
  simp [OpenElement.grown]

/-- Tokens that are read as elements, one after another, and as layout, wherever they stand. -/
def ReadAs (isRich : String → Bool) (tokens : List Token) (elements : List Element) : Prop :=
  ∀ (o : OpenElement) (os : List OpenElement) (root : Option Element) (depth : Nat) (breaks : Bool)
    (rest : List Token), ∃ blank after, blank.all Unicode.isBlank = true ∧
      Reaches isRich ⟨o :: os, root⟩ (Token.writeFrom depth breaks (tokens ++ rest))
        ⟨o.grown elements blank :: os, root⟩ (Token.writeFrom depth after rest)

namespace ReadAs

variable {tokens others : List Token} {elements more : List Element}

theorem nil : ReadAs isRich [] [] := by
  intro o os root depth breaks rest
  have same : o.grown [] [] = o := by
    rw [OpenElement.grown, List.append_nil]
    rfl
  refine ⟨[], breaks, rfl, ?_⟩
  rw [same]
  exact .refl

/-- Tokens read one after another: the layout before the second joins the layout before the first. -/
theorem append (first : ReadAs isRich tokens elements) (second : ReadAs isRich others more) :
    ReadAs isRich (tokens ++ others) (elements ++ more) := by
  intro o os root depth breaks rest
  rcases first o os root depth breaks (others ++ rest) with ⟨blank, between, isBlank, reads⟩
  rcases second (o.grown elements blank) os root depth between rest with ⟨layout, after, alsoBlank, alsoReads⟩
  refine ⟨blank ++ layout, after, ?_, ?_⟩
  · rw [List.all_append, isBlank, alsoBlank]
    rfl
  · rw [List.append_assoc, ← OpenElement.grown_grown]
    exact reads.trans alsoReads

/-- One element, with the layout before it. -/
theorem one {token : Token} (first : List Token) {e : Element}
    (here : ∀ o os root depth breaks rest,
      Reaches isRich ⟨o :: os, root⟩ (Token.writeFrom depth breaks (token :: first ++ rest))
        ⟨(o.addText (gap depth breaks token)).addChild e :: os, root⟩ (Token.writeFrom depth true rest)) :
    ReadAs isRich (token :: first) [e] :=
  fun o os root depth breaks rest =>
    ⟨gap depth breaks token, true, all_isBlank_gap depth breaks token, here o os root depth breaks rest⟩

end ReadAs

theorem reaches_text_closing {name : String} {written text : List Char} {attributes : List (String × String)}
    (plain : IsPlainName name) (noAngle : '<' ∉ written) (resolves : resolve? written = some text)
    (depth : Nat) (rest : List Token) :
    Reaches isRich ⟨⟨name, attributes, [], []⟩ :: os, root⟩
      (Token.writeFrom depth true (.text written :: .closing name :: rest))
      ((⟨os, root⟩ : Tree).attach (OpenElement.close ⟨name, attributes, [], text⟩))
      (Token.writeFrom (depth - 1) true rest) := by
  have tag : (Token.closing name).isText = false := rfl
  rcases exists_written tag with ⟨inside, angle⟩
  rw [writeFrom_text, writeFrom_tag depth false tag, gap, if_neg Bool.false_ne_true, List.nil_append]
  refine Reaches.trans ?_ (reaches_closing (o := ⟨name, attributes, [], text⟩) plain)
  rw [angle]
  exact reaches_text noAngle resolves

/-- An element that is open with children and layout is closed as an element with these children. -/
theorem close_layout (name : String) (attributes : List (String × String)) (children : List Element) {blank : List Char}
    (isBlank : blank.all Unicode.isBlank = true) :
    OpenElement.close ⟨name, attributes, children.reverse, blank⟩ = .mk name attributes children "" := by
  rw [OpenElement.close, isBlank, Bool.or_true, if_pos rfl, List.reverse_reverse]

theorem close_text (name : String) (attributes : List (String × String)) (s : String) :
    OpenElement.close ⟨name, attributes, [], s.toList⟩ = .mk name attributes [] (standing s) := by
  rw [OpenElement.close, standing]
  by_cases isBlank : s.toList.all Unicode.isBlank = true
  · rw [if_pos isBlank, isBlank]
    rfl
  · simp [isBlank]

namespace ReadAs

variable {name : String} {attributes : List (String × String)}

theorem single (plain : IsPlainName name) (attributesPlain : AttributesPlain attributes) :
    ReadAs isRich [.single name attributes] [.mk name attributes [] ""] :=
  one [] fun _ _ _ depth breaks rest =>
    (reaches_gap depth breaks rfl rest).trans (reaches_single plain attributesPlain)

/-- An element with text is read as one with this text, which is dropped if it is blank. -/
theorem text {written : List Char} {s : String} (plain : IsPlainName name) (attributesPlain : AttributesPlain attributes)
    (notRich : isRich name = false) (noAngle : '<' ∉ written) (resolves : resolve? written = some s.toList) :
    ReadAs isRich [.opening name attributes, .text written, .closing name] [.mk name attributes [] (standing s)] := by
  rw [← close_text]
  exact one [.text written, .closing name] fun _ _ _ depth breaks rest =>
    (reaches_gap_opening plain attributesPlain notRich depth breaks _).trans
      (reaches_text_closing plain noAngle resolves (depth + 1) rest)

theorem rich {raw : List Char} (plain : IsPlainName name) (attributesPlain : AttributesPlain attributes)
    (holdsRich : isRich name = true) (ends : EndsAt name raw) :
    ReadAs isRich [.opening name attributes, .text raw, .closing name]
      [.mk name attributes [] (String.ofList raw)] := by
  refine one [.text raw, .closing name] fun o os root depth breaks rest => ?_
  refine (reaches_gap depth breaks rfl (.text raw :: .closing name :: rest)).trans ?_
  rw [writeFrom_text, writeFrom_tag _ false rfl]
  exact reaches_rich plain attributesPlain holdsRich ends

theorem nested {inside : List Token} {children : List Element} (plain : IsPlainName name)
    (attributesPlain : AttributesPlain attributes) (notRich : isRich name = false)
    (inner : ReadAs isRich inside children) :
    ReadAs isRich (.opening name attributes :: (inside ++ [.closing name])) [.mk name attributes children ""] := by
  refine one (inside ++ [.closing name]) fun o os root depth breaks rest => ?_
  rcases inner ⟨name, attributes, [], []⟩ (o.addText (gap depth breaks (.opening name attributes)) :: os) root
    (depth + 1) true (.closing name :: rest) with ⟨blank, after, isBlank, reads⟩
  have layout : (blank ++ gap (depth + 1) after (.closing name)).all Unicode.isBlank = true := by
    rw [List.all_append, isBlank, all_isBlank_gap]
    rfl
  have joined : Token.opening name attributes :: (inside ++ [.closing name]) ++ rest =
      Token.opening name attributes :: (inside ++ .closing name :: rest) := by
    simp
  rw [joined, ← close_layout name attributes children layout]
  refine (reaches_gap_opening plain attributesPlain notRich depth breaks _).trans (reads.trans ?_)
  refine (reaches_gap (depth + 1) after rfl rest).trans ?_
  have same : (OpenElement.grown ⟨name, attributes, [], []⟩ children blank).addText
      (gap (depth + 1) after (.closing name)) =
      ⟨name, attributes, children.reverse, blank ++ gap (depth + 1) after (.closing name)⟩ := by
    simp [OpenElement.grown, OpenElement.addText]
  rw [same]
  exact reaches_closing plain

end ReadAs

/-! ## Whole documents -/

theorem reaches_declaration : Reaches isRich t (Token.declaration.written ++ rest) t rest := by
  have noAngle : '>' ∉ "xml version=\"1.0\" encoding=\"UTF-8\"?".toList := by decide
  have mark : Token.declaration.written =
      '<' :: '?' :: ("xml version=\"1.0\" encoding=\"UTF-8\"?".toList ++ ['>']) := by decide
  have event : next (Token.declaration.written ++ rest) = .event .aside rest := by
    rw [mark, List.cons_append, List.cons_append, List.append_assoc, List.singleton_append, next, afterAngle]
    simp only [splitAt_append noAngle rest]
    rfl
  have moves : Moves isRich t _ _ _ := .beside event rfl
  rw [Tree.addText_nil] at moves
  exact reaches_one (length_lt_of_tag rfl rest) moves

/-- Blanks outside all elements are dropped. -/
theorem reaches_outside {raw : List Char} (nonempty : raw ≠ []) (noAngle : '<' ∉ raw) :
    Reaches isRich ⟨[], root⟩ (raw ++ '<' :: rest) ⟨[], root⟩ ('<' :: rest) := by
  have shorter : ('<' :: rest).length < (raw ++ '<' :: rest).length := by
    have filled := List.length_pos_iff.mpr nonempty
    simp only [List.length_append, List.length_cons]
    omega
  exact reaches_one shorter (.beside (next_text nonempty noAngle) rfl)

/-- What is reached at the end of a document is what the document is read as. -/
theorem Reaches.readTree_eq (reaches : Reaches isRich t cs t' cs') (ends : next cs' = .finished) :
    readTree isRich (cs.length + 1) t cs = .ok t' := by
  rcases reaches with ⟨steps, shorter, reads⟩
  rcases Nat.exists_eq_add_of_le shorter with ⟨more, length_eq⟩
  have total : cs.length + 1 = steps + (cs'.length + more + 1) := by omega
  rw [total, reads, readTree, ends]

/-- A document that consists of one element is read as this element. -/
theorem root_write {name : String} {attributes : List (String × String)} {tokens : List Token} {children : List Element}
    (plain : IsPlainName name) (attributesPlain : AttributesPlain attributes) (notRich : isRich name = false)
    (inner : ReadAs isRich tokens children) :
    Markup.root isRich (Token.write (.declaration :: .opening name attributes :: (tokens ++ [.closing name]))) =
      .ok (.mk name attributes children "") := by
  let o : OpenElement := ⟨name, attributes, [], []⟩
  let behind := Token.writeFrom 1 true (tokens ++ [.closing name])
  rcases inner o [] none 1 true [.closing name] with ⟨blank, after, isBlank, reads⟩
  have layout : (blank ++ gap 1 after (.closing name)).all Unicode.isBlank = true := by
    rw [List.all_append, isBlank, all_isBlank_gap]
    rfl
  have written : Token.writeFrom 0 false (.declaration :: .opening name attributes :: (tokens ++ [.closing name])) =
      Token.declaration.written ++ (Token.lineBreak 0 ++ ((Token.opening name attributes).written ++ behind)) := by
    rw [writeFrom_tag 0 false rfl, writeFrom_tag _ true rfl]
    rfl
  have opens : Reaches isRich .empty (Token.lineBreak 0 ++ ((Token.opening name attributes).written ++ behind))
      ⟨[o], none⟩ behind := by
    have tag : (Token.opening name attributes).isText = false := rfl
    rcases exists_written tag with ⟨inside, angle⟩
    have opening : Reaches isRich .empty ((Token.opening name attributes).written ++ behind) ⟨[o], none⟩ behind :=
      reaches_opening plain attributesPlain notRich
    refine Reaches.trans ?_ opening
    rw [angle]
    exact reaches_outside nofun (by decide)
  have closes : Reaches isRich ⟨[o.grown children blank], none⟩ (Token.writeFrom 1 after [.closing name])
      ⟨[], some (.mk name attributes children "")⟩ [] := by
    refine (reaches_gap 1 after rfl []).trans ?_
    have same : (o.grown children blank).addText (gap 1 after (.closing name)) =
        ⟨name, attributes, children.reverse, blank ++ gap 1 after (.closing name)⟩ := by
      simp [OpenElement.grown, OpenElement.addText, o]
    rw [same, ← close_layout name attributes children layout]
    exact reaches_closing plain
  have tree := (reaches_declaration.trans (opens.trans (reads.trans closes))).readTree_eq rfl
  rw [← written] at tree
  have text : (Token.write (.declaration :: .opening name attributes :: (tokens ++ [.closing name]))).toList =
      Token.writeFrom 0 false (.declaration :: .opening name attributes :: (tokens ++ [.closing name])) :=
    String.toList_ofList
  have marked : withoutMark (Token.writeFrom 0 false
      (.declaration :: .opening name attributes :: (tokens ++ [.closing name]))) = Token.writeFrom 0 false
      (.declaration :: .opening name attributes :: (tokens ++ [.closing name])) := by
    rw [written]
    rfl
  rw [Markup.root, text, marked]
  simp only [tree]
  rfl

end Markup
end ProductGraph
