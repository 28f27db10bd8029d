import ProductGraph.Proofs.Pattern.Behind

namespace ProductGraph
namespace Expression

/-!
# Characters before what is written behind

Counts, names, flags and escapes are read the same before whatever is written behind them.
-/

open Unicode (isBlank isAsciiDigit)

section Characters

variable {spaced : Bool} {cs rest : List Char}

/-! ## Counts and names -/

theorem takes_takeDigits (spaced : Bool) : Takes spaced isAsciiDigit id (takeDigits spaced) where
  zero _ := rfl
  nil steps := by cases steps <;> rfl
  stops steps c cs other := by
    cases steps with
    | zero => rfl
    | succ steps =>
        rw [takeDigits]
        simp only [other, Bool.false_eq_true, if_false]
  goesOn steps c cs digit := by
    rw [takeDigits]
    simp only [digit, if_true, id]

/-- A count is read alike. -/
theorem extends_readCount {n : Nat} (reads : readCount spaced cs = some (n, rest)) :
    Extends (fun _ => readCount spaced) 0 cs n rest := by
  have eq : ∀ cs, readCount spaced cs =
      (fun taken : List Char × List Char =>
        if taken.1.isEmpty || Nat.pow 2 32 ≤ digitsValue taken.1 then none
        else some (digitsValue taken.1, skip spaced (taken.2.dropWhile isBlank)))
        (takeDigits spaced (cs.dropWhile isBlank).length (cs.dropWhile isBlank)) := fun _ => rfl
  rw [eq] at reads
  rcases Option.ite_none_left_eq_some.mp reads with ⟨counts, parts⟩
  cases parts
  have digits := ((takes_takeDigits spaced).extends (by decide) (Nat.le_refl (cs.dropWhile isBlank).length)).own
  have behind := (cuts_dropBlanks (takeDigits spaced (cs.dropWhile isBlank).length (cs.dropWhile isBlank)).2).andThen
    (cuts_skip spaced _)
  refine behind.behind ((cuts_dropBlanks cs).reading digits) fun t _ left found => ?_
  rw [eq, Option.some.inj found]
  exact if_neg counts

/-- Where a text is split at a character, it is split there before whatever is written behind. -/
theorem split_append {p : Char → Bool} {c : Char} (parts : cs.dropWhile p = c :: rest) (t : List Char) :
    (cs ++ t).takeWhile p = cs.takeWhile p ∧ (cs ++ t).dropWhile p = c :: (rest ++ t) := by
  induction cs with
  | nil => cases parts
  | cons d others ih =>
      cases goesOn : p d with
      | false =>
          rw [List.dropWhile_cons_of_neg (ne_true_of_eq_false goesOn)] at parts
          cases parts
          simp [goesOn]
      | true =>
          rw [List.dropWhile_cons_of_pos goesOn] at parts
          simp [goesOn, ih parts]

/-- The name of a group is read alike. -/
theorem extends_readGroupName {name : List Char} (reads : readGroupName cs = some (name, rest)) :
    Extends (fun _ => readGroupName) 0 cs name rest := by
  unfold readGroupName at reads
  simp only at reads
  split at reads
  · next first others d left named parts =>
      split at reads
      · next legal =>
          cases reads
          have suffix : rest <:+ cs := by
            refine (List.suffix_cons d rest).trans ?_
            rw [← parts]
            exact List.dropWhile_suffix _
          refine .of_append suffix fun t _ _ => ?_
          rcases split_append parts t with ⟨taken, behind⟩
          unfold readGroupName
          simp only [taken, behind, named, legal, if_true]
      · cases reads
  · cases reads

/-- The flags of a group are read alike, and something is left behind them. -/
theorem extends_readFlags {taken flags : FlagSettings} {negated dangling : Bool}
    (reads : readFlags taken negated dangling cs = some (flags, rest)) :
    Extends (fun _ => readFlags taken negated dangling) 0 cs flags rest ∧ rest ≠ [] := by
  fun_induction readFlags taken negated dangling cs with
  | case1 => cases reads
  | case2 => cases reads
  | case3 taken negated dangling c others closes done =>
      cases reads
      refine ⟨.here fun t _ => ?_, List.cons_ne_nil _ _⟩
      rw [List.cons_append, readFlags, if_pos closes, if_neg done]
  | case4 => cases reads
  | case5 taken negated dangling others fresh goesOn ih =>
      rcases ih reads with ⟨later, left⟩
      refine ⟨(Cuts.drop _ others).before later fun t _ => ?_, left⟩
      rw [List.cons_append, readFlags, if_neg goesOn, if_pos rfl, if_neg fresh]
      rfl
  | case6 => cases reads
  | case7 => cases reads
  | case8 taken negated dangling c others goesOn hyphen flag found fresh ih =>
      rcases ih reads with ⟨later, left⟩
      refine ⟨(Cuts.drop c others).before later fun t _ => ?_, left⟩
      rw [List.cons_append, readFlags, if_neg goesOn, if_neg hyphen, found]
      exact if_neg fresh

/-! ## Escapes -/

/-- Hexadecimal digits of a given number are read alike. -/
theorem extends_readHexDigits {value digits n : Nat} (reads : readHexDigits spaced value digits cs = some (n, rest)) :
    Extends (fun _ => readHexDigits spaced value digits) 0 cs n rest := by
  induction digits generalizing value cs with
  | zero =>
      cases reads
      exact .here fun _ _ => rfl
  | succ digits ih =>
      cases cs with
      | nil => cases reads
      | cons c others =>
          rw [readHexDigits] at reads
          cases found : hexValue? c with
          | none =>
              rw [found] at reads
              cases reads
          | some digit =>
              rw [found] at reads
              refine (cuts_next spaced c others).before (ih reads) fun t _ => ?_
              rw [List.cons_append, readHexDigits, found]

/-- Hexadecimal digits up to a brace are read alike. -/
theorem extends_readHexBrace {value : Option Nat} {steps n : Nat}
    (reads : readHexBrace spaced value steps cs = some (n, rest)) :
    Extends (fun fuel => readHexBrace spaced value fuel) steps cs n rest := by
  fun_induction readHexBrace spaced value steps cs with
  | case1 => cases reads
  | case2 => cases reads
  | case3 value steps others =>
      rcases Option.map_eq_some_iff.mp reads with ⟨v, known, same⟩
      cases same
      refine Extends.succ ((cuts_next spaced _ others).giving fun t fuel => ?_)
      simp only [List.cons_append, readHexBrace, known, Option.map_some]
  | case4 value steps c others notBrace unread =>
      cases reads
  | case5 value steps c others notBrace digit found ih =>
      refine Extends.succ ((cuts_next spaced c others).before (ih reads) fun t fuel => ?_)
      simp only [List.cons_append, readHexBrace, found]

/-- A character by its code point is read alike. -/
theorem extends_readHex {digits : Nat} {l : Literal} (given : digits ≠ 0)
    (reads : readHex spaced digits cs = some (l, rest)) : Extends (fun _ => readHex spaced digits) 0 cs l rest := by
  unfold readHex at reads
  split at reads
  · next others =>
      split at reads
      · cases reads
      · next value left braced =>
          rcases Option.map_eq_some_iff.mp reads with ⟨c, known, same⟩
          cases same
          have number := ((cuts_next spaced _ others).reading (extends_readHexBrace braced)).own
          refine number.giving fun t _ left found => ?_
          rw [List.cons_append] at found ⊢
          unfold readHex
          simp only [found, known, Option.map_some]
  · next notBrace =>
      split at reads
      · cases reads
      · next value left readsDigits =>
          rcases Option.map_eq_some_iff.mp reads with ⟨c, known, same⟩
          cases same
          refine (extends_readHexDigits readsDigits).giving fun t _ left found => ?_
          unfold readHex
          split
          · next brace =>
              cases cs with
              | nil =>
                  rcases Nat.exists_eq_succ_of_ne_zero given with ⟨fewer, rfl⟩
                  cases readsDigits
              | cons c others =>
                  cases brace
                  exact absurd rfl (notBrace _)
          · simp only [found, known, Option.map_some]

/-- The name of a property is read alike. -/
theorem extends_readBraced {steps : Nat} {name : List Char} (reads : readBraced spaced steps cs = some (name, rest)) :
    Extends (fun fuel => readBraced spaced fuel) steps cs name rest := by
  fun_induction readBraced spaced steps cs generalizing name with
  | case1 => cases reads
  | case2 => cases reads
  | case3 steps others =>
      cases reads
      exact Extends.succ ((Cuts.drop _ _).giving fun _ _ => rfl)
  | case4 steps c others notBrace ih =>
      rcases Option.map_eq_some_iff.mp reads with ⟨⟨more, left⟩, found, same⟩
      cases same
      refine Extends.succ (((cuts_next spaced c others).reading (ih found)).giving fun t fuel left found => ?_)
      rw [List.cons_append] at found ⊢
      simp only [readBraced, found, Option.map_some]

/-- A property is read alike. -/
theorem extends_readProperty {query : PropertyQuery} (reads : readProperty spaced cs = some (query, rest)) :
    Extends (fun _ => readProperty spaced) 0 cs query rest := by
  unfold readProperty at reads
  split at reads
  · cases reads
  · next others =>
      rcases Option.map_eq_some_iff.mp reads with ⟨⟨text, left⟩, found, same⟩
      cases same
      have braced := ((cuts_next spaced _ others).reading (extends_readBraced found)).own
      refine braced.giving fun t _ left found => ?_
      rw [List.cons_append] at found ⊢
      simp only [readProperty, found, Option.map_some]
  · next c others notBrace =>
      rcases Option.ite_none_left_eq_some.mp reads with ⟨plain, same⟩
      cases same
      refine (cuts_next spaced c others).giving fun t _ => ?_
      rw [List.cons_append]
      simp only [readProperty, if_neg plain]

theorem takes_takeBoundaryName (spaced : Bool) : Takes spaced isBoundaryNameChar id (takeBoundaryName spaced) where
  zero _ := rfl
  nil steps := by cases steps <;> rfl
  stops steps c cs other := by
    cases steps with
    | zero => rfl
    | succ steps =>
        rw [takeBoundaryName]
        simp only [other, Bool.false_eq_true, if_false]
  goesOn steps c cs letter := by
    rw [takeBoundaryName]
    simp only [letter, if_true, id]

theorem readBoundary_cons {c : Char} (plain : c ≠ '\x7b') (tail : List Char) :
    readBoundary spaced (c :: tail) = some (.boundary, c :: tail) := by
  unfold readBoundary
  split
  · next same => exact absurd (List.cons.inj same).1 plain
  · rfl

/-- A word boundary with something in braces behind it is read alike. -/
theorem extends_readBoundary_braced {others : List Char} {a : Assertion}
    (reads : readBoundary spaced ('\x7b' :: others) = some (a, rest)) :
    Extends (fun _ => readBoundary spaced) 0 ('\x7b' :: others) a rest := by
  simp only [readBoundary] at reads
  split at reads
  · cases reads
  · next d inner behind =>
      have grows : ∀ t, next spaced ('\x7b' :: (others ++ t)) = d :: (inner ++ t) := fun t => by
        rw [← List.cons_append, (cuts_next spaced _ others).append (behind ▸ List.cons_ne_nil _ _), behind,
          List.cons_append]
      split at reads
      · next letter =>
          have enough : (next spaced ('\x7b' :: others)).length ≤ ('\x7b' :: others).length :=
            (cuts_next spaced _ others).length_le
          have name := ((cuts_next spaced _ others).reading
            ((takes_takeBoundaryName spaced).extends (by decide) enough)).own
          rw [behind] at name
          generalize takeBoundaryName spaced ('\x7b' :: others).length (d :: inner) = taken at reads name
          rcases taken with ⟨letters, left⟩
          simp only at reads name
          split at reads
          · next tail =>
              have goesOn : ∀ t, takeBoundaryName spaced ('\x7b' :: (others ++ t)).length (d :: (inner ++ t)) =
                  (letters, '\x7d' :: (tail ++ t)) := fun t => by
                rw [← grows]
                exact Option.some.inj (name.beyond (List.cons_ne_nil _ _) t (Nat.le_refl _))
              have suffix : tail <:+ '\x7b' :: others := (List.suffix_cons _ tail).trans name.suffix
              split at reads
              all_goals
                cases reads
              all_goals
                next named =>
                  refine .of_append suffix fun t _ _ => ?_
                  simp only [List.cons_append, readBoundary, grows, letter, if_true, goesOn, named]
          · cases reads
      · next other =>
          cases reads
          refine .here fun t _ => ?_
          simp only [List.cons_append, readBoundary, grows, other, Bool.false_eq_true, if_false]

/-- A word boundary is read alike. -/
theorem extends_readBoundary {a : Assertion} (reads : readBoundary spaced cs = some (a, rest)) :
    Extends (fun _ => readBoundary spaced) 0 cs a rest := by
  cases cs with
  | nil =>
      cases reads
      refine ⟨List.suffix_rfl, .inl fun t _ closes _ => ?_⟩
      rcases (closes rfl).cases with rfl | ⟨more, rfl⟩
      · rfl
      · rfl
  | cons c others =>
      by_cases brace : c = '\x7b'
      · subst brace
        exact extends_readBoundary_braced reads
      · rw [readBoundary_cons brace] at reads
        cases reads
        exact .here fun t _ => readBoundary_cons brace (others ++ t)

/-- Behind most letters an escape says at once what it stands for. -/
theorem readEscape_cons {c : Char} (short : c ∉ ['x', 'u', 'U', 'p', 'P', 'b']) (tail : List Char) :
    readEscape spaced (c :: tail) = (readEscape spaced [c]).map fun (a, _) => (a, tail) := by
  unfold readEscape
  simp only
  split <;> simp_all

/-- An escape for which more is read behind its letter is read alike if this is. -/
theorem extends_readEscape_cons {β : Type} {read : List Char → Option (β × List Char)} (make : β → Atom) {c : Char}
    {others : List Char} {a : Atom}
    (each : ∀ {cs b rest}, read cs = some (b, rest) → Extends (fun _ => read) 0 cs b rest)
    (eq : ∀ tail, readEscape spaced (c :: tail) =
      (read (next spaced (c :: tail))).map fun found => (make found.1, found.2))
    (reads : readEscape spaced (c :: others) = some (a, rest)) :
    Extends (fun _ => readEscape spaced) 0 (c :: others) a rest := by
  rw [eq] at reads
  rcases Option.map_eq_some_iff.mp reads with ⟨⟨b, left⟩, found, same⟩
  cases same
  refine ((cuts_next spaced c others).reading (each found)).giving fun t _ left found => ?_
  rw [List.cons_append] at found ⊢
  rw [eq, found]
  rfl

/-- An escape is read alike. -/
theorem extends_readEscape {a : Atom} (reads : readEscape spaced cs = some (a, rest)) :
    Extends (fun _ => readEscape spaced) 0 cs a rest := by
  cases cs with
  | nil => cases reads
  | cons c others =>
      by_cases more : c ∈ ['x', 'u', 'U', 'p', 'P', 'b']
      · have number : ∀ {digits : Nat}, digits ≠ 0 → ∀ {cs : List Char} {l : Literal} {rest : List Char},
            readHex spaced digits cs = some (l, rest) → Extends (fun _ => readHex spaced digits) 0 cs l rest :=
          fun given _ _ _ => extends_readHex given
        simp only [List.mem_cons, List.not_mem_nil, or_false] at more
        rcases more with rfl | rfl | rfl | rfl | rfl | rfl
        · exact extends_readEscape_cons .literal (number (by decide)) (fun _ => rfl) reads
        · exact extends_readEscape_cons .literal (number (by decide)) (fun _ => rfl) reads
        · exact extends_readEscape_cons .literal (number (by decide)) (fun _ => rfl) reads
        · exact extends_readEscape_cons (.property · false) extends_readProperty (fun _ => rfl) reads
        · exact extends_readEscape_cons (.property · true) extends_readProperty (fun _ => rfl) reads
        · rcases Option.map_eq_some_iff.mp reads with ⟨⟨kind, left⟩, found, same⟩
          cases same
          refine ((Cuts.drop _ others).reading (extends_readBoundary found)).giving fun t _ left found => ?_
          exact Option.map_eq_some_iff.mpr ⟨(kind, left), found, rfl⟩
      · rw [readEscape_cons more] at reads
        rcases Option.map_eq_some_iff.mp reads with ⟨⟨_, _⟩, found, same⟩
        cases same
        refine .of_append (List.suffix_cons c _) fun t _ _ => ?_
        rw [List.cons_append, readEscape_cons more, found]
        rfl

end Characters

end Expression
end ProductGraph
