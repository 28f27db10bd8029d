import ProductGraph.Proofs.Pattern.Characters

namespace ProductGraph
namespace Expression

/-!
# Brackets before what is written behind

A bracket is read up to the one that closes it.  Nothing in it looks further: whether a name in it is that of a class,
and whether a hyphen makes a range, is told by what stands before the closing bracket.
-/

open Unicode (isBlank)

/-- No class of ASCII characters has a bracket in its name. -/
theorem asciiClass?_of_mem {name : List Char} (closes : ']' ∈ name) : asciiClass? (String.ofList name) = none := by
  unfold asciiClass?
  split <;> try rfl
  all_goals
    next named =>
      have letters := congrArg String.toList named
      rw [String.toList_ofList] at letters
      rw [letters] at closes
      revert closes
      decide

section Sets

variable {spaced : Bool} {cs rest : List Char}

/-- The class with the name at the front of a text, up to a colon and a bracket. -/
def namedClass? (negated : Bool) (named : List Char) : Option (SetExpression × List Char) :=
  match named.dropWhile (· != ':') with
  | ':' :: ']' :: tail =>
    (asciiClass? (String.ofList (named.takeWhile (· != ':')))).map fun cls => (.ascii cls negated, tail)
  | _ => none

theorem namedClass?_of_mem {negated : Bool} (closes : ']' ∈ cs.takeWhile (· != ':')) :
    namedClass? negated cs = none := by
  unfold namedClass?
  split
  · rw [asciiClass?_of_mem closes, Option.map_none]
  · rfl

theorem namedClass?_of_ne {negated : Bool} {c : Char} (parts : cs.dropWhile (· != ':') = ':' :: c :: rest)
    (other : c ≠ ']') : namedClass? negated cs = none := by
  unfold namedClass?
  rw [parts]
  split
  · next same => exact absurd (List.cons.inj (List.cons.inj same).2).1 other
  · rfl

/-- Whether a class has the name at the front of a text shows before the bracket that closes. -/
theorem namedClass?_append {negated : Bool} (closes : ']' ∈ cs) (t : List Char) :
    namedClass? negated (cs ++ t) = (namedClass? negated cs).map fun (s, rest) => (s, rest ++ t) := by
  by_cases within : ']' ∈ cs.takeWhile (· != ':')
  · have goesOn : ']' ∈ (cs ++ t).takeWhile (· != ':') := by
      rw [List.takeWhile_append]
      split
      · exact List.mem_append_left _ closes
      · exact within
    rw [namedClass?_of_mem within, namedClass?_of_mem goesOn, Option.map_none]
  · have behind : ']' ∈ cs.dropWhile (· != ':') := by
      rw [← List.takeWhile_append_dropWhile (p := (· != ':')) (l := cs)] at closes
      exact (List.mem_append.mp closes).resolve_left within
    cases parts : cs.dropWhile (· != ':') with
    | nil =>
        rw [parts] at behind
        cases behind
    | cons c more =>
        have colon : c = ':' := by
          have stops := List.head?_dropWhile_not (· != ':') cs
          rw [parts] at stops
          simpa using stops
        subst colon
        cases more with
        | nil =>
            rw [parts] at behind
            simp at behind
        | cons d tail =>
            rcases split_append parts t with ⟨taken, left⟩
            by_cases bracket : d = ']'
            · subst bracket
              unfold namedClass?
              rw [taken, left, parts]
              simp only [List.cons_append, Option.map_map]
              rfl
            · rw [namedClass?_of_ne left bracket, namedClass?_of_ne parts bracket, Option.map_none]

theorem suffix_of_namedClass? {negated : Bool} {s : SetExpression} (found : namedClass? negated cs = some (s, rest)) :
    rest <:+ cs := by
  unfold namedClass? at found
  split at found
  · next tail parts =>
      rcases Option.map_eq_some_iff.mp found with ⟨cls, _, same⟩
      cases same
      refine ((List.suffix_cons ']' _).trans (List.suffix_cons ':' _)).trans ?_
      rw [← parts]
      exact List.dropWhile_suffix _
  · cases found

theorem readAsciiClass_cons (cs : List Char) : readAsciiClass (':' :: cs) =
    namedClass? (cs.head? == some '^') (if cs.head? == some '^' then cs.drop 1 else cs) := rfl

theorem readAsciiClass_of_ne {c : Char} (other : c ≠ ':') (cs : List Char) : readAsciiClass (c :: cs) = none := by
  unfold readAsciiClass
  split
  · next same => exact absurd (List.cons.inj same).1 other
  · rfl

/-- A class of ASCII characters is there or not, whatever is written behind the bracket that closes. -/
theorem readAsciiClass_append (closes : ']' ∈ cs) (t : List Char) :
    readAsciiClass (cs ++ t) = (readAsciiClass cs).map fun (s, rest) => (s, rest ++ t) := by
  cases cs with
  | nil => cases closes
  | cons c others =>
      by_cases colon : c = ':'
      · subst colon
        have closes : ']' ∈ others := (List.mem_cons.mp closes).resolve_left (by decide)
        cases others with
        | nil => cases closes
        | cons d named =>
            simp only [List.cons_append, readAsciiClass_cons, List.head?_cons, List.drop_succ_cons, List.drop_zero]
            by_cases caret : d = '^'
            · subst caret
              exact namedClass?_append ((List.mem_cons.mp closes).resolve_left (by decide)) t
            · have noCaret : (some d == some '^') = false := by simpa using caret
              simp only [noCaret, Bool.false_eq_true, if_false]
              exact namedClass?_append closes t
      · rw [List.cons_append, readAsciiClass_of_ne colon, readAsciiClass_of_ne colon, Option.map_none]

theorem suffix_of_readAsciiClass {s : SetExpression} (found : readAsciiClass cs = some (s, rest)) : rest <:+ cs := by
  cases cs with
  | nil => cases found
  | cons c others =>
      by_cases colon : c = ':'
      · subst colon
        rw [readAsciiClass_cons] at found
        refine (suffix_of_namedClass? found).trans (List.IsSuffix.trans ?_ (List.suffix_cons ':' others))
        split
        · exact List.drop_suffix 1 others
        · exact List.suffix_rfl
      · rw [readAsciiClass_of_ne colon] at found
        cases found

/-! ## The items of a bracket -/

/-- Whatever reads escapes as escapes, and any other character as something whatever follows, reads alike. -/
theorem extends_of_plain {read : List Char → Option (Atom × List Char)} {a : Atom} (nothing : read [] = none)
    (escape : ∀ tail, read ('\\' :: tail) = readEscape spaced tail)
    (plain : ∀ c, c ≠ '\\' → ∃ b, ∀ tail, read (c :: tail) = some (b, tail)) (reads : read cs = some (a, rest)) :
    Extends (fun _ => read) 0 cs a rest := by
  cases cs with
  | nil => cases nothing.symm.trans reads
  | cons c others =>
      by_cases escaped : c = '\\'
      · subst escaped
        exact (Cuts.drop _ others).before (extends_readEscape ((escape others).symm.trans reads)) fun t _ => escape _
      · rcases plain c escaped with ⟨b, eq⟩
        rw [eq] at reads
        cases reads
        exact (Cuts.drop c _).giving fun _ _ => eq _

/-- A character or escape in a bracket is read alike. -/
theorem extends_readSetAtom {a : Atom} (reads : readSetAtom spaced cs = some (a, rest)) :
    Extends (fun _ => readSetAtom spaced) 0 cs a rest := by
  refine extends_of_plain rfl (fun _ => rfl) (fun c escaped => ⟨.literal ⟨c, false⟩, fun tail => ?_⟩) reads
  unfold readSetAtom
  split
  · next same => cases same
  · next same => exact absurd (List.cons.inj same).1 escaped
  · next same =>
      cases same
      rfl

theorem peekBlanks_append {inComment : Bool} (closes : ']' ∈ cs) (t : List Char) :
    peekBlanks inComment (cs ++ t) = peekBlanks inComment cs := by
  fun_induction peekBlanks inComment cs with
  | case1 => cases closes
  | case2 inComment c others blank ih =>
      have later : ']' ∈ others := by
        refine (List.mem_cons.mp closes).resolve_left fun same => ?_
        rw [← same] at blank
        revert blank
        decide
      rw [List.cons_append, peekBlanks, if_pos blank, ih later]
  | case3 inComment c others solid opens ih =>
      have later : ']' ∈ others := by
        refine (List.mem_cons.mp closes).resolve_left fun same => ?_
        rw [← same] at opens
        simp at opens
      rw [List.cons_append, peekBlanks, if_neg solid, if_pos opens, ih later]
  | case4 inComment c others solid stays =>
      rw [List.cons_append, peekBlanks, if_neg solid, if_neg stays]

/-- The character after the next one is found before the bracket that closes. -/
theorem peek_append {c : Char} (closes : ']' ∈ cs) (t : List Char) :
    peek spaced (c :: (cs ++ t)) = peek spaced (c :: cs) := by
  have sameHead : (cs ++ t).head? = cs.head? := by
    cases cs with
    | nil => cases closes
    | cons d others => rfl
  unfold peek
  simp only [List.drop_succ_cons, List.drop_zero, peekBlanks_append closes, sameHead]

/-- An item of a bracket that is closed later is read alike. -/
theorem extends_readSetItem {s : SetExpression} (reads : readSetItem spaced cs = some (s, rest)) (closes : ']' ∈ rest) :
    Extends (fun _ => readSetItem spaced) 0 cs s rest := by
  unfold readSetItem at reads
  split at reads
  · cases reads
  · next low left atom =>
      simp only at reads
      split at reads
      · cases reads
      · next c others between =>
          have behind := cuts_skip spaced left
          have suffix : c :: others <:+ cs := by
            rw [← between]
            exact behind.suffix.trans (extends_readSetAtom atom).suffix
          have grows : ∀ t, skip spaced (left ++ t) = c :: (others ++ t) := fun t => by
            rw [behind.append (between ▸ List.cons_ne_nil _ _), between, List.cons_append]
          have leftNonempty : left ≠ [] := by
            rintro rfl
            cases spaced <;> cases between
          have atomGrows : ∀ t, readSetAtom spaced (cs ++ t) = some (low, left ++ t) := fun t =>
            (extends_readSetAtom atom).beyond leftNonempty t (Nat.le_refl _)
          rw [between] at reads
          have samePeek : ']' ∈ others → ∀ t, peek spaced (c :: (others ++ t)) = peek spaced (c :: others) :=
            fun later => peek_append later
          split at reads
          · next single =>
              rcases Option.map_eq_some_iff.mp reads with ⟨part, found, same⟩
              cases same
              have goesOn : ∀ t, (c != '-' || peek spaced (c :: (others ++ t)) == some ']' ||
                  peek spaced (c :: (others ++ t)) == some '-') = true := by
                intro t
                by_cases hyphen : c = '-'
                · rw [samePeek ((List.mem_cons.mp closes).resolve_left fun same => ?_)]
                  · exact single
                  · rw [hyphen] at same
                    cases same
                · simp [hyphen]
              refine .of_append suffix fun t _ _ => ?_
              unfold readSetItem
              simp only [atomGrows, grows, goesOn, if_true, found, Option.map_some, List.cons_append]
          · next range =>
              split at reads
              · next a b tail second =>
                  rcases Option.ite_none_right_eq_some.mp reads with ⟨ordered, same⟩
                  cases same
                  have behindHyphen := cuts_next spaced c others
                  have atomBehind := extends_readSetAtom second
                  have within : rest <:+ skip spaced others := atomBehind.suffix
                  have later : ']' ∈ others := (within.trans (cuts_skip spaced others).suffix).subset closes
                  have leftNonempty : next spaced (c :: others) ≠ [] := List.ne_nil_of_mem (within.subset closes)
                  refine .of_append (atomBehind.suffix.trans (behindHyphen.suffix.trans suffix)) fun t _ _ => ?_
                  have secondGrows := atomBehind.beyond (List.ne_nil_of_mem closes) t (Nat.le_refl _)
                  have nextGrows : next spaced (c :: (others ++ t)) = next spaced (c :: others) ++ t :=
                    behindHyphen.append leftNonempty t
                  unfold readSetItem
                  simp only [atomGrows, grows, samePeek later, range, nextGrows, secondGrows, Bool.false_eq_true,
                    if_false, ordered, if_true]
              · cases reads

/-- The hyphens in front of a bracket are characters. -/
theorem takes_readHyphens (spaced : Bool) :
    Takes spaced (· == '-') (fun _ => .literal ⟨'-', false⟩) (readHyphens spaced) where
  zero _ := rfl
  nil steps := by cases steps <;> rfl
  stops steps c cs other := by
    cases steps with
    | zero => rfl
    | succ steps =>
        unfold readHyphens
        split
        · next same =>
            cases same
            cases other
        · rfl
  goesOn steps c cs hyphen := by
    cases eq_of_beq hyphen
    rfl

/-! ## Sets -/

/-- A reading that goes up to a bracket that closes.  It is the same before whatever is written behind. -/
structure Closed (steps : Nat) (cs rest : List Char) (reads : Nat → List Char → List Char → Prop) : Prop where
  suffix : rest <:+ cs
  closes : ']' ∈ cs
  append : ∀ t fuel, steps ≤ fuel → reads fuel (cs ++ t) (rest ++ t)

/-- A step is taken, and what is left is read. -/
theorem Closed.step {steps : Nat} {mid : List Char} {onward reads : Nat → List Char → List Char → Prop}
    (goesOn : Closed steps mid rest onward) (suffix : mid <:+ cs)
    (same : ∀ t fuel, steps ≤ fuel → onward fuel (mid ++ t) (rest ++ t) → reads (fuel + 1) (cs ++ t) (rest ++ t)) :
    Closed (steps + 1) cs rest reads := by
  refine ⟨goesOn.suffix.trans suffix, suffix.subset goesOn.closes, fun t fuel enough => ?_⟩
  rcases Nat.exists_eq_add_of_le' (Nat.le_trans (Nat.le_add_left 1 steps) enough) with ⟨fewer, rfl⟩
  have le : steps ≤ fewer := Nat.le_of_succ_le_succ enough
  exact same t fewer le (goesOn.append t fewer le)

/-- What stands in a bracket behind its opening and the caret that negates it. -/
def readInside (steps : Nat) (spaced negated : Bool) (start : List Char) : Option (Bool × SetExpression × List Char) :=
  let (hyphens, rest) := readHyphens spaced start.length start
  match hyphens.isEmpty, rest with
  | true, ']' :: _ =>
    (readSet steps spaced none [.literal ⟨']', false⟩] (next spaced rest)).map fun (s, tail) => (negated, s, tail)
  | _, _ => (readSet steps spaced none hyphens rest).map fun (s, tail) => (negated, s, tail)

theorem readBracket_succ (steps : Nat) (cs : List Char) : readBracket (steps + 1) spaced cs =
    readInside steps spaced ((skip spaced cs).head? == some '^')
      (if (skip spaced cs).head? == some '^' then next spaced (skip spaced cs) else skip spaced cs) := by
  rw [readBracket]
  rfl

/-- Every reading of a set with some steps is closed. -/
def ClosedSets (spaced : Bool) (steps : Nat) : Prop :=
  ∀ pending parts cs s rest, readSet steps spaced pending parts cs = some (s, rest) →
    Closed steps cs rest fun fuel cs rest => readSet fuel spaced pending parts cs = some (s, rest)

theorem closed_readInside {steps : Nat} {negated negates : Bool} {s : SetExpression} (sets : ClosedSets spaced steps)
    (reads : readInside steps spaced negated cs = some (negates, s, rest)) :
    Closed steps cs rest fun fuel cs rest => readInside fuel spaced negated cs = some (negates, s, rest) := by
  have taken := ((takes_readHyphens spaced).extends (by decide) (Nat.le_refl cs.length)).own
  have grows : ∀ t, ']' ∈ (readHyphens spaced cs.length cs).2 → readHyphens spaced (cs ++ t).length (cs ++ t) =
      ((readHyphens spaced cs.length cs).1, (readHyphens spaced cs.length cs).2 ++ t) :=
    fun t closes => Option.some.inj (taken.beyond (List.ne_nil_of_mem closes) t (Nat.le_refl _))
  unfold readInside at reads
  generalize readHyphens spaced cs.length cs = read at reads taken grows
  rcases read with ⟨hyphens, left⟩
  simp only at reads grows taken
  split at reads
  · next others noOperation =>
      rcases Option.map_eq_some_iff.mp reads with ⟨⟨_, _⟩, found, same⟩
      cases same
      have closed := sets _ _ _ _ _ found
      have behind := cuts_next spaced ']' others
      refine ⟨closed.suffix.trans (behind.suffix.trans taken.suffix), taken.suffix.subset List.mem_cons_self, ?_⟩
      intro t fuel enough
      have nextGrows : next spaced (']' :: (others ++ t)) = next spaced (']' :: others) ++ t :=
        behind.append (List.ne_nil_of_mem closed.closes) t
      unfold readInside
      simp only [grows t List.mem_cons_self, noOperation, List.cons_append, nextGrows, closed.append t fuel enough,
        Option.map_some]
  · next left _ _ notFirst =>
      rcases Option.map_eq_some_iff.mp reads with ⟨⟨_, _⟩, found, same⟩
      cases same
      have closed := sets _ _ _ _ _ found
      refine ⟨closed.suffix.trans taken.suffix, taken.suffix.subset closed.closes, fun t fuel enough => ?_⟩
      unfold readInside
      simp only [grows t closed.closes]
      split
      · next noOperation same =>
          cases left with
          | nil => cases closed.closes
          | cons c others =>
              cases same
              exact (notFirst _ noOperation rfl).elim
      · rw [closed.append t fuel enough, Option.map_some]

theorem closed_readBracket_succ {steps : Nat} {negated : Bool} {s : SetExpression} (sets : ClosedSets spaced steps)
    (reads : readBracket (steps + 1) spaced cs = some (negated, s, rest)) : Closed (steps + 1) cs rest
      fun fuel cs rest => readBracket fuel spaced cs = some (negated, s, rest) := by
  rw [readBracket_succ] at reads
  have behind := cuts_skip spaced cs
  cases start : skip spaced cs with
  | nil =>
      rw [start] at reads
      cases (closed_readInside sets reads).closes
  | cons c others =>
      have grows : ∀ t, skip spaced (cs ++ t) = c :: (others ++ t) := fun t => by
        rw [behind.append (start ▸ List.cons_ne_nil _ _), start, List.cons_append]
      rw [start] at reads
      have suffix : c :: others <:+ cs := start ▸ behind.suffix
      by_cases caret : ((c :: others).head? == some '^') = true
      · rw [if_pos caret] at reads
        have closed := closed_readInside sets reads
        have nextGrows : ∀ t, next spaced (c :: (others ++ t)) = next spaced (c :: others) ++ t :=
          fun t => (cuts_next spaced c others).append (List.ne_nil_of_mem closed.closes) t
        refine closed.step ((cuts_next spaced c others).suffix.trans suffix) fun t fuel _ found => ?_
        rw [readBracket_succ, grows, List.head?_cons, ← List.head?_cons (a := c) (l := others), if_pos caret, nextGrows]
        exact found
      · rw [if_neg caret] at reads
        refine (closed_readInside sets reads).step suffix fun t fuel _ found => ?_
        rw [readBracket_succ, grows, List.head?_cons, ← List.head?_cons (a := c) (l := others), if_neg caret]
        exact found

/-- Every reading of a bracket with some steps is closed. -/
def ClosedBrackets (spaced : Bool) (steps : Nat) : Prop :=
  ∀ cs negated s rest, readBracket steps spaced cs = some (negated, s, rest) →
    Closed steps cs rest fun fuel cs rest => readBracket fuel spaced cs = some (negated, s, rest)

/-- The operation in front of a text, and what follows it. -/
def operation? : List Char → Option (SetOperation × List Char)
  | '&' :: '&' :: rest => some (.inter, rest)
  | '-' :: '-' :: rest => some (.diff, rest)
  | '~' :: '~' :: rest => some (.symmDiff, rest)
  | _ => none

theorem operation?_eq_some {operation : SetOperation} (found : operation? cs = some (operation, rest)) :
    rest <:+ cs ∧ ∀ t, operation? (cs ++ t) = some (operation, rest ++ t) := by
  unfold operation? at found
  split at found
  · cases found
    exact ⟨(List.suffix_cons '&' _).trans (List.suffix_cons '&' _), fun _ => rfl⟩
  · cases found
    exact ⟨(List.suffix_cons '-' _).trans (List.suffix_cons '-' _), fun _ => rfl⟩
  · cases found
    exact ⟨(List.suffix_cons '~' _).trans (List.suffix_cons '~' _), fun _ => rfl⟩
  · cases found

/-- Two characters are enough to tell that there is no operation. -/
theorem operation?_append {c d : Char} {others : List Char} (noOperation : operation? (c :: d :: others) = none)
    (t : List Char) : operation? (c :: d :: (others ++ t)) = none := by
  unfold operation? at noOperation ⊢
  split at noOperation <;> try cases noOperation
  next noInter noDiff noSymm =>
    split
    · next same => cases same; exact (noInter _ rfl).elim
    · next same => cases same; exact (noDiff _ rfl).elim
    · next same => cases same; exact (noSymm _ rfl).elim
    · rfl

section Parts

variable {steps : Nat} {pending : Option (SetOperation × SetExpression)} {parts : List SetExpression} {s : SetExpression}

/-- What stands behind the opening of a class or a bracket in a set. -/
def readNested (steps : Nat) (spaced : Bool) (pending : Option (SetOperation × SetExpression))
    (parts : List SetExpression) (cs : List Char) : Option (SetExpression × List Char) :=
  match readAsciiClass cs with
  | some (cls, tail) => readSet steps spaced pending (parts ++ [cls]) tail
  | none =>
    match readBracket steps spaced cs with
    | none => none
    | some (negated, inside, tail) => readSet steps spaced pending (parts ++ [.bracket negated inside]) tail

/-- What stands in a set, from an operation or an item on. -/
def readPart (steps : Nat) (spaced : Bool) (pending : Option (SetOperation × SetExpression))
    (parts : List SetExpression) (cs : List Char) : Option (SetExpression × List Char) :=
  match operation? cs with
  | some (operation, tail) => readSet steps spaced (some (operation, combine pending (.ofParts parts))) [] tail
  | none => (readSetItem spaced cs).bind fun part => readSet steps spaced pending (parts ++ [part.1]) part.2

/-- What stands in a set behind what is skipped. -/
def readOnward (steps : Nat) (spaced : Bool) (pending : Option (SetOperation × SetExpression))
    (parts : List SetExpression) : List Char → Option (SetExpression × List Char)
  | [] => none
  | '[' :: rest => readNested steps spaced pending parts rest
  | ']' :: rest => some (combine pending (.ofParts parts), rest)
  | cs => readPart steps spaced pending parts cs

theorem readOnward_of_ne {c : Char} (noOpening : c ≠ '[') (noClosing : c ≠ ']') (others : List Char) :
    readOnward steps spaced pending parts (c :: others) = readPart steps spaced pending parts (c :: others) := by
  unfold readOnward
  split
  · next same => cases same
  · next same => exact (noOpening (List.cons.inj same).1).elim
  · next same => exact (noClosing (List.cons.inj same).1).elim
  · rfl

theorem readSet_succ : readSet (steps + 1) spaced pending parts cs =
    readOnward steps spaced pending parts (skip spaced cs) := by
  rw [readSet]
  generalize skip spaced cs = start
  dsimp only
  split
  · rfl
  · rfl
  · rfl
  · rfl
  · rfl
  · rfl
  · next notEmpty noOpening noClosing noInter noDiff noSymm =>
      have noOperation : operation? start = none := by
        unfold operation?
        split
        · exact (noInter _ rfl).elim
        · exact (noDiff _ rfl).elim
        · exact (noSymm _ rfl).elim
        · rfl
      cases start with
      | nil => exact (notEmpty rfl).elim
      | cons c others =>
          have notOpening : c ≠ '[' := fun same => noOpening others (congrArg (· :: others) same)
          have notClosing : c ≠ ']' := fun same => noClosing others (congrArg (· :: others) same)
          rw [readOnward_of_ne notOpening notClosing, readPart, noOperation]
          cases readSetItem spaced (c :: others) <;> rfl

/-- Behind an opening, a class or a bracket is read first, and then the rest of the set. -/
theorem closed_readNested (sets : ClosedSets spaced steps) (brackets : ClosedBrackets spaced steps)
    (reads : readNested steps spaced pending parts cs = some (s, rest)) :
    Closed steps cs rest fun fuel cs rest => readNested fuel spaced pending parts cs = some (s, rest) := by
  unfold readNested at reads
  split at reads
  · next cls tail named =>
      have closed := sets _ _ _ _ _ reads
      have left := suffix_of_readAsciiClass named
      refine ⟨closed.suffix.trans left, left.subset closed.closes, fun t fuel enough => ?_⟩
      rw [readNested, readAsciiClass_append (left.subset closed.closes), named]
      exact closed.append t fuel enough
  · next unnamed =>
      split at reads
      · cases reads
      · next negated inside tail bracket =>
          have closed := sets _ _ _ _ _ reads
          have nested := brackets _ _ _ _ bracket
          refine ⟨closed.suffix.trans nested.suffix, nested.closes, fun t fuel enough => ?_⟩
          rw [readNested, readAsciiClass_append nested.closes, unnamed, Option.map_none,
            nested.append t fuel enough]
          exact closed.append t fuel enough

/-- An operation or an item is read alike, if what is left of the set is closed: the bracket that closes it stands
behind the first character, so there are two, and these tell whether there is an operation. -/
theorem closed_readPart {c : Char} {others : List Char} (sets : ClosedSets spaced steps) (notClosing : c ≠ ']')
    (reads : readPart steps spaced pending parts (c :: others) = some (s, rest)) :
    Closed steps (c :: others) rest fun fuel cs rest => readPart fuel spaced pending parts cs = some (s, rest) := by
  unfold readPart at reads
  split at reads
  · next operation tail found =>
      have closed := sets _ _ _ _ _ reads
      rcases operation?_eq_some found with ⟨suffix, grows⟩
      refine ⟨closed.suffix.trans suffix, suffix.subset closed.closes, fun t fuel enough => ?_⟩
      rw [readPart, grows]
      exact closed.append t fuel enough
  · next noOperation =>
      rcases Option.bind_eq_some_iff.mp reads with ⟨⟨part, tail⟩, item, found⟩
      have closed := sets _ _ _ _ _ found
      have grows := extends_readSetItem item closed.closes
      have closes : ']' ∈ c :: others := grows.suffix.subset closed.closes
      have later : ']' ∈ others := (List.mem_cons.mp closes).resolve_left notClosing.symm
      rcases List.exists_cons_of_ne_nil (List.ne_nil_of_mem later) with ⟨d, more, rfl⟩
      refine ⟨closed.suffix.trans grows.suffix, closes, fun t fuel enough => ?_⟩
      have itemFound := grows.beyond (List.ne_nil_of_mem closed.closes) t (Nat.le_refl _)
      rw [readPart, itemFound, List.cons_append, List.cons_append, operation?_append noOperation]
      exact closed.append t fuel enough

theorem closed_readOnward (sets : ClosedSets spaced steps) (brackets : ClosedBrackets spaced steps)
    (reads : readOnward steps spaced pending parts cs = some (s, rest)) :
    Closed steps cs rest fun fuel cs rest => readOnward fuel spaced pending parts cs = some (s, rest) := by
  cases cs with
  | nil => cases reads
  | cons c others =>
      by_cases opening : c = '['
      · subst opening
        have closed := closed_readNested sets brackets reads
        exact ⟨closed.suffix.trans (List.suffix_cons '[' others), List.mem_cons_of_mem _ closed.closes, closed.append⟩
      · by_cases closing : c = ']'
        · subst closing
          cases reads
          exact ⟨List.suffix_cons ']' _, List.mem_cons_self, fun _ _ _ => rfl⟩
        · rw [readOnward_of_ne opening closing] at reads
          have closed := closed_readPart sets closing reads
          refine ⟨closed.suffix, closed.closes, fun t fuel enough => ?_⟩
          rw [List.cons_append, readOnward_of_ne opening closing]
          exact closed.append t fuel enough

end Parts

theorem closedSets_succ {steps : Nat} (sets : ClosedSets spaced steps) (brackets : ClosedBrackets spaced steps) :
    ClosedSets spaced (steps + 1) := by
  intro pending parts cs s rest reads
  rw [readSet_succ] at reads
  have closed := closed_readOnward sets brackets reads
  have behind := cuts_skip spaced cs
  refine closed.step behind.suffix fun t fuel _ found => ?_
  rw [readSet_succ, behind.append (List.ne_nil_of_mem closed.closes)]
  exact found

/-- Sets are read the same, and brackets with them, before whatever is written behind. -/
theorem closed_sets (spaced : Bool) (steps : Nat) : ClosedSets spaced steps ∧ ClosedBrackets spaced steps := by
  induction steps with
  | zero =>
      constructor
      · intro pending parts cs s rest reads
        rw [readSet] at reads
        cases reads
      · intro cs negated s rest reads
        rw [readBracket] at reads
        cases reads
  | succ steps ih =>
      exact ⟨closedSets_succ ih.1 ih.2, fun _ _ _ _ => closed_readBracket_succ ih.1⟩

end Sets

end Expression
end ProductGraph
