import ProductGraph.Proofs.Pattern.Brackets

namespace ProductGraph
namespace Expression

/-!
# Patterns before what is written behind

A level of a pattern is read the same before whatever is written behind it, and so is a pattern as a whole.  Of a text
that is a pattern there are two sorts: behind one a closing parenthesis is left, and behind the other, which ends in a
comment, nothing on the same line is read.
-/

section Parts

variable {spaced : Bool} {cs rest : List Char}

/-! ## Repetitions -/

/-- The end of the counts in braces, with the mark behind it. -/
def closeCounts (spaced : Bool) (least : Nat) (most : Option Nat) (cs : List Char) :
    Option ((Nat × Option Nat) × List Char) :=
  if cs.head? = some '\x7d' ∧ most.all (fun m => least ≤ m) = true then
    some ((least, most), afterMark (next spaced cs))
  else none

/-- What follows the first count. -/
def furtherCounts (spaced : Bool) (least : Nat) (cs : List Char) : Option ((Nat × Option Nat) × List Char) :=
  if cs.head? = some ',' then
    if (next spaced cs).head? = some '\x7d' then closeCounts spaced least none (next spaced cs)
    else (readCount spaced (next spaced cs)).bind fun (most, rest) => closeCounts spaced least (some most) rest
  else closeCounts spaced least (some least) cs

/-- The counts of a repetition and what follows them. -/
def counted (spaced : Bool) (cs : List Char) : Option ((Nat × Option Nat) × List Char) :=
  (readCounts spaced cs).map fun (least, most, rest) => ((least, most), rest)

theorem counted_eq (cs : List Char) :
    counted spaced cs =
      (readCount spaced (skip spaced cs)).bind fun first => furtherCounts spaced first.1 first.2 := by
  unfold counted readCounts
  extract_lets close
  have closes : ∀ (least : Nat) (most : Option Nat) (rest : List Char),
      (close least most rest).map (fun r => ((r.1, r.2.1), r.2.2)) = closeCounts spaced least most rest := by
    intro least most rest
    unfold close closeCounts
    split
    · by_cases ordered : most.all (fun m => least ≤ m) = true
      · rw [if_pos ordered, if_pos ⟨List.head?_cons, ordered⟩]
        generalize next spaced _ = left
        cases left with
        | nil => rfl
        | cons c others =>
            by_cases mark : c = '?'
            · subst mark
              rfl
            · unfold afterMark
              split <;> simp_all
      · rw [if_neg ordered, if_neg fun both => ordered both.2]
        rfl
    · next other =>
        rw [if_neg fun both => ?_]
        · rfl
        · rcases List.head?_eq_some_iff.mp both.1 with ⟨tail, same⟩
          exact other tail same
  cases readCount spaced (skip spaced cs) with
  | none => rfl
  | some first =>
      rcases first with ⟨least, rest⟩
      simp only [Option.bind_some]
      unfold furtherCounts
      by_cases comma : rest.head? = some ','
      · rcases List.head?_eq_some_iff.mp comma with ⟨others, rfl⟩
        rw [if_pos comma]
        generalize next spaced (',' :: others) = more
        simp only
        by_cases brace : more.head? = some '\x7d'
        · rcases List.head?_eq_some_iff.mp brace with ⟨tail, rfl⟩
          rw [if_pos brace]
          exact closes least none ('\x7d' :: tail)
        · rw [if_neg brace]
          split
          · exact absurd rfl brace
          · cases readCount spaced more with
            | none => rfl
            | some second => exact closes least _ _
      · rw [if_neg comma]
        split
        · exact absurd rfl comma
        · exact closes least _ _

theorem extends_closeCounts {least : Nat} {most : Option Nat} {counts : Nat × Option Nat}
    (reads : closeCounts spaced least most cs = some (counts, rest)) :
    Extends (fun _ => closeCounts spaced least most) 0 cs counts rest := by
  rcases Option.ite_none_right_eq_some.mp reads with ⟨⟨brace, ordered⟩, same⟩
  cases same
  rcases List.head?_eq_some_iff.mp brace with ⟨others, rfl⟩
  exact ((cuts_next spaced _ others).andThen (cuts_afterMark _)).giving fun t _ => if_pos ⟨rfl, ordered⟩

theorem extends_furtherCounts {least : Nat} {counts : Nat × Option Nat}
    (reads : furtherCounts spaced least cs = some (counts, rest)) :
    Extends (fun _ => furtherCounts spaced least) 0 cs counts rest := by
  cases cs with
  | nil => cases reads
  | cons c others =>
      unfold furtherCounts at reads
      by_cases comma : (c :: others).head? = some ','
      · rw [if_pos comma] at reads
        have behind := cuts_next spaced c others
        have stays : ∀ t, (c :: others ++ t).head? = some ',' := fun _ => comma
        -- something follows the comma, since neither a brace nor a count is nothing
        have sameHead : next spaced (c :: others) ≠ [] → ∀ t,
            (next spaced (c :: others ++ t)).head? = (next spaced (c :: others)).head? := by
          intro nonempty t
          rw [behind.append nonempty]
          rcases List.exists_cons_of_ne_nil nonempty with ⟨d, more, start⟩
          rw [start, List.cons_append, List.head?_cons, List.head?_cons]
        by_cases brace : (next spaced (c :: others)).head? = some '\x7d'
        · rw [if_pos brace] at reads
          have nonempty : next spaced (c :: others) ≠ [] := by
            intro isNil
            rw [isNil] at brace
            cases brace
          refine behind.before (extends_closeCounts reads) fun t _ => ?_
          rw [furtherCounts, if_pos (stays t), if_pos ((sameHead nonempty t).trans brace)]
        · rw [if_neg brace] at reads
          rcases Option.bind_eq_some_iff.mp reads with ⟨⟨most, left⟩, found, closing⟩
          have nonempty : next spaced (c :: others) ≠ [] := by
            intro isNil
            rw [isNil] at found
            cases found
          refine (behind.reading (extends_readCount found)).both (extends_closeCounts closing) fun t _ left found => ?_
          rw [furtherCounts, if_pos (stays t), if_neg (sameHead nonempty t ▸ brace), found]
          rfl
      · rw [if_neg comma] at reads
        exact (extends_closeCounts reads).giving fun t _ left found => (if_neg comma).trans found

/-- The counts of a repetition are read alike. -/
theorem extends_counted {counts : Nat × Option Nat} (reads : counted spaced cs = some (counts, rest)) :
    Extends (fun _ => counted spaced) 0 cs counts rest := by
  rw [counted_eq] at reads
  rcases Option.bind_eq_some_iff.mp reads with ⟨⟨least, left⟩, found, further⟩
  refine ((cuts_skip spaced cs).reading (extends_readCount found)).both (extends_furtherCounts further) ?_
  intro t _ left found
  rw [counted_eq, found]
  rfl

theorem cuts_mark (mark : Char) (cs : List Char) : Cuts (fun cs => afterMark (cs.drop 1)) (mark :: cs) :=
  (Cuts.drop mark cs).andThen (cuts_afterMark cs)

/-! ## Openings -/

/-- How a parenthesis opens, after white space. -/
theorem readOpening_skip (cs : List Char) : readOpening spaced cs = readOpening false (skip spaced cs) := rfl

theorem readOpening_plain (plain : cs.head? ≠ some '?') : readOpening false cs = some (.capture none, cs) := by
  unfold readOpening
  simp only [skip, Bool.false_eq_true, if_false]
  split <;> first | rfl | exact absurd rfl plain

/-- The flags of a group, or of the rest of a group. -/
def flagged (cs : List Char) : Option (Opening × List Char) :=
  match readFlags [] false false cs with
  | some (flags, ':' :: tail) => some (.group flags, tail)
  | some (flags, ')' :: tail) => if flags.isEmpty then none else some (.settings flags, tail)
  | _ => none

theorem extends_flagged {opening : Opening} (reads : flagged cs = some (opening, rest)) :
    Extends (fun _ => flagged) 0 cs opening rest := by
  unfold flagged at reads
  split at reads
  · next flags tail found =>
      cases reads
      have later := (extends_readFlags found).1
      refine .of_append ((List.suffix_cons ':' _).trans later.suffix) fun t _ _ => ?_
      unfold flagged
      simp only [later.beyond (List.cons_ne_nil _ _) t (Nat.le_refl _), List.cons_append]
  · next flags tail found =>
      rcases Option.ite_none_left_eq_some.mp reads with ⟨mentions, same⟩
      cases same
      have later := (extends_readFlags found).1
      refine .of_append ((List.suffix_cons ')' _).trans later.suffix) fun t _ _ => ?_
      unfold flagged
      simp only [later.beyond (List.cons_ne_nil _ _) t (Nat.le_refl _), List.cons_append, if_neg mentions]
  · cases reads

theorem readOpening_named {c : Char} (ahead : c ≠ '=') (other : c ≠ '!') (tail : List Char) :
    readOpening false ('?' :: '<' :: c :: tail) =
      (readGroupName (c :: tail)).map fun (name, left) => (.capture (some name), left) := by
  unfold readOpening
  simp only [skip, Bool.false_eq_true, if_false]
  split
  case h_6 same =>
    cases same
    rfl
  case h_7 noName same =>
    cases same
    exact (noName _ rfl).elim
  all_goals simp_all

theorem readOpening_flagged {c : Char} (other : c ∉ ['=', '!', '<', 'P']) (tail : List Char) :
    readOpening false ('?' :: c :: tail) = flagged (c :: tail) := by
  unfold readOpening
  simp only [skip, Bool.false_eq_true, if_false]
  split
  case h_7 same =>
    cases same
    rfl
  all_goals simp_all

/-- No flag has the letter that may stand before the name of a group. -/
theorem readOpening_unnamed {tail : List Char} (unnamed : ∀ name, tail ≠ '<' :: name) :
    readOpening false ('?' :: 'P' :: tail) = none := by
  unfold readOpening
  simp only [skip, Bool.false_eq_true, if_false]
  split
  case h_7 same =>
    cases same
    rfl
  all_goals simp_all

/-- What a parenthesis begins is told alike. -/
theorem extends_readOpening {opening : Opening} (reads : readOpening spaced cs = some (opening, rest)) :
    Extends (fun _ => readOpening spaced) 0 cs opening rest := by
  rw [readOpening_skip] at reads
  refine (cuts_skip spaced cs).before ?_ fun t _ => readOpening_skip _
  generalize skip spaced cs = cs at reads
  by_cases plain : cs.head? = some '?'
  · rcases List.head?_eq_some_iff.mp plain with ⟨tail, rfl⟩
    cases tail with
    | nil => cases reads
    | cons c more =>
        by_cases other : c ∉ ['=', '!', '<', 'P']
        · rw [readOpening_flagged other] at reads
          exact (Cuts.drop '?' _).before (extends_flagged reads) fun t _ => readOpening_flagged other _
        · simp only [List.mem_cons, List.not_mem_nil, or_false, not_not] at other
          rcases other with rfl | rfl | rfl | rfl
          · cases reads
          · cases reads
          · cases more with
            | nil => cases reads
            | cons d name =>
                by_cases looks : d = '=' ∨ d = '!'
                · rcases looks with rfl | rfl
                  · cases reads
                  · cases reads
                · rcases not_or.mp looks with ⟨ahead, behind⟩
                  rw [readOpening_named ahead behind] at reads
                  rcases Option.map_eq_some_iff.mp reads with ⟨⟨letters, left⟩, found, same⟩
                  cases same
                  refine (((Cuts.drop '?' _).andThen (Cuts.drop '<' _)).reading (extends_readGroupName found)).giving ?_
                  intro t _ left found
                  exact (readOpening_named ahead behind _).trans (Option.map_eq_some_iff.mpr ⟨_, found, rfl⟩)
          · cases more with
            | nil => cases reads
            | cons d name =>
                by_cases angle : d = '<'
                · subst angle
                  rcases Option.map_eq_some_iff.mp reads with ⟨⟨letters, left⟩, found, same⟩
                  cases same
                  refine ((((Cuts.drop '?' _).andThen (Cuts.drop 'P' _)).andThen (Cuts.drop '<' _)).reading
                    (extends_readGroupName found)).giving fun t _ left found => ?_
                  exact Option.map_eq_some_iff.mpr ⟨_, found, rfl⟩
                · rw [readOpening_unnamed fun _ same => angle (List.cons.inj same).1] at reads
                  cases reads
  · rw [readOpening_plain plain] at reads
    cases reads
    refine ⟨List.suffix_rfl, .inl fun t _ closes _ => readOpening_plain ?_⟩
    cases rest with
    | cons c others => exact plain
    | nil =>
        rcases (closes rfl).cases with rfl | ⟨more, rfl⟩
        · exact plain
        · nofun

/-! ## Characters -/

theorem readAtom_cons {c : Char} (plain : c ≠ '\\') :
    ∃ a, ∀ tail, readAtom spaced (c :: tail) = some (a, tail) := by
  by_cases dot : c = '.'
  · subst dot
    exact ⟨.dot, fun _ => rfl⟩
  · by_cases start : c = '^'
    · subst start
      exact ⟨.assertion .lineStart, fun _ => rfl⟩
    · by_cases isEnd : c = '$'
      · subst isEnd
        exact ⟨.assertion .lineEnd, fun _ => rfl⟩
      · refine ⟨.literal ⟨c, false⟩, fun tail => ?_⟩
        unfold readAtom
        split <;> simp_all

/-- A plain character or an escape is read alike. -/
theorem extends_readAtom {a : Atom} (reads : readAtom spaced cs = some (a, rest)) :
    Extends (fun _ => readAtom spaced) 0 cs a rest :=
  extends_of_plain rfl (fun _ => rfl) (fun _ escaped => readAtom_cons escaped) reads

end Parts

/-! ## Levels -/

/-- A level that a parenthesis closes. -/
def closedLevel (steps : Nat) (spaced : Bool) (names : List (List Char)) (cs : List Char) :
    Option (Level × List Char) :=
  match readLevel steps spaced (.fresh names) cs with
  | some (inside, ')' :: tail) => some (inside, tail)
  | _ => none

/-- A group and what follows it. -/
def readGroup (steps : Nat) (spaced : Bool) (level : Level) (flags : FlagSettings) (captures : Bool)
    (names : List (List Char)) (body : List Char) : Option (Level × List Char) :=
  (closedLevel steps ((setting? flags .spaced).getD spaced) names body).bind fun (inside, tail) =>
    readLevel steps spaced ({ level with names := inside.names }.add (.group flags captures inside.whole)) tail

/-- What follows an opening. -/
def readOpened (steps : Nat) (spaced : Bool) (level : Level) (opening : Opening) (tail : List Char) :
    Option (Level × List Char) :=
  match opening with
  | .settings flags => readLevel steps ((setting? flags .spaced).getD spaced) (level.add (.settings flags)) tail
  | .group flags => readGroup steps spaced level flags false level.names tail
  | .capture none => readGroup steps spaced level [] true level.names tail
  | .capture (some name) =>
    if level.names.contains name then none else readGroup steps spaced level [] true (name :: level.names) tail

/-- What follows a repetition of the last part. -/
def readRepeated (steps : Nat) (spaced : Bool) (level : Level) (counts : Nat × Option Nat) (tail : List Char) :
    Option (Level × List Char) :=
  (repeatLast counts.1 counts.2 level.parts).bind fun parts => readLevel steps spaced { level with parts := parts } tail

/-- A bracket with what it is about, after its opening. -/
def bracketed (spaced : Bool) (cs : List Char) : Option ((Bool × SetExpression) × List Char) :=
  (readBracket (cs.length + 1) spaced cs).map fun (negated, inside, rest) => ((negated, inside), rest)

/-- A level from a character on that is not skipped. -/
def readFrom (steps : Nat) (spaced : Bool) (level : Level) (cs : List Char) : Option (Level × List Char) :=
  match cs with
  | [] => some (level, [])
  | ')' :: _ => some (level, cs)
  | '|' :: rest => readLevel steps spaced level.close rest
  | '?' :: rest => readRepeated steps spaced level (0, some 1) (afterMark rest)
  | '*' :: rest => readRepeated steps spaced level (0, none) (afterMark rest)
  | '+' :: rest => readRepeated steps spaced level (1, none) (afterMark rest)
  | '\x7b' :: rest => (counted spaced rest).bind fun (counts, tail) => readRepeated steps spaced level counts tail
  | '[' :: rest =>
    (bracketed spaced rest).bind fun (inside, tail) =>
      readLevel steps spaced (level.add (.bracket inside.1 inside.2)) tail
  | '(' :: rest => (readOpening spaced rest).bind fun (opening, tail) => readOpened steps spaced level opening tail
  | _ => (readAtom spaced cs).bind fun (atom, tail) => readLevel steps spaced (level.add (ofAtom atom)) tail

theorem readLevel_succ (steps : Nat) (spaced : Bool) (level : Level) (cs : List Char) :
    readLevel (steps + 1) spaced level cs = readFrom steps spaced level (skip spaced cs) := by
  unfold readLevel
  extract_lets shown again inner
  have repeated : ∀ (least : Nat) (most : Option Nat) (tail : List Char),
      again least most tail = readRepeated steps spaced level (least, most) tail := by
    intro least most tail
    unfold again readRepeated
    cases repeatLast least most level.parts <;> rfl
  have group : ∀ (flags : FlagSettings) (captures : Bool) (names : List (List Char)) (body : List Char),
      inner flags captures names body = readGroup steps spaced level flags captures names body := by
    intro flags captures names body
    unfold inner readGroup closedLevel
    split <;> simp_all
  change _ = readFrom steps spaced level shown
  clear_value shown
  split
  · rfl
  · rfl
  · rfl
  · exact repeated 0 (some 1) _
  · exact repeated 0 none _
  · exact repeated 1 none _
  · next rest =>
      change _ = (counted spaced rest).bind _
      unfold counted
      cases readCounts spaced rest with
      | none => rfl
      | some counts => exact repeated counts.1 counts.2.1 counts.2.2
  · next rest =>
      change _ = (bracketed spaced rest).bind _
      unfold bracketed
      cases readBracket (rest.length + 1) spaced rest <;> rfl
  · next rest =>
      change _ = (readOpening spaced rest).bind _
      cases readOpening spaced rest with
      | none => rfl
      | some opened =>
          rcases opened with ⟨opening, tail⟩
          cases opening with
          | settings flags => rfl
          | group flags => exact group flags false level.names tail
          | capture name =>
              cases name with
              | none => exact group [] true level.names tail
              | some name =>
                  simp only [Option.bind_some, readOpened]
                  exact congrArg (if level.names.contains name = true then none else ·)
                    (group [] true (name :: level.names) tail)
  · unfold readFrom
    cases readAtom spaced cs with
    | none => split <;> simp_all
    | some read => split <;> simp_all

section Reading

variable {steps : Nat} {spaced : Bool} {level after : Level} {cs rest : List Char}

/-- Every level that is read with some steps is read alike. -/
def LevelsExtend (steps : Nat) : Prop :=
  ∀ {spaced : Bool} {level after : Level} {cs rest : List Char},
    readLevel steps spaced level cs = some (after, rest) →
      Extends (fun fuel => readLevel fuel spaced level) steps cs after rest

theorem extends_closedLevel (levels : LevelsExtend steps) {names : List (List Char)} {inside : Level}
    (reads : closedLevel steps spaced names cs = some (inside, rest)) :
    Extends (fun fuel => closedLevel fuel spaced names) steps cs inside rest := by
  unfold closedLevel at reads
  split at reads
  · next found =>
      cases reads
      have later := levels found
      refine .of_append ((List.suffix_cons ')' _).trans later.suffix) fun t fuel enough => ?_
      unfold closedLevel
      rw [later.beyond (List.cons_ne_nil _ _) t enough]
      rfl
  · cases reads

theorem extends_readGroup (levels : LevelsExtend steps) {flags : FlagSettings} {captures : Bool}
    {names : List (List Char)} (reads : readGroup steps spaced level flags captures names cs = some (after, rest)) :
    Extends (fun fuel => readGroup fuel spaced level flags captures names) steps cs after rest := by
  rcases Option.bind_eq_some_iff.mp reads with ⟨⟨inside, tail⟩, found, onward⟩
  refine (extends_closedLevel levels found).both (levels onward) fun t fuel left found => ?_
  rw [readGroup, found]
  rfl

theorem extends_readOpened (levels : LevelsExtend steps) {opening : Opening}
    (reads : readOpened steps spaced level opening cs = some (after, rest)) :
    Extends (fun fuel => readOpened fuel spaced level opening) steps cs after rest := by
  cases opening with
  | settings flags => exact levels reads
  | group flags => exact extends_readGroup levels reads
  | capture name =>
      cases name with
      | none => exact extends_readGroup levels reads
      | some name =>
          rcases Option.ite_none_left_eq_some.mp reads with ⟨fresh, onward⟩
          exact (extends_readGroup levels onward).giving fun t fuel left found => (if_neg fresh).trans found

theorem extends_readRepeated (levels : LevelsExtend steps) {counts : Nat × Option Nat}
    (reads : readRepeated steps spaced level counts cs = some (after, rest)) :
    Extends (fun fuel => readRepeated fuel spaced level counts) steps cs after rest := by
  rcases Option.bind_eq_some_iff.mp reads with ⟨parts, found, onward⟩
  refine (levels onward).giving fun t fuel left read => ?_
  rw [readRepeated, found]
  exact read

/-- A bracket with what it is about is read alike. -/
theorem extends_bracketed {inside : Bool × SetExpression} (reads : bracketed spaced cs = some (inside, rest)) :
    Extends (fun _ => bracketed spaced) 0 cs inside rest := by
  rcases Option.map_eq_some_iff.mp reads with ⟨⟨negated, set, tail⟩, found, same⟩
  cases same
  have closed := (closed_sets spaced (cs.length + 1)).2 _ _ _ _ found
  refine .of_append closed.suffix fun t _ _ => ?_
  rw [bracketed, closed.append t _ (by simp)]
  rfl

theorem readFrom_atom {c : Char} (plain : c ∉ [')', '|', '?', '*', '+', '\x7b', '[', '(']) (steps : Nat) (spaced : Bool)
    (level : Level) (tail : List Char) : readFrom steps spaced level (c :: tail) =
      (readAtom spaced (c :: tail)).bind fun (atom, tail) =>
        readLevel steps spaced (level.add (ofAtom atom)) tail := by
  unfold readFrom
  split
  case h_10 => rfl
  all_goals simp_all

/-- A level is read alike behind a mark, if what the mark opens is read alike and so is what follows it. -/
theorem extends_marked {α : Type} {first : List Char → Option (α × List Char)}
    (later : Nat → α → List Char → Option (Level × List Char)) {c : Char} {tail left : List Char} {a : α}
    (reads : Extends (fun _ => first) 0 tail a left) (goesOn : Extends (fun fuel => later fuel a) steps left after rest)
    (marked : ∀ t fuel, readFrom fuel spaced level (c :: (tail ++ t)) =
      (first (tail ++ t)).bind fun read => later fuel read.1 read.2) :
    Extends (fun fuel => readFrom fuel spaced level) steps (c :: tail) after rest := by
  refine (((Cuts.drop c tail).reading reads).weaken (Nat.zero_le steps)).both goesOn fun t fuel left found => ?_
  have read : first (tail ++ t) = some (a, left) := found
  rw [List.cons_append, marked, read]
  rfl

theorem extends_readFrom (levels : LevelsExtend steps)
    (reads : readFrom steps spaced level cs = some (after, rest)) :
    Extends (fun fuel => readFrom fuel spaced level) steps cs after rest := by
  unfold readFrom at reads
  split at reads
  · cases reads
    refine ⟨List.suffix_rfl, .inl fun t fuel closes _ => ?_⟩
    rcases (closes rfl).cases with rfl | ⟨more, rfl⟩
    · rfl
    · rfl
  · cases reads
    exact .here fun _ _ => rfl
  · next tail => exact (Cuts.drop '|' tail).before (levels reads) fun _ _ => rfl
  · exact (cuts_mark '?' _).before (extends_readRepeated levels reads) fun _ _ => rfl
  · exact (cuts_mark '*' _).before (extends_readRepeated levels reads) fun _ _ => rfl
  · exact (cuts_mark '+' _).before (extends_readRepeated levels reads) fun _ _ => rfl
  · rcases Option.bind_eq_some_iff.mp reads with ⟨⟨counts, left⟩, found, later⟩
    exact extends_marked (fun fuel => readRepeated fuel spaced level) (extends_counted found)
      (extends_readRepeated levels later) fun _ _ => rfl
  · rcases Option.bind_eq_some_iff.mp reads with ⟨⟨inside, left⟩, found, later⟩
    exact extends_marked (fun fuel inside => readLevel fuel spaced (level.add (.bracket inside.1 inside.2)))
      (extends_bracketed found) (levels later) fun _ _ => rfl
  · rcases Option.bind_eq_some_iff.mp reads with ⟨⟨opening, left⟩, found, later⟩
    exact extends_marked (fun fuel => readOpened fuel spaced level) (extends_readOpening found)
      (extends_readOpened levels later) fun _ _ => rfl
  · next nonempty notEnd option few many more braces bracket group =>
      rcases Option.bind_eq_some_iff.mp reads with ⟨⟨atom, left⟩, found, later⟩
      have atoms := (extends_readAtom found).weaken (Nat.zero_le steps)
      cases cs with
      | nil => exact (nonempty rfl).elim
      | cons c tail =>
          have plain : c ∉ [')', '|', '?', '*', '+', '\x7b', '[', '('] := by
            intro member
            simp only [List.mem_cons, List.not_mem_nil, or_false] at member
            rcases member with rfl | rfl | rfl | rfl | rfl | rfl | rfl | rfl
            · exact notEnd _ rfl
            · exact option _ rfl
            · exact few _ rfl
            · exact many _ rfl
            · exact more _ rfl
            · exact braces _ rfl
            · exact bracket _ rfl
            · exact group _ rfl
          refine atoms.both (levels later) fun t fuel left found => ?_
          rw [List.cons_append] at found ⊢
          rw [readFrom_atom plain, found]
          rfl

/-- A level is read alike. -/
theorem extends_readLevel : ∀ steps, LevelsExtend steps := by
  intro steps
  induction steps with
  | zero =>
      intro spaced level after cs rest reads
      rw [readLevel] at reads
      cases reads
  | succ steps ih =>
      intro spaced level after cs rest reads
      rw [readLevel_succ] at reads
      refine Extends.succ ((cuts_skip spaced cs).before (extends_readFrom ih reads) fun t fuel => ?_)
      exact readLevel_succ fuel spaced level _

end Reading

end Expression
end ProductGraph
