import ProductGraph.Proofs.Markup.Pattern
import ProductGraph.Proofs.Markup.Removal

namespace ProductGraph
namespace Markup

/-!
# Active content

Three sorts of things are active: the tags of elements that act, event attributes, and addresses that are scripts.
Each is said by patterns, and a text is clean if none of them fits anywhere in it.  The rules by which active content is
removed find just what the patterns describe.
-/

open Unicode (isBlank isWord)

/-! ## Patterns -/

def tagPattern (slash : List Part) (name : String) : List Part :=
  .one (· == '<') :: (slash ++ (letters name ++ .notNext isWord :: upTo '>'))

def activeTags : List (List Part) :=
  activeElements.flatMap fun name => [tagPattern [] name, tagPattern [.one (· == '/')] name]

def equalsSign : List Part := [.many isBlank, .one (· == '='), .many isBlank]

/-- Something between quotes. -/
def quotedPattern (quote : Char) (front : List Part) : List Part := .one (· == quote) :: (front ++ upTo quote)

/-- The value of an attribute, between quotes of either sort or without. -/
def valuePatterns : List (List Part) :=
  [quotedPattern '"' [], quotedPattern '\'' [], [.one isBareChar, .many isBareChar]]

/-- An attribute whose name begins with two given letters, and the blanks before it. -/
def eventPattern (value : List Part) : List Part :=
  .one isBlank :: .many isBlank ::
    (letters "on" ++ .one isLatinLetter :: .many isLatinLetter :: (equalsSign ++ value))

def eventAttributes : List (List Part) := valuePatterns.map eventPattern

/-- A script for an address, between quotes of either sort or without. -/
def scriptPatterns : List (List Part) :=
  [quotedPattern '"' (.many isBlank :: letters "javascript:"),
   quotedPattern '\'' (.many isBlank :: letters "javascript:"), letters "javascript:" ++ [.many isBareChar]]

/-- Attributes whose address is a script. -/
def scriptAddresses : List (List Part) :=
  ["href", "src"].flatMap fun name => scriptPatterns.map fun script => letters name ++ (equalsSign ++ script)

/-- Nothing in a text is active. -/
structure Clean (cs : List Char) : Prop where
  tags : ∀ pattern ∈ activeTags, ¬Somewhere (Fits pattern) cs
  events : ∀ pattern ∈ eventAttributes, ¬Somewhere (Fits pattern) cs
  addresses : ∀ pattern ∈ scriptAddresses, ¬Somewhere (Fits pattern) cs

/-! ## Letters -/

variable {cs : List Char}

/-- What is said of the characters in a list is decided by going through the list and not through all characters. -/
instance decidableForallMem (p : Char → Prop) [DecidablePred p] (cs : List Char) : Decidable (∀ c ∈ cs, p c) :=
  List.decidableBAll p cs

/-- Case apart, a letter is a Latin one. -/
theorem isLatinLetter_of_isLetterOf {letter c : Char} (small : 'a' ≤ letter ∧ letter ≤ 'z')
    (is : isLetterOf letter c = true) : isLatinLetter c = true := by
  simp only [isLetterOf, Bool.or_eq_true, Bool.and_eq_true, beq_iff_eq] at is
  rcases is with (rfl | ⟨_, rfl⟩) | ⟨_, rfl⟩
  · rw [lowerLetter] at small
    split at small
    · rename_i big
      simp [isLatinLetter, big]
    · simp [isLatinLetter, small]
  · decide
  · decide

theorem isBlank_of_isLatinLetter {c : Char} (latin : isLatinLetter c = true) : isBlank c = false := by
  have range : (65 ≤ c.toNat ∧ c.toNat ≤ 90) ∨ (97 ≤ c.toNat ∧ c.toNat ≤ 122) ∨ c.toNat = 0x17f ∨ c.toNat = 0x212a := by
    simp only [isLatinLetter, Bool.or_eq_true, Bool.and_eq_true, decide_eq_true_eq, beq_iff_eq] at latin
    rcases latin with (small | big) | rfl | rfl
    · exact .inr (.inl small)
    · exact .inl big
    · decide
    · decide
  simp only [isBlank, Unicode.blankRanges, Unicode.Ranges.contains]
  generalize c.toNat = n at range
  repeat' split
  all_goals simp
  all_goals omega

/-- A character is only one letter. -/
theorem eq_of_isLetterOf {first second c : Char} (plain : first ≠ '\u017f' ∧ first ≠ '\u212a')
    (alsoPlain : second ≠ '\u017f' ∧ second ≠ '\u212a') (is : isLetterOf first c = true)
    (isAlso : isLetterOf second c = true) : first = second := by
  have long : lowerLetter '\u017f' = '\u017f' := by decide
  have kelvin : lowerLetter '\u212a' = '\u212a' := by decide
  simp only [isLetterOf, Bool.or_eq_true, Bool.and_eq_true, beq_iff_eq] at is isAlso
  grind

/-- Of two words that a text begins with, one begins with the other. -/
theorem isPrefix_of_afterLetters? {first second : List Char}
    (plain : ∀ letter ∈ first ++ second, letter ≠ '\u017f' ∧ letter ≠ '\u212a')
    (found : (afterLetters? first cs).isSome) (alsoFound : (afterLetters? second cs).isSome) :
    first <+: second ∨ second <+: first := by
  induction first generalizing second cs with
  | nil => exact .inl (List.nil_prefix)
  | cons letter first ih =>
      cases second with
      | nil => exact .inr (List.nil_prefix)
      | cons other second =>
          cases cs with
          | nil => cases found
          | cons c rest =>
              rw [afterLetters?] at found alsoFound
              split at found
              · split at alsoFound
                · rename_i is isAlso
                  have same := eq_of_isLetterOf (plain letter (by simp)) (plain other (by simp)) is isAlso
                  subst same
                  refine (ih (fun l member => plain l ?_) found alsoFound).imp ?_ ?_
                  · simp only [List.mem_append, List.cons_append, List.mem_cons] at member ⊢
                    tauto
                  · exact (List.prefix_cons_inj letter).mpr
                  · exact (List.prefix_cons_inj letter).mpr
                · cases alsoFound
              · cases found

/-! ## Rules and patterns -/

theorem afterChar?_eq_some {mark : Char} {rest : List Char} : afterChar? mark cs = some rest ↔ cs = mark :: rest := by
  cases cs with
  | nil => simp [afterChar?]
  | cons c tail =>
      by_cases same : c = mark
      · simp [afterChar?, same]
      · simp [afterChar?, same]

theorem fits_mark {mark : Char} {parts : List Part} :
    Fits (.one (· == mark) :: parts) cs ↔ ∃ rest, afterChar? mark cs = some rest ∧ Fits parts rest := by
  simp only [Fits.one_iff, afterChar?_eq_some]
  constructor
  · rintro ⟨_, rest, rfl, is, behind⟩
    cases beq_iff_eq.mp is
    exact ⟨rest, rfl, behind⟩
  · rintro ⟨rest, rfl, behind⟩
    exact ⟨mark, rest, rfl, beq_self_eq_true mark, behind⟩

theorem isSome_afterFirst? {mark : Char} : (afterFirst? mark cs).isSome ↔ mark ∈ cs := by
  rw [afterFirst?]
  induction cs with
  | nil => simp [afterChar?]
  | cons c rest ih =>
      by_cases here : c = mark
      · simp [here, afterChar?]
      · rw [List.dropWhile_cons_of_pos (p := fun d => d != mark) (bne_iff_ne.mpr here), ih, List.mem_cons]
        exact ⟨.inr, fun either => either.resolve_left (Ne.symm here)⟩

/-- A name that ends where a tag goes on. -/
theorem fits_tagName {name : String} :
    Fits (letters name ++ .notNext isWord :: upTo '>') cs ↔ ((afterWord? name cs).bind afterTagName?).isSome := by
  have ends : ∀ rest, Fits (.notNext isWord :: upTo '>') rest ↔ (afterTagName? rest).isSome := by
    intro rest
    rw [Fits.notNext_iff, Fits.upTo_iff, ← isSome_afterFirst?, afterTagName?]
    cases rest.head?.any isWord <;> simp
  rw [letters, Fits.letters_iff, afterWord?]
  cases afterLetters? name.toList cs with
  | none => simp
  | some rest => simpa using ends rest

/-- No active element has a name that begins with that of another one. -/
theorem eq_of_afterWord?_activeElements {first second : String} (isActive : first ∈ activeElements)
    (isAlso : second ∈ activeElements) (found : (afterWord? first cs).isSome)
    (alsoFound : (afterWord? second cs).isSome) : first = second := by
  have plain : ∀ a ∈ activeElements, ∀ b ∈ activeElements, (∀ letter ∈ a.toList ++ b.toList, letter ≠ '\u017f' ∧
      letter ≠ '\u212a') ∧ (a.toList <+: b.toList ∨ b.toList <+: a.toList → a = b) := by decide
  have apart := plain first isActive second isAlso
  exact apart.2 (isPrefix_of_afterLetters? apart.1 found alsoFound)

theorem afterWord?_slash {name : String} (isActive : name ∈ activeElements) (rest : List Char) :
    afterWord? name ('/' :: rest) = none := by
  have first : ∀ name ∈ activeElements, name.toList.head?.any (fun letter => !isLetterOf letter '/') = true := by
    decide
  have is := first name isActive
  rw [afterWord?]
  cases spelled : name.toList with
  | nil =>
      rw [spelled] at is
      cases is
  | cons letter word =>
      rw [spelled] at is
      rw [afterLetters?, if_neg (by simpa using is)]

/-- Behind the angle and an optional slash of an active tag comes the name of an active element. -/
theorem exists_activeTags_iff :
    (∃ pattern ∈ activeTags, Fits pattern cs) ↔ ∃ inside, afterChar? '<' cs = some inside ∧
      ∃ name ∈ activeElements, ((afterWord? name ((afterChar? '/' inside).getD inside)).bind afterTagName?).isSome := by
  simp only [activeTags, List.mem_flatMap, List.mem_cons, List.not_mem_nil, or_false]
  constructor
  · rintro ⟨pattern, ⟨name, isActive, rfl | rfl⟩, fits⟩
    · rcases fits_mark.mp fits with ⟨inside, angle, behind⟩
      have found := fits_tagName.mp behind
      cases slash : afterChar? '/' inside with
      | none => exact ⟨inside, angle, name, isActive, by rwa [slash]⟩
      | some rest =>
          cases afterChar?_eq_some.mp slash
          rw [afterWord?_slash isActive] at found
          cases found
    · rcases fits_mark.mp fits with ⟨inside, angle, inTag⟩
      rcases fits_mark.mp inTag with ⟨rest, slash, behind⟩
      exact ⟨inside, angle, name, isActive, by rw [slash]; exact fits_tagName.mp behind⟩
  · rintro ⟨inside, angle, name, isActive, found⟩
    cases slash : afterChar? '/' inside with
    | none =>
        rw [slash] at found
        exact ⟨_, ⟨name, isActive, .inl rfl⟩, fits_mark.mpr ⟨inside, angle, fits_tagName.mpr found⟩⟩
    | some rest =>
        rw [slash] at found
        exact ⟨_, ⟨name, isActive, .inr rfl⟩,
          fits_mark.mpr ⟨inside, angle, fits_mark.mpr ⟨rest, slash, fits_tagName.mpr found⟩⟩⟩

/-- The first active element whose name is read is the only one. -/
theorem isSome_findSome?_activeElements :
    ((activeElements.findSome? fun name => afterWord? name cs).bind afterTagName?).isSome ↔
      ∃ name ∈ activeElements, ((afterWord? name cs).bind afterTagName?).isSome := by
  cases first : activeElements.findSome? fun name => afterWord? name cs with
  | none =>
      have absent := List.findSome?_eq_none_iff.mp first
      simp only [Option.bind_none, Option.isSome_none, Bool.false_eq_true, false_iff]
      rintro ⟨name, isActive, found⟩
      rw [absent name isActive] at found
      cases found
  | some rest =>
      rcases List.exists_of_findSome?_eq_some first with ⟨name, isActive, word⟩
      constructor
      · exact fun found => ⟨name, isActive, word ▸ found⟩
      · rintro ⟨other, isAlso, found⟩
        rcases Option.isSome_iff_exists.mp found with ⟨tail, found⟩
        rcases Option.bind_eq_some_iff.mp found with ⟨_, otherWord, ends⟩
        have same := eq_of_afterWord?_activeElements isActive isAlso (Option.isSome_of_mem word)
          (Option.isSome_of_mem otherWord)
        subst same
        cases word.symm.trans otherWord
        exact Option.isSome_of_mem ends

/-- The tag of an active element is found by the rule. -/
theorem isSome_afterActiveTag? : (afterActiveTag? cs).isSome ↔ ∃ pattern ∈ activeTags, Fits pattern cs := by
  rw [exists_activeTags_iff, afterActiveTag?]
  cases angle : afterChar? '<' cs with
  | none => simp
  | some inside => simpa using isSome_findSome?_activeElements

/-- Blanks before something that does not begin with one. -/
theorem fits_blanks {parts : List Part} (apart : ∀ c rest, Fits parts (c :: rest) → isBlank c = false) :
    Fits (.many isBlank :: parts) cs ↔ Fits parts (skipBlanks cs) := Fits.many_iff apart

/-- A run of characters of one sort, of which there is at least one. -/
theorem fits_run {sort : Char → Bool} {parts : List Part}
    (apart : ∀ c rest, Fits parts (c :: rest) → sort c = false) :
    Fits (.one sort :: .many sort :: parts) cs ↔ cs.head?.any sort = true ∧ Fits parts (cs.dropWhile sort) := by
  rw [Fits.one_iff]
  constructor
  · rintro ⟨c, rest, rfl, is, fits⟩
    rw [List.dropWhile_cons_of_pos is]
    exact ⟨is, (Fits.many_iff apart).mp fits⟩
  · rintro ⟨is, fits⟩
    cases cs with
    | nil => cases is
    | cons c rest =>
        have is : sort c = true := is
        rw [List.dropWhile_cons_of_pos is] at fits
        exact ⟨c, rest, rfl, is, (Fits.many_iff apart).mpr fits⟩

theorem fits_equalsSign {parts : List Part} (apart : ∀ c rest, Fits parts (c :: rest) → isBlank c = false) :
    Fits (equalsSign ++ parts) cs ↔ ∃ rest, afterEquals? cs = some rest ∧ Fits parts rest := by
  have noBlank : ∀ c rest, Fits (.one (· == '=') :: .many isBlank :: parts) (c :: rest) → isBlank c = false := by
    intro c rest fits
    cases beq_iff_eq.mp (Fits.one_cons_iff.mp fits).1
    decide
  change Fits (.many isBlank :: .one (· == '=') :: .many isBlank :: parts) cs ↔ _
  rw [fits_blanks noBlank, fits_mark, afterEquals?]
  constructor
  · rintro ⟨rest, here, fits⟩
    rw [here]
    exact ⟨skipBlanks rest, rfl, (fits_blanks apart).mp fits⟩
  · rintro ⟨left, found, fits⟩
    rcases Option.map_eq_some_iff.mp found with ⟨rest, here, rfl⟩
    exact ⟨rest, here, (fits_blanks apart).mpr fits⟩

theorem isBlank_of_isBareChar {c : Char} (bare : isBareChar c = true) : isBlank c = false := by
  simp only [isBareChar, Bool.and_eq_true, Bool.not_eq_true'] at bare
  exact bare.1

/-- A value begins with what may also stand without quotes. -/
theorem isBareChar_of_fits_value {value : List Part} (isValue : value ∈ valuePatterns) {c : Char} {rest : List Char}
    (fits : Fits value (c :: rest)) : isBareChar c = true := by
  simp only [valuePatterns, List.mem_cons, List.not_mem_nil, or_false] at isValue
  rcases isValue with rfl | rfl | rfl
  · cases beq_iff_eq.mp (Fits.one_cons_iff.mp fits).1
    decide
  · cases beq_iff_eq.mp (Fits.one_cons_iff.mp fits).1
    decide
  · exact (Fits.one_cons_iff.mp fits).1

/-- Something between quotes is found by what finds it behind the first quote. -/
theorem fits_quotedPattern {quote : Char} {front : List Part} {behind? : List Char → Option (List Char)}
    (describes : ∀ rest, Fits (front ++ upTo quote) rest ↔ (behind? rest).isSome) :
    Fits (quotedPattern quote front) cs ↔ ((afterChar? quote cs).bind behind?).isSome := by
  rw [quotedPattern, fits_mark]
  cases here : afterChar? quote cs with
  | none => simp
  | some rest => simp [describes rest]

theorem isSome_afterQuoted? {quote : Char} : (afterQuoted? quote cs).isSome ↔ Fits (quotedPattern quote []) cs :=
  (fits_quotedPattern fun _ => Fits.upTo_iff.trans isSome_afterFirst?.symm).symm

theorem isSome_afterValue? : (afterValue? cs).isSome ↔ ∃ value ∈ valuePatterns, Fits value cs := by
  have bare : Fits [.one isBareChar, .many isBareChar] cs ↔ cs.head?.any isBareChar = true := by
    cases cs with
    | nil => simp [Fits.one_iff]
    | cons c rest => simp [Fits.one_cons_iff, Fits.enough Fits.done]
  simp only [valuePatterns, List.mem_cons, List.not_mem_nil, or_false, exists_eq_or_imp, exists_eq_left]
  rw [← isSome_afterQuoted?, ← isSome_afterQuoted?, bare, afterValue?, Option.isSome_or, Option.isSome_or]
  cases cs.head?.any isBareChar <;> simp

/-- A word begins with its first letter. -/
theorem isLetterOf_of_fits_letters {word : String} {letter : Char} {more : List Char} {parts : List Part}
    (spelled : word.toList = letter :: more) {c : Char} {rest : List Char}
    (fits : Fits (letters word ++ parts) (c :: rest)) : isLetterOf letter c = true := by
  rw [letters, spelled] at fits
  exact (Fits.one_cons_iff.mp fits).1

theorem fits_eventPattern {value : List Part} (bare : ∀ c rest, Fits value (c :: rest) → isBareChar c = true) :
    Fits (eventPattern value) cs ↔ cs.head?.any isBlank = true ∧
      ∃ name, afterWord? "on" (skipBlanks cs) = some name ∧ name.head?.any isLatinLetter = true ∧
        ∃ rest, afterEquals? (name.dropWhile isLatinLetter) = some rest ∧ Fits value rest := by
  have blankApart : ∀ c rest, Fits (letters "on" ++ .one isLatinLetter :: .many isLatinLetter :: (equalsSign ++ value))
      (c :: rest) → isBlank c = false := fun c rest fits =>
    isBlank_of_isLatinLetter (isLatinLetter_of_isLetterOf (by decide) (isLetterOf_of_fits_letters rfl fits))
  have valueApart : ∀ c rest, Fits value (c :: rest) → isBlank c = false := fun c rest fits =>
    isBlank_of_isBareChar (bare c rest fits)
  have letterApart : ∀ c rest, Fits (equalsSign ++ value) (c :: rest) → isLatinLetter c = false := by
    intro c rest fits
    cases latin : isLatinLetter c with
    | false => rfl
    | true =>
        cases fits with
        | enough behind =>
            cases beq_iff_eq.mp (Fits.one_cons_iff.mp behind).1
            exact latin.symm.trans (by decide)
        | more is _ =>
            rw [isBlank_of_isLatinLetter latin] at is
            cases is
  rw [eventPattern, fits_run blankApart, letters, Fits.letters_iff]
  simp only [fits_run letterApart, fits_equalsSign valueApart]
  rfl

/-- An event attribute is found by the rule. -/
theorem isSome_afterEvent? : (afterEvent? cs).isSome ↔ ∃ pattern ∈ eventAttributes, Fits pattern cs := by
  have values : (∃ pattern ∈ eventAttributes, Fits pattern cs) ↔
      ∃ value ∈ valuePatterns, Fits (eventPattern value) cs := by
    simp only [eventAttributes, List.mem_map, exists_exists_and_eq_and]
  rw [values, afterEvent?]
  cases blank : cs.head?.any isBlank with
  | false =>
      simp only [Bool.false_eq_true, if_false, Option.isSome_none, false_iff]
      rintro ⟨value, isValue, fits⟩
      rw [fits_eventPattern fun _ _ => isBareChar_of_fits_value isValue, blank] at fits
      exact Bool.false_ne_true fits.1
  | true =>
      rw [if_pos rfl]
      constructor
      · intro found
        rcases Option.isSome_iff_exists.mp found with ⟨tail, found⟩
        rcases Option.bind_eq_some_iff.mp found with ⟨name, word, found⟩
        split at found
        · rename_i latin
          rcases Option.bind_eq_some_iff.mp found with ⟨rest, sign, found⟩
          rcases isSome_afterValue?.mp (Option.isSome_of_mem found) with ⟨value, isValue, fits⟩
          exact ⟨value, isValue, (fits_eventPattern fun _ _ => isBareChar_of_fits_value isValue).mpr
            ⟨blank, name, word, latin, rest, sign, fits⟩⟩
        · cases found
      · rintro ⟨value, isValue, fits⟩
        rcases (fits_eventPattern fun _ _ => isBareChar_of_fits_value isValue).mp fits with
          ⟨_, name, word, latin, rest, sign, fits⟩
        rw [word, Option.bind_some, if_pos latin, sign, Option.bind_some]
        exact isSome_afterValue?.mpr ⟨value, isValue, fits⟩

/-- An event attribute up to the first character of its value.  The value goes on in some way in any case. -/
def eventHead : List Part := eventPattern [.one isBareChar]

theorem isSome_afterEvent?_iff_eventHead : (afterEvent? cs).isSome ↔ Fits eventHead cs := by
  have bare : ∀ c rest, Fits [.one isBareChar] (c :: rest) → isBareChar c = true := fun _ _ fits =>
    (Fits.one_cons_iff.mp fits).1
  have value_iff : ∀ s, (∃ value ∈ valuePatterns, Fits value s) ↔ Fits [.one isBareChar] s := by
    intro s
    constructor
    · rintro ⟨value, isValue, fits⟩
      cases s with
      | nil =>
          simp only [valuePatterns, List.mem_cons, List.not_mem_nil, or_false] at isValue
          rcases isValue with rfl | rfl | rfl <;> cases fits
      | cons c rest => exact .one (isBareChar_of_fits_value isValue fits) .done
    · intro fits
      rcases Fits.one_iff.mp fits with ⟨c, rest, rfl, is, _⟩
      exact ⟨_, List.mem_cons_of_mem _ (List.mem_cons_of_mem _ List.mem_cons_self), .one is (.enough .done)⟩
  rw [isSome_afterEvent?, eventHead, fits_eventPattern bare]
  constructor
  · rintro ⟨pattern, isPattern, fits⟩
    rcases List.mem_map.mp isPattern with ⟨value, isValue, rfl⟩
    rcases (fits_eventPattern fun _ _ => isBareChar_of_fits_value isValue).mp fits with
      ⟨blank, name, word, latin, rest, sign, fits⟩
    exact ⟨blank, name, word, latin, rest, sign, (value_iff rest).mp ⟨value, isValue, fits⟩⟩
  · rintro ⟨blank, name, word, latin, rest, sign, fits⟩
    rcases (value_iff rest).mpr fits with ⟨value, isValue, fits⟩
    exact ⟨_, List.mem_map_of_mem isValue, (fits_eventPattern fun _ _ => isBareChar_of_fits_value isValue).mpr
      ⟨blank, name, word, latin, rest, sign, fits⟩⟩

theorem isSome_afterQuotedScript? {quote : Char} : (afterQuotedScript? quote cs).isSome ↔
    Fits (quotedPattern quote (.many isBlank :: letters "javascript:")) cs := by
  have apart : ∀ c rest, Fits (letters "javascript:" ++ upTo quote) (c :: rest) → isBlank c = false := fun c rest fits =>
    isBlank_of_isLatinLetter (isLatinLetter_of_isLetterOf (by decide) (isLetterOf_of_fits_letters rfl fits))
  rw [afterQuotedScript?, Option.bind_assoc]
  refine (fits_quotedPattern fun rest => ?_).symm
  rw [List.cons_append, fits_blanks apart, letters, Fits.letters_iff, afterWord?]
  cases afterLetters? "javascript:".toList (skipBlanks rest) with
  | none => simp
  | some behind => simp [Fits.upTo_iff, isSome_afterFirst?]

theorem isSome_afterScript? : (afterScript? cs).isSome ↔ ∃ script ∈ scriptPatterns, Fits script cs := by
  have bare : Fits (letters "javascript:" ++ [.many isBareChar]) cs ↔ (afterWord? "javascript:" cs).isSome := by
    rw [letters, Fits.letters_iff, afterWord?, Option.isSome_iff_exists]
    exact exists_congr fun rest => ⟨fun both => both.1, fun found => ⟨found, .enough .done⟩⟩
  simp only [scriptPatterns, List.mem_cons, List.not_mem_nil, or_false, exists_eq_or_imp, exists_eq_left]
  rw [← isSome_afterQuotedScript?, ← isSome_afterQuotedScript?, bare, afterScript?]
  simp [Option.isSome_or]

/-- A script does not begin with a blank. -/
theorem isBlank_of_fits_script {script : List Part} (isScript : script ∈ scriptPatterns) {c : Char} {rest : List Char}
    (fits : Fits script (c :: rest)) : isBlank c = false := by
  simp only [scriptPatterns, List.mem_cons, List.not_mem_nil, or_false] at isScript
  rcases isScript with rfl | rfl | rfl
  · cases beq_iff_eq.mp (Fits.one_cons_iff.mp fits).1
    decide
  · cases beq_iff_eq.mp (Fits.one_cons_iff.mp fits).1
    decide
  · exact isBlank_of_isLatinLetter (isLatinLetter_of_isLetterOf (by decide) (isLetterOf_of_fits_letters rfl fits))

/-- The name of an attribute with an address, as the rule reads it. -/
theorem or_eq_some_iff {rest : List Char} :
    (afterWord? "href" cs).or (afterWord? "src" cs) = some rest ↔
      ∃ name ∈ ["href", "src"], afterWord? name cs = some rest := by
  have apart : (afterWord? "href" cs).isSome → (afterWord? "src" cs).isSome → False := by
    intro found alsoFound
    have either := isPrefix_of_afterLetters? (by decide) found alsoFound
    exact absurd either (by decide)
  simp only [List.mem_cons, List.not_mem_nil, or_false, exists_eq_or_imp, exists_eq_left, Option.or_eq_some_iff]
  constructor
  · rintro (found | ⟨_, found⟩)
    · exact .inl found
    · exact .inr found
  · rintro (found | found)
    · exact .inl found
    · refine .inr ⟨?_, found⟩
      cases first : afterWord? "href" cs with
      | none => rfl
      | some other => exact absurd (Option.isSome_of_mem found) fun alsoFound => apart (Option.isSome_of_mem first) alsoFound

/-- An address that is a script is found by the rule. -/
theorem isSome_scriptAddress? : (scriptAddress? cs).isSome ↔ ∃ pattern ∈ scriptAddresses, Fits pattern cs := by
  have patterns : (∃ pattern ∈ scriptAddresses, Fits pattern cs) ↔ ∃ name ∈ ["href", "src"], ∃ rest,
      afterWord? name cs = some rest ∧ ∃ value, afterEquals? rest = some value ∧ (afterScript? value).isSome := by
    constructor
    · rintro ⟨pattern, isPattern, fits⟩
      rcases List.mem_flatMap.mp isPattern with ⟨name, isName, isPattern⟩
      rcases List.mem_map.mp isPattern with ⟨script, isScript, rfl⟩
      rcases Fits.letters_iff.mp fits with ⟨rest, word, behind⟩
      rcases (fits_equalsSign fun _ _ => isBlank_of_fits_script isScript).mp behind with ⟨value, sign, inside⟩
      exact ⟨name, isName, rest, word, value, sign, isSome_afterScript?.mpr ⟨script, isScript, inside⟩⟩
    · rintro ⟨name, isName, rest, word, value, sign, found⟩
      rcases isSome_afterScript?.mp found with ⟨script, isScript, inside⟩
      have behind := (fits_equalsSign fun _ _ => isBlank_of_fits_script isScript).mpr ⟨value, sign, inside⟩
      exact ⟨_, List.mem_flatMap.mpr ⟨name, isName, List.mem_map_of_mem isScript⟩,
        Fits.letters_iff.mpr ⟨rest, word, behind⟩⟩
  rw [patterns, scriptAddress?]
  constructor
  · intro found
    rcases Option.isSome_iff_exists.mp found with ⟨parts, found⟩
    rcases Option.bind_eq_some_iff.mp found with ⟨rest, word, found⟩
    rcases Option.map_eq_some_iff.mp found with ⟨tail, found, _⟩
    rcases Option.bind_eq_some_iff.mp found with ⟨value, sign, found⟩
    rcases or_eq_some_iff.mp word with ⟨name, isName, word⟩
    exact ⟨name, isName, rest, word, value, sign, Option.isSome_of_mem found⟩
  · rintro ⟨name, isName, rest, word, value, sign, found⟩
    rw [or_eq_some_iff.mpr ⟨name, isName, word⟩, Option.bind_some, sign, Option.bind_some, Option.isSome_map]
    exact found

/-- A rule finds something where one of its patterns fits. -/
theorem finds_iff {α : Type} {rule : List Char → Option α} {patterns : List (List Part)}
    (describes : ∀ s, (rule s).isSome ↔ ∃ pattern ∈ patterns, Fits pattern s) :
    Finds rule cs ↔ ∃ pattern ∈ patterns, Somewhere (Fits pattern) cs := by
  constructor
  · rintro ⟨s, suffix, found⟩
    rcases (describes s).mp found with ⟨pattern, isPattern, fits⟩
    exact ⟨pattern, isPattern, s, suffix, fits⟩
  · rintro ⟨pattern, isPattern, s, suffix, fits⟩
    exact ⟨s, suffix, (describes s).mpr ⟨pattern, isPattern, fits⟩⟩

/-- A text is clean if no rule finds anything in it. -/
theorem clean_iff : Clean cs ↔ ¬Finds afterActiveTag? cs ∧ ¬Finds afterEvent? cs ∧ ¬Finds scriptAddress? cs := by
  rw [finds_iff fun _ => isSome_afterActiveTag?, finds_iff fun _ => isSome_afterEvent?,
    finds_iff fun _ => isSome_scriptAddress?]
  simp only [not_exists, not_and]
  exact ⟨fun clean => ⟨clean.tags, clean.events, clean.addresses⟩, fun parts => ⟨parts.1, parts.2.1, parts.2.2⟩⟩

/-! ## What rules leave -/

theorem suffix_of_afterLetters? {word tail : List Char} (found : afterLetters? word cs = some tail) :
    tail <:+ cs ∧ word.length + tail.length = cs.length := by
  induction word generalizing cs with
  | nil =>
      cases found
      exact ⟨List.suffix_refl _, Nat.zero_add _⟩
  | cons letter word ih =>
      cases cs with
      | nil => cases found
      | cons c rest =>
          rw [afterLetters?] at found
          split at found
          · rcases ih found with ⟨suffix, length⟩
            refine ⟨suffix.trans (List.suffix_cons c rest), ?_⟩
            rw [List.length_cons, List.length_cons]
            omega
          · cases found

theorem suffix_of_afterFirst? {mark : Char} {tail : List Char} (found : afterFirst? mark cs = some tail) :
    mark :: tail <:+ cs := by
  rw [afterFirst?, afterChar?_eq_some] at found
  exact found ▸ List.dropWhile_suffix _

theorem suffix_of_afterTagName? {tail : List Char} (found : afterTagName? cs = some tail) : tail <:+ cs := by
  rw [afterTagName?] at found
  split at found
  · cases found
  · exact (List.suffix_cons _ _).trans (suffix_of_afterFirst? found)

theorem suffix_of_afterActiveTag? {tail : List Char} (found : afterActiveTag? cs = some tail) :
    ∃ inside, cs = '<' :: inside ∧ tail <:+ inside := by
  rcases Option.bind_eq_some_iff.mp found with ⟨inside, angle, tag⟩
  rcases Option.bind_eq_some_iff.mp tag with ⟨rest, word, ends⟩
  rcases List.exists_of_findSome?_eq_some word with ⟨name, _, named⟩
  refine ⟨inside, afterChar?_eq_some.mp angle, (suffix_of_afterTagName? ends).trans ?_⟩
  refine (suffix_of_afterLetters? named).1.trans ?_
  cases slash : afterChar? '/' inside with
  | none => exact List.suffix_refl _
  | some behind => exact afterChar?_eq_some.mp slash ▸ List.suffix_cons _ _

theorem suffix_of_afterClosing? {name : String} {tail : List Char} (found : afterClosing? name cs = some tail) :
    tail <:+ cs := by
  rcases Option.bind_eq_some_iff.mp found with ⟨rest, named, ends⟩
  rcases Option.bind_eq_some_iff.mp named with ⟨inside, slashed, word⟩
  rcases Option.bind_eq_some_iff.mp slashed with ⟨behind, angle, slash⟩
  have last : '>' :: tail <:+ rest := afterChar?_eq_some.mp ends ▸ List.dropWhile_suffix _
  have first : inside <:+ cs := by
    rw [afterChar?_eq_some.mp angle, afterChar?_eq_some.mp slash]
    exact (List.suffix_cons _ _).trans (List.suffix_cons _ _)
  exact ((List.suffix_cons _ _).trans last).trans ((suffix_of_afterLetters? word).1.trans first)

theorem suffix_of_afterFirstClosing? {name : String} {tail : List Char}
    (found : afterFirstClosing? name cs = some tail) : tail <:+ cs := by
  induction cs with
  | nil => cases found
  | cons c rest ih =>
      rw [afterFirstClosing?] at found
      split at found
      · rename_i closing
        cases found
        exact suffix_of_afterClosing? closing
      · exact (ih found).trans (List.suffix_cons c rest)

theorem suffix_of_afterElement? {name : String} {tail : List Char} (found : afterElement? name cs = some tail) :
    ∃ inside, cs = '<' :: inside ∧ tail <:+ inside := by
  rcases Option.bind_eq_some_iff.mp found with ⟨behind, opening, closing⟩
  rcases Option.bind_eq_some_iff.mp opening with ⟨rest, named, ends⟩
  rcases Option.bind_eq_some_iff.mp named with ⟨inside, angle, word⟩
  exact ⟨inside, afterChar?_eq_some.mp angle, (suffix_of_afterFirstClosing? closing).trans
    ((suffix_of_afterTagName? ends).trans (suffix_of_afterLetters? word).1)⟩

theorem suffix_of_afterEquals? {tail : List Char} (found : afterEquals? cs = some tail) :
    ∃ rest, '=' :: rest <:+ cs ∧ tail <:+ rest := by
  rcases Option.map_eq_some_iff.mp found with ⟨rest, sign, rfl⟩
  exact ⟨rest, afterChar?_eq_some.mp sign ▸ List.dropWhile_suffix _, List.dropWhile_suffix _⟩

theorem suffix_of_afterQuoted? {quote : Char} {tail : List Char} (found : afterQuoted? quote cs = some tail) :
    tail <:+ cs := by
  rcases Option.bind_eq_some_iff.mp found with ⟨inside, opening, closing⟩
  rw [afterChar?_eq_some.mp opening]
  exact ((List.suffix_cons _ _).trans (suffix_of_afterFirst? closing)).trans (List.suffix_cons _ _)

theorem suffix_of_afterValue? {tail : List Char} (found : afterValue? cs = some tail) : tail <:+ cs := by
  rw [afterValue?, Option.or_eq_some_iff, Option.or_eq_some_iff] at found
  rcases found with found | ⟨_, found | ⟨_, found⟩⟩
  · exact suffix_of_afterQuoted? found
  · exact suffix_of_afterQuoted? found
  · split at found
    · cases found
      exact List.dropWhile_suffix _
    · cases found

/-- An event attribute has an equals sign in it. -/
theorem suffix_of_afterEvent? {tail : List Char} (found : afterEvent? cs = some tail) :
    ∃ rest, '=' :: rest <:+ cs ∧ tail <:+ rest := by
  rw [afterEvent?] at found
  split at found
  · rcases Option.bind_eq_some_iff.mp found with ⟨name, word, found⟩
    split at found
    · rcases Option.bind_eq_some_iff.mp found with ⟨value, sign, read⟩
      rcases suffix_of_afterEquals? sign with ⟨rest, isIn, behind⟩
      refine ⟨rest, isIn.trans ((List.dropWhile_suffix _).trans ?_), (suffix_of_afterValue? read).trans behind⟩
      exact (suffix_of_afterLetters? word).1.trans (List.dropWhile_suffix _)
    · cases found
  · cases found

theorem eq_of_isLetterOf_colon {c : Char} (is : isLetterOf ':' c = true) : c = ':' := by
  simp only [isLetterOf, lowerLetter, Bool.or_eq_true, Bool.and_eq_true, beq_iff_eq] at is
  rcases is with (is | ⟨impossible, _⟩) | ⟨impossible, _⟩
  · split at is
    · rename_i big
      have first : 65 ≤ c.toNat := big.1
      have last : c.toNat ≤ 90 := big.2
      have all : ∀ n ≤ 25, Char.ofNat (n + 97) ≠ ':' := by decide
      have point := all (c.toNat - 65) (by omega)
      rw [show c.toNat - 65 + 97 = c.toNat + 32 by omega] at point
      exact absurd is point
    · exact is
  · cases impossible
  · cases impossible

/-- The word that begins a script ends with a colon. -/
theorem suffix_of_afterWord?_javascript {tail : List Char} (found : afterWord? "javascript:" cs = some tail) :
    ':' :: tail <:+ cs ∧ 11 + tail.length = cs.length := by
  refine ⟨?_, (suffix_of_afterLetters? found).2⟩
  have append : ∀ {first second cs : List Char},
      afterLetters? (first ++ second) cs = (afterLetters? first cs).bind (afterLetters? second) := by
    intro first
    induction first with
    | nil => exact fun {_ _} => rfl
    | cons letter first ih =>
        intro second cs
        cases cs with
        | nil => rfl
        | cons c rest =>
            rw [List.cons_append, afterLetters?, afterLetters?]
            split
            · exact ih
            · rfl
  have spelled : afterWord? "javascript:" cs = afterLetters? ("javascript".toList ++ [':']) cs := rfl
  rw [spelled, append] at found
  rcases Option.bind_eq_some_iff.mp found with ⟨rest, word, last⟩
  cases rest with
  | nil => cases last
  | cons c rest =>
      rw [afterLetters?] at last
      split at last
      · rename_i colon
        cases last
        rw [← eq_of_isLetterOf_colon colon]
        exact (suffix_of_afterLetters? word).1
      · cases last

/-- A script has a colon in it, and ten letters before that. -/
theorem suffix_of_afterScript? {tail : List Char} (found : afterScript? cs = some tail) :
    ∃ rest, ':' :: rest <:+ cs ∧ tail <:+ rest ∧ 11 + tail.length ≤ cs.length := by
  have quoted : ∀ {quote}, afterQuotedScript? quote cs = some tail →
      ∃ rest, ':' :: rest <:+ cs ∧ tail <:+ rest ∧ 11 + tail.length ≤ cs.length := by
    intro quote found
    rcases Option.bind_eq_some_iff.mp found with ⟨rest, front, closing⟩
    rcases Option.bind_eq_some_iff.mp front with ⟨inside, opening, word⟩
    rcases suffix_of_afterWord?_javascript word with ⟨colon, length⟩
    have behind : tail <:+ rest := (List.suffix_cons _ _).trans (suffix_of_afterFirst? closing)
    have within : skipBlanks inside <:+ cs := by
      rw [afterChar?_eq_some.mp opening]
      exact (List.dropWhile_suffix _).trans (List.suffix_cons _ _)
    have shorter := behind.length_le
    have alsoShorter := within.length_le
    exact ⟨rest, colon.trans within, behind, by omega⟩
  rw [afterScript?, Option.or_eq_some_iff, Option.or_eq_some_iff] at found
  rcases found with found | ⟨_, found | ⟨_, found⟩⟩
  · exact quoted found
  · exact quoted found
  · rcases Option.map_eq_some_iff.mp found with ⟨rest, word, rfl⟩
    rcases suffix_of_afterWord?_javascript word with ⟨colon, length⟩
    have behind : rest.dropWhile isBareChar <:+ rest := List.dropWhile_suffix _
    have shorter := behind.length_le
    exact ⟨rest, colon, behind, by omega⟩

/-- Of an address that is a script the name of its attribute stays. -/
theorem parts_of_scriptAddress? {replacement tail : List Char} (found : scriptAddress? cs = some (replacement, tail)) :
    ∃ name spelled rest value, name ∈ ["href", "src"] ∧ cs = spelled ++ rest ∧
      afterWord? name cs = some rest ∧ replacement = spelled ++ "=\"#\"".toList ∧ afterEquals? rest = some value ∧
      afterScript? value = some tail := by
  rcases Option.bind_eq_some_iff.mp found with ⟨rest, word, behind⟩
  rcases Option.map_eq_some_iff.mp behind with ⟨left, address, parts⟩
  rcases Option.bind_eq_some_iff.mp address with ⟨value, sign, script⟩
  cases parts
  rcases or_eq_some_iff.mp word with ⟨name, isName, named⟩
  refine ⟨name, _, rest, value, isName, ?_, named, rfl, sign, script⟩
  rcases (suffix_of_afterLetters? named).1 with ⟨spelled, rfl⟩
  simp

end Markup
end ProductGraph
