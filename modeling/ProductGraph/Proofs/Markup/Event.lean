import ProductGraph.Markup.Attribute
import ProductGraph.Markup.Writer
import ProductGraph.Proofs.Markup.Entity

namespace ProductGraph
namespace Markup

/-!
# Tags written and read

A tag that is written with a plain name is read as one thing: its name, and its attributes as they are written, which
in turn are read as the attributes they were.  What stands behind a tag or a text does not change how it is read.

Names are plain if no character in them means anything inside tags.  The name of an attribute may hold more, since it is
read up to an equals sign or a blank.  The values of attributes may hold any character, because all that have a meaning
are written by reference.
-/

/-- A character that means nothing inside a tag. -/
def isPlainChar (c : Char) : Bool := !isTrailingGap c && !"<>/!?\"'=".toList.contains c

/-- A name that can be written inside a tag. -/
def IsPlainName (name : String) : Prop := name.toList ≠ [] ∧ ∀ c ∈ name.toList, isPlainChar c = true

instance (name : String) : Decidable (IsPlainName name) :=
  decidable_of_iff (name.toList ≠ [] ∧ name.toList.all isPlainChar = true) (and_congr_right fun _ => List.all_eq_true)

theorem ne_of_isPlainChar {c mark : Char} (plain : isPlainChar c = true) (special : isPlainChar mark = false) :
    c ≠ mark := by
  rintro rfl
  rw [plain] at special
  cases special

theorem isGap_of_isPlainChar {c : Char} (plain : isPlainChar c = true) : isGap c = false := by
  simp only [isPlainChar, isTrailingGap, Bool.and_eq_true, Bool.not_eq_true', Bool.or_eq_false_iff] at plain
  exact plain.1.1

theorem isTrailingGap_of_isPlainChar {c : Char} (plain : isPlainChar c = true) : isTrailingGap c = false := by
  simp only [isPlainChar, Bool.and_eq_true, Bool.not_eq_true'] at plain
  exact plain.1

theorem not_mem_of_isPlainName {name : String} (plain : IsPlainName name) {mark : Char}
    (special : isPlainChar mark = false) : mark ∉ name.toList :=
  fun member => ne_of_isPlainChar (plain.2 mark member) special rfl

theorem exists_cons_of_isPlainName {name : String} (plain : IsPlainName name) :
    ∃ c rest, name.toList = c :: rest ∧ isPlainChar c = true := by
  cases spelled : name.toList with
  | nil => exact absurd spelled plain.1
  | cons c rest => exact ⟨c, rest, rfl, plain.2 c (spelled ▸ List.mem_cons_self)⟩

/-- A character that leaves the name of an attribute and the tag around it open. -/
def isNameChar (c : Char) : Bool := !isGap c && !"=>\"'".toList.contains c

/-- A name that can be written for an attribute. -/
def IsAttributeName (name : String) : Prop := name.toList ≠ [] ∧ ∀ c ∈ name.toList, isNameChar c = true

theorem isNameChar_of_isPlainChar {c : Char} (plain : isPlainChar c = true) : isNameChar c = true := by
  have other : ∀ mark ∈ "=>\"'".toList, c ≠ mark := by
    have special : ∀ mark ∈ "=>\"'".toList, (!isPlainChar mark) = true := List.all_eq_true.mp rfl
    exact fun mark member => ne_of_isPlainChar plain (Bool.not_eq_true' _ ▸ special mark member)
  rw [isNameChar, isGap_of_isPlainChar plain, Bool.not_false, Bool.true_and, Bool.not_eq_true', Bool.eq_false_iff]
  exact fun member => other c (List.contains_iff_mem.mp member) rfl

theorem IsPlainName.isAttributeName {name : String} (plain : IsPlainName name) : IsAttributeName name :=
  ⟨plain.1, fun c member => isNameChar_of_isPlainChar (plain.2 c member)⟩

theorem ne_of_isNameChar {c mark : Char} (fits : isNameChar c = true) (special : isNameChar mark = false) :
    c ≠ mark := by
  rintro rfl
  rw [fits] at special
  cases special

theorem isGap_of_isNameChar {c : Char} (fits : isNameChar c = true) : isGap c = false := by
  simp only [isNameChar, Bool.and_eq_true, Bool.not_eq_true'] at fits
  exact fits.1

/-! ## Text and closing tags -/

theorem next_of_ne {c : Char} (notAngle : c ≠ '<') (more : List Char) :
    next (c :: more) = .event (.text ((c :: more).takeWhile (· != '<'))) ((c :: more).dropWhile (· != '<')) := by
  rw [next.eq_def]
  split
  · rename_i nothing
    cases nothing
  · rename_i angle
    exact absurd (List.cons.inj angle).1 notAngle
  · rfl

theorem next_text {cs rest : List Char} (nonempty : cs ≠ []) (noAngle : '<' ∉ cs) :
    next (cs ++ '<' :: rest) = .event (.text cs) ('<' :: rest) := by
  have all : ∀ c ∈ cs, (c != '<') = true := by
    intro c member
    exact bne_iff_ne.mpr fun same => noAngle (same ▸ member)
  have taken : (cs ++ '<' :: rest).takeWhile (· != '<') = cs := by
    rw [List.takeWhile_append_of_pos all, List.takeWhile_cons_of_neg (by decide), List.append_nil]
  have left : (cs ++ '<' :: rest).dropWhile (· != '<') = '<' :: rest := by
    rw [List.dropWhile_append_of_pos all, List.dropWhile_cons_of_neg (by decide)]
  cases cs with
  | nil => exact absurd rfl nonempty
  | cons c more =>
      have notAngle : c ≠ '<' := fun same => noAngle (same ▸ List.mem_cons_self)
      rw [List.cons_append] at taken left ⊢
      rw [next_of_ne notAngle, taken, left]

theorem splitAt_append {mark : Char} {cs : List Char} (absent : mark ∉ cs) (rest : List Char) :
    splitAt mark (cs ++ mark :: rest) = (cs, rest) := by
  have all : ∀ c ∈ cs, (c != mark) = true := by
    intro c member
    exact bne_iff_ne.mpr fun same => absent (same ▸ member)
  rw [splitAt, List.takeWhile_append_of_pos all, List.dropWhile_append_of_pos all]
  simp

theorem next_closing {name : String} (plain : IsPlainName name) (rest : List Char) :
    next ((Token.closing name).written ++ rest) = .event (.closing name) rest := by
  have cut := splitAt_append (not_mem_of_isPlainName plain (by decide : isPlainChar '>' = false)) rest
  have trimmed : (name.toList.reverse.dropWhile isTrailingGap).reverse = name.toList := by
    cases backwards : name.toList.reverse with
    | nil => exact absurd (List.reverse_eq_nil_iff.mp backwards) plain.1
    | cons c more =>
        have last : isPlainChar c = true := plain.2 c (List.mem_reverse.mp (backwards ▸ List.mem_cons_self))
        have stops : ¬ isTrailingGap c = true := by
          rw [isTrailingGap_of_isPlainChar last]
          exact Bool.false_ne_true
        rw [List.dropWhile_cons_of_neg stops, ← backwards, List.reverse_reverse]
  have filled : name.toList.isEmpty = false := List.isEmpty_eq_false_iff.mpr plain.1
  have written : (Token.closing name).written ++ rest = '<' :: '/' :: (name.toList ++ '>' :: rest) :=
    congrArg (fun cs => '<' :: '/' :: cs) (List.append_assoc name.toList ['>'] rest)
  rw [written, next, afterAngle]
  simp only [cut, trimmed, filled, Bool.false_eq_true, if_false, String.ofList_toList]

/-! ## Attributes -/

/-- Attributes that can be written: names of attributes, none of them twice. -/
structure AttributesPlain (attributes : List (String × String)) : Prop where
  plain : ∀ a ∈ attributes, IsAttributeName a.1
  distinct : (attributes.map (·.1)).Nodup

theorem AttributesPlain.tail {a : String × String} {rest : List (String × String)}
    (attributes : AttributesPlain (a :: rest)) : AttributesPlain rest :=
  ⟨fun b later => attributes.plain b (List.mem_cons_of_mem _ later), (List.nodup_cons.mp attributes.distinct).2⟩

theorem attributesText_cons (name value : String) (rest : List (String × String)) :
    Token.attributesText ((name, value) :: rest) =
      ' ' :: (name.toList ++ '=' :: '"' :: (escape value.toList ++ '"' :: Token.attributesText rest)) := by
  simp [Token.attributesText]

/-- An attribute is read with its value as it is written. -/
theorem rawAttribute?_written {name : String} (plain : IsAttributeName name) (value rest : List Char) :
    rawAttribute? (name.toList ++ '=' :: '"' :: (escape value ++ '"' :: rest)) =
      some (name.toList, escape value, rest) := by
  have quote : '"' ∉ escape value := not_mem_escape (.inr (.inr (.inl rfl))) value
  have cut := splitAt_append quote rest
  have there : (escape value ++ '"' :: rest).contains '"' = true := by
    rw [List.contains_iff_mem]
    exact List.mem_append_right _ List.mem_cons_self
  rcases List.exists_cons_of_ne_nil plain.1 with ⟨c, more, spelled⟩
  have passes : ∀ d ∈ more, (!(d == '=' || isGap d)) = true := by
    intro d member
    have fits := plain.2 d (spelled ▸ List.mem_cons_of_mem _ member)
    have notEquals : d ≠ '=' := ne_of_isNameChar fits (by decide)
    rw [isGap_of_isNameChar fits, beq_false_of_ne notEquals]
    rfl
  have taken : (more ++ '=' :: '"' :: (escape value ++ '"' :: rest)).takeWhile (fun d => !(d == '=' || isGap d)) =
      more := by
    rw [List.takeWhile_append_of_pos passes]
    simp
  have left : (more ++ '=' :: '"' :: (escape value ++ '"' :: rest)).dropWhile (fun d => !(d == '=' || isGap d)) =
      '=' :: '"' :: (escape value ++ '"' :: rest) := by
    rw [List.dropWhile_append_of_pos passes]
    simp
  have noGapBefore : ('=' :: '"' :: (escape value ++ '"' :: rest)).dropWhile isGap =
      '=' :: '"' :: (escape value ++ '"' :: rest) := List.dropWhile_cons_of_neg (by decide)
  have noGapBehind : ('"' :: (escape value ++ '"' :: rest)).dropWhile isGap = '"' :: (escape value ++ '"' :: rest) :=
    List.dropWhile_cons_of_neg (by decide)
  rw [spelled, List.cons_append, rawAttribute?]
  simp only [taken, left, noGapBefore, noGapBehind, there, cut]
  rfl

/-- The attributes that are written are read, none of them having been seen before. -/
theorem attributesFrom_written {attributes : List (String × String)} (plain : AttributesPlain attributes)
    {seen : List String} (unseen : ∀ a ∈ attributes, a.1 ∉ seen) {steps : Nat} (enough : attributes.length < steps) :
    attributesFrom steps seen (Token.attributesText attributes) = some attributes := by
  induction attributes generalizing seen steps with
  | nil =>
      rcases Nat.exists_eq_add_of_lt enough with ⟨fewer, rfl⟩
      rfl
  | cons a rest ih =>
      rcases a with ⟨name, value⟩
      rcases Nat.exists_eq_add_of_lt enough with ⟨fewer, rfl⟩
      have plainName : IsAttributeName name := plain.plain _ List.mem_cons_self
      rcases List.exists_cons_of_ne_nil plainName.1 with ⟨c, more, spelled⟩
      have first : isNameChar c = true := plainName.2 c (spelled ▸ List.mem_cons_self)
      have text : ∀ tail, ((' ' :: (name.toList ++ tail)).dropWhile isGap) = name.toList ++ tail := by
        intro tail
        have stops : ¬ isGap c = true := by
          rw [isGap_of_isNameChar first]
          exact Bool.false_ne_true
        rw [List.dropWhile_cons_of_pos (by decide), spelled, List.cons_append, List.dropWhile_cons_of_neg stops]
      have filled : ∀ tail, (name.toList ++ tail).isEmpty = false := by
        intro tail
        rw [spelled]
        rfl
      have fresh : seen.contains name = false := by
        rw [Bool.eq_false_iff, ne_eq, List.contains_iff_mem]
        exact unseen _ List.mem_cons_self
      have unseenBehind : ∀ b ∈ rest, b.1 ∉ name :: seen := by
        intro b later
        rw [List.mem_cons, not_or]
        have distinct := List.nodup_cons.mp plain.distinct
        have named : b.1 ∈ rest.map (·.1) := List.mem_map_of_mem later
        exact ⟨fun same => distinct.1 (same ▸ named), unseen b (List.mem_cons_of_mem _ later)⟩
      have behind := ih plain.tail unseenBehind (show rest.length < rest.length + 1 + fewer by omega)
      have steps_eq : ((name, value) :: rest).length + fewer + 1 = rest.length + 1 + fewer + 1 := rfl
      rw [steps_eq, attributesText_cons, attributesFrom]
      simp only [text, filled, Bool.false_eq_true, if_false, rawAttribute?_written plainName, String.ofList_toList,
        fresh, resolve?_escape, Option.bind_some, behind, Option.map_some]

theorem length_le_length_attributesText (attributes : List (String × String)) :
    attributes.length ≤ (Token.attributesText attributes).length := by
  induction attributes with
  | nil => exact Nat.le_refl _
  | cons a rest ih =>
      rw [attributesText_cons]
      simp only [List.length_cons, List.length_append]
      omega

/-- Attributes are read as they were written. -/
theorem attributes?_attributesText {attributes : List (String × String)} (plain : AttributesPlain attributes) :
    attributes? (Token.attributesText attributes) = some attributes :=
  attributesFrom_written plain (fun _ _ => List.not_mem_nil)
    (Nat.lt_succ_of_le (length_le_length_attributesText attributes))

/-! ## Opening and single tags -/

/-- What stands inside a tag without ending it or leaving a quote open. -/
def Passes (cs : List Char) : Prop :=
  ∀ rest, tagEnd? none (cs ++ rest) = (tagEnd? none rest).map fun (inside, tail) => (cs ++ inside, tail)

theorem Passes.nil : Passes [] := by
  intro rest
  cases h : tagEnd? none rest <;> simp [h]

theorem Passes.append {first second : List Char} (passes : Passes first) (alsoPasses : Passes second) :
    Passes (first ++ second) := by
  intro rest
  rw [List.append_assoc, passes, alsoPasses, Option.map_map]
  refine congrArg (Option.map · _) (funext fun parts => ?_)
  simp

theorem passes_char {c : Char} (noEnd : c ≠ '>') (noQuote : c ≠ '"') (noApostrophe : c ≠ '\'') : Passes [c] := by
  intro rest
  rw [List.singleton_append, tagEnd?, if_neg noEnd]
  simp only [noQuote, noApostrophe, or_self, if_false]
  rfl

theorem passes_name {cs : List Char} (fits : ∀ c ∈ cs, isNameChar c = true) : Passes cs := by
  induction cs with
  | nil => exact .nil
  | cons c rest ih =>
      have first := fits c List.mem_cons_self
      exact (passes_char (ne_of_isNameChar first (by decide)) (ne_of_isNameChar first (by decide))
        (ne_of_isNameChar first (by decide))).append (ih fun d later => fits d (List.mem_cons_of_mem _ later))

theorem passes_plain {cs : List Char} (plain : ∀ c ∈ cs, isPlainChar c = true) : Passes cs :=
  passes_name fun c member => isNameChar_of_isPlainChar (plain c member)

theorem tagEnd?_inQuotes {cs : List Char} (noQuote : '"' ∉ cs) (rest : List Char) :
    tagEnd? (some '"') (cs ++ '"' :: rest) =
      (tagEnd? none rest).map fun (inside, tail) => (cs ++ '"' :: inside, tail) := by
  induction cs with
  | nil =>
      rw [List.nil_append, tagEnd?]
      simp only [if_true]
      rfl
  | cons c more ih =>
      have notQuote : c ≠ '"' := fun same => noQuote (same ▸ List.mem_cons_self)
      rw [List.cons_append, tagEnd?]
      simp only [notQuote, if_false, ih fun later => noQuote (List.mem_cons_of_mem _ later), Option.map_map]
      rfl

theorem passes_quoted {cs : List Char} (noQuote : '"' ∉ cs) : Passes ('"' :: (cs ++ ['"'])) := by
  intro rest
  rw [List.cons_append, List.append_assoc, List.singleton_append, tagEnd?, if_neg (by decide)]
  simp only [true_or, if_true, tagEnd?_inQuotes noQuote, Option.map_map]
  refine congrArg (Option.map · _) (funext fun parts => ?_)
  simp

theorem passes_attributesText {attributes : List (String × String)} (plain : AttributesPlain attributes) :
    Passes (Token.attributesText attributes) := by
  induction attributes with
  | nil => exact .nil
  | cons a rest ih =>
      have name := passes_name (plain.plain a List.mem_cons_self).2
      have value := passes_quoted (not_mem_escape (.inr (.inr (.inl rfl))) a.2.toList)
      have written : Token.attributesText (a :: rest) =
          [' '] ++ (a.1.toList ++ (['='] ++ ('"' :: (escape a.2.toList ++ ['"']) ++ Token.attributesText rest))) := by
        rw [attributesText_cons]
        simp
      rw [written]
      have blank : Passes [' '] := passes_char (by decide) (by decide) (by decide)
      have equals : Passes ['='] := passes_char (by decide) (by decide) (by decide)
      exact blank.append (name.append (equals.append (value.append (ih plain.tail))))

/-- The name of a tag ends where its attributes begin. -/
theorem name_of_written {name : String} (plain : IsPlainName name) (attributes : List (String × String)) :
    (name.toList ++ Token.attributesText attributes).takeWhile (!isGap ·) = name.toList ∧
      (name.toList ++ Token.attributesText attributes).dropWhile (!isGap ·) = Token.attributesText attributes := by
  have passes : ∀ c ∈ name.toList, (!isGap c) = true := by
    intro c member
    rw [isGap_of_isPlainChar (plain.2 c member)]
    rfl
  have stops : (Token.attributesText attributes).takeWhile (!isGap ·) = [] ∧
      (Token.attributesText attributes).dropWhile (!isGap ·) = Token.attributesText attributes := by
    cases attributes with
    | nil => exact ⟨rfl, rfl⟩
    | cons a rest =>
        rw [attributesText_cons]
        exact ⟨List.takeWhile_cons_of_neg (by decide), List.dropWhile_cons_of_neg (by decide)⟩
  rw [List.takeWhile_append_of_pos passes, List.dropWhile_append_of_pos passes, stops.1, stops.2, List.append_nil]
  exact ⟨rfl, rfl⟩

theorem getLast?_written {name : String} (plain : IsPlainName name) (attributes : List (String × String)) :
    (name.toList ++ Token.attributesText attributes).getLast? ≠ some '/' := by
  intro slash
  have last := List.mem_of_getLast? slash
  rcases List.eq_nil_or_concat attributes with rfl | ⟨before, a, rfl⟩
  · rw [Token.attributesText, List.flatMap_nil, List.append_nil] at last
    exact not_mem_of_isPlainName plain (by decide) last
  · have ends : name.toList ++ Token.attributesText (before.concat a) =
        name.toList ++ Token.attributesText before ++
          (' ' :: (a.1.toList ++ '=' :: '"' :: escape a.2.toList)) ++ ['"'] := by
      simp [Token.attributesText]
    rw [ends, List.getLast?_concat] at slash
    exact absurd (Option.some.inj slash) (by decide)

theorem tagOf_opening {name : String} (plain : IsPlainName name) (attributes : List (String × String)) :
    tagOf (name.toList ++ Token.attributesText attributes) = .opening name (Token.attributesText attributes) := by
  have notSingle := getLast?_written plain attributes
  have parts := name_of_written plain attributes
  simp only [tagOf, beq_iff_eq, notSingle, if_false, parts.1, parts.2, String.ofList_toList]

theorem tagOf_single {name : String} (plain : IsPlainName name) (attributes : List (String × String)) :
    tagOf (name.toList ++ Token.attributesText attributes ++ ['/']) =
      .single name (Token.attributesText attributes) := by
  have parts := name_of_written plain attributes
  simp only [tagOf, List.getLast?_concat, List.dropLast_concat, beq_self_eq_true, if_true, parts.1, parts.2,
    String.ofList_toList]

/-- What begins a tag, unless a mark follows the angle. -/
theorem afterAngle_of_ne {c : Char} (noMark : c ≠ '!') (noSlash : c ≠ '/') (noQuestion : c ≠ '?') (more : List Char) :
    afterAngle (c :: more) =
      match tagEnd? none (c :: more) with
      | some (inside, rest) => .event (tagOf inside) rest
      | none => .broken := by
  rw [afterAngle.eq_def]
  split
  · rename_i nothing
    cases nothing
  · rename_i mark
    exact absurd (List.cons.inj mark).1 noMark
  · rename_i slash
    exact absurd (List.cons.inj slash).1 noSlash
  · rename_i question
    exact absurd (List.cons.inj question).1 noQuestion
  · rfl

theorem next_of_tagEnd? {c : Char} {more inside rest : List Char} (mark : c ≠ '!') (slash : c ≠ '/')
    (question : c ≠ '?') (ends : tagEnd? none (c :: more) = some (inside, rest)) :
    next ('<' :: c :: more) = .event (tagOf inside) rest := by
  rw [next, afterAngle_of_ne mark slash question, ends]

/-- What stands behind an angle and is no closing tag ends at the first closing angle outside quotes. -/
theorem next_of_passes {name : String} (plain : IsPlainName name) {inside : List Char}
    (passes : Passes (name.toList ++ inside)) (rest : List Char) :
    next ('<' :: (name.toList ++ inside ++ '>' :: rest)) = .event (tagOf (name.toList ++ inside)) rest := by
  have ends : tagEnd? none (name.toList ++ inside ++ '>' :: rest) = some (name.toList ++ inside, rest) := by
    rw [passes, tagEnd?, if_pos rfl]
    simp
  rcases exists_cons_of_isPlainName plain with ⟨c, more, spelled, first⟩
  have noMark : c ≠ '!' := ne_of_isPlainChar first (by decide)
  have noSlash : c ≠ '/' := ne_of_isPlainChar first (by decide)
  have noQuestion : c ≠ '?' := ne_of_isPlainChar first (by decide)
  rw [spelled, List.cons_append, List.cons_append] at ends ⊢
  exact next_of_tagEnd? noMark noSlash noQuestion ends

theorem next_opening {name : String} (plain : IsPlainName name) {attributes : List (String × String)}
    (plainAttributes : AttributesPlain attributes) (rest : List Char) :
    next ((Token.opening name attributes).written ++ rest) =
      .event (.opening name (Token.attributesText attributes)) rest := by
  have passes := (passes_plain plain.2).append (passes_attributesText plainAttributes)
  have written : (Token.opening name attributes).written ++ rest =
      '<' :: (name.toList ++ Token.attributesText attributes ++ '>' :: rest) :=
    congrArg ('<' :: ·) (List.append_assoc _ ['>'] rest)
  rw [written, next_of_passes plain passes, tagOf_opening plain]

theorem next_single {name : String} (plain : IsPlainName name) {attributes : List (String × String)}
    (plainAttributes : AttributesPlain attributes) (rest : List Char) :
    next ((Token.single name attributes).written ++ rest) =
      .event (.single name (Token.attributesText attributes)) rest := by
  have slash : Passes ['/'] := passes_char (by decide) (by decide) (by decide)
  have passes := (passes_plain plain.2).append ((passes_attributesText plainAttributes).append slash)
  have joined : name.toList ++ Token.attributesText attributes ++ ['/', '>'] ++ rest =
      name.toList ++ (Token.attributesText attributes ++ ['/']) ++ '>' :: rest := by
    simp
  have written : (Token.single name attributes).written ++ rest =
      '<' :: (name.toList ++ (Token.attributesText attributes ++ ['/']) ++ '>' :: rest) :=
    congrArg ('<' :: ·) joined
  rw [written, next_of_passes plain passes, ← List.append_assoc, tagOf_single plain]

end Markup
end ProductGraph
