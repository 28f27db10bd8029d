import ProductGraph.Document.Normal
import ProductGraph.Proofs.Item.Written

namespace ProductGraph

/-!
# What is written is in normal form

Reading brings every field to its normal form, and what is written for a content is in that form already: its
references have their namespaces, its texts are lists of entries, its counts and numbers are numbers.  Two things
depend on where a content comes from.  A rich text is left alone only if it is markup, and a point in time only if it
is canonical; both hold for all that was read before.
-/

namespace Walk

theorem runItems_eq (w : Walk) (list : List Json) : w.runItems list = list.map w.run := by
  induction list with
  | nil => rfl
  | cons v rest ih => rw [runItems, ih, List.map_cons]

theorem runFields_eq (w : Walk) (fields : List (String × Json)) :
    w.runFields fields = fields.map fun f => (f.1, w.run f.2) := by
  induction fields with
  | nil => rfl
  | cons f rest ih => rw [runFields, ih, List.map_cons]

theorem run_array (w : Walk) (list : List Json) : w.run (.array list) = .array (list.map w.run) := by
  rw [run, runItems_eq]

theorem run_object (w : Walk) (fields : Fields) :
    w.run (.object fields) = w.object (fields.map fun f => (f.1, w.run f.2)) := by
  rw [run, runFields_eq]

/-- A walk that leaves every item alone leaves the array alone. -/
theorem run_array_map {α : Type} {w : Walk} {write : α → Json} (same : ∀ a, w.run (write a) = write a)
    (list : List α) : w.run (.array (list.map write)) = .array (list.map write) := by
  rw [run_array, List.map_map]
  exact congrArg Json.array (List.map_congr_left fun a _ => same a)

end Walk

namespace Normal

/-! ## References -/

/-- A text with a colon is no bare name. -/
theorem isBareName_of_colon {s : String} (colon : ':' ∈ s.toList) : isBareName s = false := by
  rw [isBareName]
  cases spelled : s.toList with
  | nil => rfl
  | cons c rest =>
      rw [spelled] at colon
      simp only [Identifier.isBare, Bool.and_eq_false_iff]
      rcases List.mem_cons.mp colon with rfl | later
      · exact .inl rfl
      · exact .inr (List.all_eq_false.mpr ⟨':', later, by decide⟩)

/-- What has the form of an identifier has a namespace. -/
theorem inNamespace_of_identifies {s : String} (names : Identifies s) (scope : String) :
    inNamespace scope s = s := by
  rw [inNamespace, isBareName_of_colon (SchemaDocument.colon_mem_of_matchesText names)]
  rfl

theorem onTexts_string (change : String → String) (s : String) : onTexts change (.string s) = .string (change s) := rfl

theorem plainItems_eq (list : List Json) : plainItems list = list.map plain := by
  induction list with
  | nil => rfl
  | cons v rest ih => rw [plainItems, ih, List.map_cons]

theorem plain_texts (list : List String) : plain (Writing.texts list) = Writing.texts list := by
  rw [Writing.texts, plain, plainItems_eq, List.map_map]
  rfl

theorem onTexts_texts {change : String → String} {list : List String} (same : ∀ s ∈ list, change s = s) :
    onTexts change (Writing.texts list) = Writing.texts list := by
  rw [Writing.texts, onTexts, List.map_map]
  exact congrArg Json.array (List.map_congr_left fun s member => congrArg Json.string (same s member))

/-! ## References in wrappers -/

theorem unwrapping_string (s : String) : unwrapping.run (.string s) = .string s := rfl

theorem unwrapping_texts (list : List String) : unwrapping.run (Writing.texts list) = Writing.texts list :=
  Walk.run_array_map unwrapping_string list

theorem unwrapping_embeddedProperty (p : PropertyValue) :
    unwrapping.run (Writing.embeddedProperty p) = Writing.embeddedProperty p := by
  rw [Writing.embeddedProperty_eq]
  rcases p with ⟨hasClass, value, _ | lang⟩ <;> rfl

theorem unwrapping_embeddedLink (l : LinkValue) :
    unwrapping.run (Writing.embeddedLink l) = Writing.embeddedLink l := by
  rw [Writing.embeddedLink_eq]
  rfl

theorem unwrapping_written {shape : Shape} {v : Json} (written : shape.Written v) (notTexts : shape ≠ .texts) :
    unwrapping.run v = v := by
  cases written with
  | identifier | text | count | number | exactly => rfl
  | identifiers | textList => exact unwrapping_texts _
  | texts => exact absurd rfl notTexts
  | properties => exact Walk.run_array_map unwrapping_embeddedProperty _
  | links => exact Walk.run_array_map unwrapping_embeddedLink _

/-! ## Fragments -/

variable {options : ReadingOptions}

theorem fragment_embeddedProperty {p : PropertyValue} (names : Identifies p.hasClass) :
    fragment options (Writing.embeddedProperty p) = Writing.embeddedProperty p := by
  have same := inNamespace_of_identifies names options.classNamespace
  rw [Writing.embeddedProperty_eq]
  rcases p with ⟨hasClass, value, _ | lang⟩ <;>
    simp [fragment, fragmentField?, plain, onTexts, onText, same, Json.scalarText?]

theorem fragment_embeddedLink {l : LinkValue} (names : Identifies l.hasClass ∧ Identifies l.idRef) :
    fragment options (Writing.embeddedLink l) = Writing.embeddedLink l := by
  have same := inNamespace_of_identifies names.1 options.classNamespace
  have alsoSame := inNamespace_of_identifies names.2 options.dataNamespace
  rw [Writing.embeddedLink_eq]
  simp [fragment, fragmentField?, plain, onTexts, onText, same, alsoSame]

/-! ## Single fields -/

/-- What a field says already is what reading it would make of it. -/
structure Settled (name : String) (v : Json) : Prop where
  modified : name = "modified" → onTexts Time.canonical v = v
  rich : Vocabulary.richFields.contains name →
    ∃ list : List LanguageText, v = .array (list.map Writing.languageText) ∧
      ∀ t ∈ list, Markup.asMarkup t.value = t.value

/-- Whether a field of a name may have a shape.  Which change a field undergoes is told by its name; its shape is one
that the change leaves alone. -/
def suits (name : String) (shape : Shape) : Bool :=
  Vocabulary.isField name && Vocabulary.textFields.contains name == (shape == .texts) &&
    (Vocabulary.fragmentFields.map (·.1)).contains name == (shape == .properties || shape == .links) &&
    ((Vocabulary.classFields.contains name || name == "id" || name == "idRef") →
      (shape == .identifier || shape == .identifiers)) &&
    (Vocabulary.countFields.contains name → shape == .count) &&
    (Vocabulary.numberFields.contains name → shape == .number)

theorem suits_of_get?_shapes {kind : Kind} {name : String} {shape : Shape}
    (named : kind.shapes.get? name = some shape) : suits name shape = true := by
  have all : ∀ kind ∈ Kind.all, ∀ s ∈ kind.shapes, suits s.1 s.2 = true := by decide
  exact all kind kind.mem_all (name, shape) (Keyed.mem_of_get? named)

theorem languageTexts_map (list : List LanguageText) :
    languageTexts (.array (list.map Writing.languageText)) = list := by
  have each : ∀ t : LanguageText, languageTexts (Writing.languageText t) = [t] := by
    intro t
    rw [Writing.languageText_eq]
    rcases t with ⟨value, _ | lang⟩ <;> rfl
  rw [languageTexts]
  induction list with
  | nil => rfl
  | cons t rest ih => rw [List.map_cons, languageTextsOfItems, each, ih, List.singleton_append]

/-- A field that is neither text nor fragments is left alone if each change that its name asks for leaves it alone. -/
theorem plainField_eq {kind : Option Kind} {name : String} {v : Json}
    (notFragments : (Vocabulary.fragmentFields.map (·.1)).contains name = false) (plain_eq : plain v = v)
    (references : (Vocabulary.classFields.contains name || name == "id" || name == "idRef") = true →
      ∀ scope, onTexts (inNamespace scope) v = v)
    (modified : name = "modified" → onTexts Time.canonical v = v)
    (count_eq : Vocabulary.countFields.contains name = true → count v = v)
    (number_eq : Vocabulary.numberFields.contains name = true → number v = v) :
    plainField options kind name v = v := by
  rw [plainField, notFragments, if_neg Bool.false_ne_true, plain_eq]
  by_cases id : name == "id"
  · rw [if_pos id]
    exact references (by rw [id, Bool.or_true, Bool.true_or]) _
  · by_cases idRef : name == "idRef"
    · rw [if_neg id, if_pos idRef]
      exact references (by rw [idRef, Bool.or_true]) _
    · by_cases time : name == "modified"
      · rw [if_neg id, if_neg idRef, if_pos time]
        exact modified (beq_iff_eq.mp time)
      · by_cases ofClass : Vocabulary.classFields.contains name
        · rw [if_neg id, if_neg idRef, if_neg time, if_pos ofClass]
          exact references (by rw [ofClass, Bool.true_or, Bool.true_or]) _
        · by_cases isCount : Vocabulary.countFields.contains name
          · rw [if_neg id, if_neg idRef, if_neg time, if_neg ofClass, if_pos isCount, count_eq isCount]
          · rw [if_neg id, if_neg idRef, if_neg time, if_neg ofClass, if_neg isCount]
            split
            · rename_i isNumber
              exact number_eq isNumber
            · rfl

theorem plainField_written {kind : Option Kind} {name : String} {shape : Shape} {v : Json}
    (fits : suits name shape = true) (written : shape.Written v) (notTexts : shape ≠ .texts)
    (settled : Settled name v) : plainField options kind name v = v := by
  simp only [suits, Bool.and_eq_true, decide_eq_true_eq, beq_iff_eq] at fits
  rcases fits with ⟨⟨⟨⟨⟨_, _⟩, fragments⟩, references⟩, counts⟩, numbers⟩
  cases written with
  | identifier names =>
      refine plainField_eq fragments rfl (fun _ scope => ?_) settled.modified
        (fun isCount => nomatch counts isCount)
        (fun isNumber => nomatch numbers isNumber)
      rw [onTexts_string, inNamespace_of_identifies names]
  | identifiers names =>
      refine plainField_eq fragments (plain_texts _) (fun _ scope => ?_) settled.modified
        (fun isCount => nomatch counts isCount) (fun isNumber => nomatch numbers isNumber)
      exact onTexts_texts fun s member => inNamespace_of_identifies (names s member) scope
  | texts => exact absurd rfl notTexts
  | text s =>
      exact plainField_eq fragments rfl (fun isReference => nomatch references isReference) settled.modified
        (fun isCount => nomatch counts isCount) (fun isNumber => nomatch numbers isNumber)
  | textList list =>
      exact plainField_eq fragments (plain_texts _) (fun isReference => nomatch references isReference) settled.modified
        (fun isCount => nomatch counts isCount) (fun isNumber => nomatch numbers isNumber)
  | count =>
      exact plainField_eq fragments rfl (fun isReference => nomatch references isReference) settled.modified
        (fun _ => rfl) (fun isNumber => nomatch numbers isNumber)
  | number =>
      exact plainField_eq fragments rfl (fun isReference => nomatch references isReference) settled.modified
        (fun isCount => nomatch counts isCount) (fun _ => rfl)
  | exactly s =>
      exact plainField_eq fragments rfl (fun isReference => nomatch references isReference) settled.modified
        (fun isCount => nomatch counts isCount) (fun isNumber => nomatch numbers isNumber)
  | properties _ names =>
      have isFragments : (Vocabulary.fragmentFields.map (·.1)).contains name = true := fragments
      rw [plainField, if_pos isFragments, itemsOf, List.map_map]
      exact congrArg Json.array (List.map_congr_left fun p member => fragment_embeddedProperty (names p member))
  | links _ names =>
      have isFragments : (Vocabulary.fragmentFields.map (·.1)).contains name = true := fragments
      rw [plainField, if_pos isFragments, itemsOf, List.map_map]
      exact congrArg Json.array (List.map_congr_left fun l member => fragment_embeddedLink (names l member))

/-- Where a field comes from: it is one of the vocabulary, and either the entries of a text, of which there are some,
or the plain form of what was given, which is not null. -/
theorem field?_eq_some {kind : Option Kind} {name : String} {given v : Json}
    (made : field? options kind name given = some v) :
    Vocabulary.isField name = true ∧
      (Vocabulary.textFields.contains name = true ∧ languageTexts given ≠ [] ∧
          v = .array ((languageTexts given).map (textEntry name)) ∨
        Vocabulary.textFields.contains name = false ∧ v.isNull = false ∧
          v = plainField options kind name (unwrapping.run given)) := by
  rw [field?] at made
  split at made
  · cases made
  · rename_i known
    refine ⟨by simpa using known, ?_⟩
    split at made
    · rename_i isText
      dsimp only at made
      split at made
      · cases made
      · rename_i notEmpty
        cases made
        exact .inl ⟨isText, fun isNil => notEmpty (List.isEmpty_iff.mpr isNil), rfl⟩
    · rename_i notText
      dsimp only at made
      split at made
      · cases made
      · rename_i notNull
        cases made
        exact .inr ⟨by simpa using notText, by simpa using notNull, rfl⟩

theorem isNull_written {shape : Shape} {v : Json} (written : shape.Written v) : v.isNull = false := by
  cases written <;> rfl

theorem textEntry_settled {name : String} {t : LanguageText}
    (rich : Vocabulary.richFields.contains name → Markup.asMarkup t.value = t.value) :
    textEntry name t = Writing.languageText t := by
  rw [textEntry]
  split
  · rename_i isRich
    rw [rich isRich]
  · rfl

/-- A field that is written is read as it stands, and so is one whose references are wrapped. -/
theorem field?_written {kind : Option Kind} {name : String} {shape : Shape} {v : Json}
    (fits : suits name shape = true) (written : shape.Written v) (settled : Settled name v) {spelled : Json}
    (same : shape = .texts ∧ spelled = v ∨ shape ≠ .texts ∧ unwrapping.run spelled = v) :
    field? options kind name spelled = some v := by
  have facts := fits
  simp only [suits, Bool.and_eq_true, beq_iff_eq] at facts
  rcases facts with ⟨⟨⟨⟨⟨known, isText⟩, _⟩, _⟩, _⟩, _⟩
  rw [field?, known, Bool.not_true, if_neg Bool.false_ne_true]
  rcases same with ⟨rfl, rfl⟩ | ⟨notTexts, unwrapped_eq⟩
  · cases written with
    | @texts list nonempty =>
        have isText : Vocabulary.textFields.contains name = true := isText
        rw [if_pos isText]
        have entries := languageTexts_map list
        have asWritten : list.map (textEntry name) = list.map Writing.languageText := by
          apply List.map_congr_left
          intro t member
          refine textEntry_settled fun isRich => ?_
          rcases settled.rich isRich with ⟨same, v_eq, markup⟩
          have same_eq : list = same := by
            rw [← entries, v_eq, languageTexts_map]
          exact markup t (same_eq ▸ member)
        have notEmpty : list.isEmpty = false := List.isEmpty_eq_false_iff.mpr nonempty
        simp only [entries, notEmpty, asWritten]
        rfl
  · have notText : Vocabulary.textFields.contains name = false := by
      rw [isText]
      exact beq_false_of_ne notTexts
    rw [notText, if_neg Bool.false_ne_true, unwrapped_eq, plainField_written fits written notTexts settled]
    simp only [isNull_written written]
    rfl

/-- Fields are read as what was written if each field is read as the one of its name. -/
theorem fields_map {kind : Option Kind} {given : Fields} {spell : String → Json → Json}
    (same : ∀ f ∈ given, field? options kind f.1 (spell f.1 f.2) = some f.2) :
    fields options kind (given.map fun f => (f.1, spell f.1 f.2)) = given := by
  rw [fields, List.filterMap_map]
  have each : ∀ f ∈ given, ((fun f => (field? options kind f.1 f.2).map fun v => (f.1, v)) ∘
      fun f => (f.1, spell f.1 f.2)) f = some f := by
    intro f member
    simp only [Function.comp_apply, same f member]
    rfl
  rw [List.filterMap_congr each, List.filterMap_some]

/-- Each field comes of the one of its name. -/
theorem get?_fields_of_sorted {kind : Option Kind} {given : Fields} (sorted : Keyed.Sorted given) (name : String) :
    (fields options kind given).get? name = (given.get? name).bind (field? options kind name) :=
  Keyed.get?_filterMap sorted.nodup (field? options kind) name

end Normal
end ProductGraph
