import ProductGraph.Proofs.Document.Settled

namespace ProductGraph

/-!
# The values of a document that was read

A document may spell a field in many ways and be wrong about it in many more.  Whatever it says, what is read of it
has a form that needs no second look: its fields are fields of the vocabulary and say something, its texts are lists
of entries and its rich texts markup, its fragments are lists, and its references have a namespace or need none.

No value is promised to be right.  A reference that is a number stays one, and so does a text deeper inside a
reference than in the items of a list: neither is a name that could be completed.
-/

/-- Whether a value holds a text: it is the text or an array with the text among its items. -/
def Json.Holds (v : Json) (s : String) : Prop := v = .string s ∨ ∃ items, v = .array items ∧ .string s ∈ items

/-- A value that holds no bare name. -/
def Json.Qualified (v : Json) : Prop := ∀ s, v.Holds s → isBareName s = false

/-- A fragment whose references hold no bare name.  What is no object has no references. -/
def Json.QualifiedFragment (v : Json) : Prop :=
  ∀ own, v = .object own → ∀ part ∈ own, part.1 ∈ ["hasClass", "idRef"] → part.2.Qualified

/-- A field as it stands once it has been read. -/
structure CanonicalField (name : String) (v : Json) : Prop where
  known : name ∈ Vocabulary.terms.map (·.field)
  told : v ≠ .null
  text : name ∈ Vocabulary.textFields →
    ∃ entries, v = .array entries ∧ entries ≠ [] ∧ ∀ entry ∈ entries, Shape.IsTextEntry entry
  rich : name ∈ Vocabulary.richFields → ∀ entries, v = .array entries → ∀ entry ∈ entries,
    ∀ s, entry.textField? "value" = some s → Markup.asMarkup s = s
  fragments : name ∈ Vocabulary.fragmentFields.map (·.1) →
    ∃ items, v = .array items ∧ ∀ item ∈ items, item.QualifiedFragment
  references : name ∈ "id" :: "idRef" :: Vocabulary.classFields → v.Qualified

/-- Fields that all stand as they do once they have been read. -/
def Fields.Canonical (fields : Fields) : Prop := ∀ f ∈ fields, CanonicalField f.1 f.2

theorem Vocabulary.mem_fields_of_isField {name : String} (known : isField name = true) :
    name ∈ terms.map (·.field) := by
  rcases Option.isSome_iff_exists.mp known with ⟨term, found⟩
  exact List.mem_map.mpr ⟨term, List.mem_of_find?_eq_some found, by simpa using List.find?_some found⟩

theorem textField?_languageText (t : LanguageText) :
    (Writing.languageText t).textField? "value" = some t.value := by
  rw [Writing.languageText_eq]
  rcases t with ⟨value, _ | lang⟩ <;> rfl

namespace Normal

variable {options : ReadingOptions} {kind : Option Kind} {name : String}

/-! ## References -/

/-- Whatever the namespace, a name in it is not bare: the colon tells. -/
theorem isBareName_inNamespace (scope s : String) : isBareName (inNamespace scope s) = false := by
  rw [inNamespace]
  split
  · apply isBareName_of_colon
    simp [String.toList_append]
  · rename_i notBare
    simpa using notBare

theorem qualified_onTexts (scope : String) (v : Json) : (onTexts (inNamespace scope) v).Qualified := by
  intro s holds
  cases v with
  | string given =>
      rcases holds with is | ⟨_, is, _⟩
      · cases is
        exact isBareName_inNamespace scope given
      · cases is
  | array list =>
      rcases holds with is | ⟨_, is, member⟩
      · cases is
      · cases is
        rcases List.mem_map.mp member with ⟨item, _, made⟩
        cases item with
        | string given =>
            cases made
            exact isBareName_inNamespace scope given
        | _ => cases made
  | _ => rcases holds with is | ⟨_, is, _⟩ <;> cases is

/-- Whichever of its namespaces a reference belongs to, it is put into one. -/
theorem exists_namespace (isReference : name ∈ "id" :: "idRef" :: Vocabulary.classFields) (v : Json) :
    ∃ scope, plainField options kind name v = onTexts (inNamespace scope) (plain v) := by
  simp only [Vocabulary.classFields, List.mem_cons, List.not_mem_nil, or_false] at isReference
  rcases isReference with rfl | rfl | rfl | rfl | rfl | rfl | rfl | rfl | rfl
  · exact ⟨identifierNamespace options kind, rfl⟩
  · exact ⟨options.dataNamespace, rfl⟩
  all_goals exact ⟨options.classNamespace, rfl⟩

/-! ## Fragments -/

theorem qualifiedFragment_fragment (v : Json) : (fragment options v).QualifiedFragment := by
  intro own is part member isReference
  cases v with
  | object given =>
      cases is
      rcases List.mem_filterMap.mp member with ⟨f, _, made⟩
      rcases Option.map_eq_some_iff.mp made with ⟨w, made, rfl⟩
      simp only [List.mem_cons, List.not_mem_nil, or_false] at isReference
      rcases isReference with same | same
      · rw [same] at made
        cases made
        exact qualified_onTexts options.classNamespace _
      · rw [same] at made
        cases made
        exact qualified_onTexts options.dataNamespace _
  | _ => cases is

theorem plainField_fragments (isFragments : name ∈ Vocabulary.fragmentFields.map (·.1)) (v : Json) :
    plainField options kind name v = .array ((itemsOf v).map (fragment options)) := by
  rw [plainField, if_pos (List.contains_iff_mem.mpr isFragments)]

/-! ## Fields -/

theorem isTextEntry_textEntry (name : String) (t : LanguageText) : Shape.IsTextEntry (textEntry name t) :=
  Shape.isTextEntry_languageText _

/-- Whatever was given for a field, what is read of it is canonical. -/
theorem canonical_field? {given v : Json} (made : field? options kind name given = some v) :
    CanonicalField name v := by
  have rich : name ∈ Vocabulary.richFields → ∀ entries, v = .array entries → ∀ entry ∈ entries,
      ∀ s, entry.textField? "value" = some s → Markup.asMarkup s = s := by
    intro isRich entries is entry member s value
    rcases rich_of_field? (List.contains_iff_mem.mpr isRich) made with ⟨list, list_eq, markup⟩
    cases list_eq.symm.trans is
    rcases List.mem_map.mp member with ⟨t, among, rfl⟩
    rw [textField?_languageText] at value
    cases value
    exact markup t among
  rcases field?_eq_some made with ⟨known, ⟨isText, nonempty, is⟩ | ⟨notText, notNull, is⟩⟩
  · -- No field of text holds fragments or references, so nothing is asked of it there.
    have onlyText : ∀ other ∈ Vocabulary.fragmentFields.map (·.1) ++ "id" :: "idRef" :: Vocabulary.classFields,
        Vocabulary.textFields.contains other = false := by decide
    refine ⟨Vocabulary.mem_fields_of_isField known, by rw [is]; exact Json.noConfusion, fun _ => ?_, rich,
      fun isFragments => ?_, fun isReference => ?_⟩
    · refine ⟨_, is, by simpa using nonempty, fun entry member => ?_⟩
      rcases List.mem_map.mp member with ⟨t, _, rfl⟩
      exact isTextEntry_textEntry name t
    · exact absurd isText (by rw [onlyText name (List.mem_append_left _ isFragments)]; exact Bool.false_ne_true)
    · exact absurd isText (by rw [onlyText name (List.mem_append_right _ isReference)]; exact Bool.false_ne_true)
  · refine ⟨Vocabulary.mem_fields_of_isField known, ?_, fun isText => ?_, rich, fun isFragments => ?_,
      fun isReference => ?_⟩
    · rintro rfl
      cases notNull
    · rw [List.contains_iff_mem.mpr isText] at notText
      cases notText
    · rw [is, plainField_fragments isFragments]
      refine ⟨_, rfl, fun item member => ?_⟩
      rcases List.mem_map.mp member with ⟨given, _, rfl⟩
      exact qualifiedFragment_fragment given
    · rcases exists_namespace isReference (unwrapping.run given) with ⟨scope, made_eq⟩
      rw [is, made_eq]
      exact qualified_onTexts scope _

theorem canonical_fields (given : Fields) : Fields.Canonical (fields options kind given) := by
  intro f member
  rcases List.mem_filterMap.mp member with ⟨g, _, made⟩
  rcases Option.map_eq_some_iff.mp made with ⟨w, fieldMade, rfl⟩
  exact canonical_field? fieldMade

end Normal

namespace Document

/-- Whatever a document says, in either format and whatever reading it assumes, its header and all its items are
canonical once it has been read. -/
theorem canonical_of_ofText {format : Format} {options : ReadingOptions} {text : String} {document : Document}
    (read : ofText format options text = .ok document) :
    document.header.Canonical ∧
      ∀ item ∈ document.items, ∀ fields, item.value = .object fields → Fields.Canonical fields := by
  have normal := inNormalForm_of_ofText read
  constructor
  · rcases normal.header with ⟨given, is⟩
    rw [is]
    exact Normal.canonical_fields given
  · intro item member fields is
    rcases normal.items item member fields is with ⟨kind, given, rfl⟩
    exact Normal.canonical_fields given

/-- A shop with one pump.  Names lack their namespaces, a text is no markup and one field says nothing. -/
def shopText : String :=
  "\x7b\"@id\":\"Shop\",\"dcterms:title\":null,\"@graph\":[\x7b\"@id\":\"pump\",\"pig:hasClass\":[\"Pump\"]," ++
    "\"dcterms:description\":\"oil & water\"\x7d]\x7d"

theorem canonical_of_ofText_shop :
    ∃ document, ofText .jsonLd .standard shopText = .ok document ∧
      (Json.object document.header).textField? "id" = some "d:Shop" ∧
      document.items.map (·.id?) = [some "d:pump"] ∧
      document.header.Canonical ∧
      ∀ item ∈ document.items, ∀ fields, item.value = .object fields → Fields.Canonical fields := by
  have reads : ((ofText .jsonLd .standard shopText).toOption.map fun document =>
      ((Json.object document.header).textField? "id", document.items.map (·.id?))) =
        some (some "d:Shop", [some "d:pump"]) := by decide +kernel
  cases read : ofText .jsonLd .standard shopText with
  | error fault =>
      rw [read] at reads
      cases reads
  | ok document =>
      rw [read] at reads
      rcases Prod.mk.inj (Option.some.inj reads) with ⟨header, items⟩
      exact ⟨document, rfl, header, items, canonical_of_ofText read⟩

end Document
end ProductGraph
