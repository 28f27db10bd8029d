import ProductGraph.Proofs.Document.Xml.Items

namespace ProductGraph

/-!
# What markup carries

Markup takes a text of nothing but white space for layout, and rich text for what is between the tags that it finds.
Nothing is lost of an item whose texts stand, whose descriptions are read back from between their tags, and whose bounds
are read back as they are printed.

Nothing has to be asked of the point in time of an individual.  The rules for single items see to it that it is no
blank text.
-/

open Markup (Stands EndsAt standing)
open Xml (Visible Presents)

/-- A rich text that is read back when it is placed between the tags of a description. -/
def Xml.ReadsBack (s : String) : Prop :=
  ∃ e, Markup.root Vocabulary.isRichElement ("<dcterms:description>" ++ s ++ "</dcterms:description>") = .ok e ∧
    e.text = s

/-- What has to hold of an item for markup to carry it. -/
structure ItemData.Carried (d : ItemData) : Prop where
  title : ∀ i ∈ d.identifiable, ∀ t ∈ i.title, Stands t.value
  description : ∀ i ∈ d.identifiable, ∀ t ∈ i.description, Xml.ReadsBack t.value
  icon : ∀ e ∈ d.element, ∀ s ∈ e.icon, Visible s
  revision : ∀ i ∈ d.individual, ∀ s ∈ i.revision, Visible s
  priorRevision : ∀ i ∈ d.individual, ∀ s ∈ i.priorRevision, Visible s
  creator : ∀ i ∈ d.individual, ∀ s ∈ i.creator, Visible s
  properties : ∀ p ∈ d.properties, Stands p.value
  value : ∀ p, d = .property p → Stands p.value
  bounds : ∀ x ∈ d.bounds, RealValue.ofText? (Text.trim x.json.toList) = some (.finite x)

/-- What has to hold of a header for markup to carry it. -/
structure PackageHeader.Carried (h : PackageHeader) : Prop where
  title : ∀ t ∈ h.title, Stands t.value
  description : ∀ t ∈ h.description, Xml.ReadsBack t.value
  modified : ∀ s ∈ h.modified, Visible s
  creator : ∀ s ∈ h.creator, Visible s

namespace Xml

/-- What has to hold of the value of a field for markup to carry it: no text is lost as layout, rich text ends where
it should, and numbers are read back as they are printed. -/
structure Shown (name : String) (v : Json) : Prop where
  title : name = "title" → ∀ t ∈ Normal.languageTexts v, Stands t.value
  description : name = "description" →
    ∀ t ∈ Normal.languageTexts v, Markup.isMarkup t.value = true ∧ EndsAt "dcterms:description" t.value.toList
  text : optionalTexts.contains name = true → ∀ s, v = .string s → Visible s
  list : name = "priorRevision" → ∀ list, v = Writing.texts list → ∀ s ∈ list, Visible s
  value : name = "value" → ∀ s, v = .string s → Stands s
  properties : name = "hasProperty" → ∀ list : List PropertyValue,
    v = .array (list.map Writing.embeddedProperty) → ∀ p ∈ list, Stands p.value
  number : ∀ x, v = .number (.real x) → RealValue.ofText? (Text.trim x.json.toList) = some (.finite x)

/-- Whether a field of a shape has a name that tells how its values are read. -/
def isToldBy (name : String) (shape : Shape) : Bool :=
  match shape with
  | .texts => Vocabulary.textFields.contains name
  | .text => optionalTexts.contains name || name == "value"
  | .textList => name == "priorRevision"
  | .properties => name == "hasProperty"
  | .count | .number => true
  | _ => false

theorem isToldBy_of_get?_shapes {kind : Kind} {name : String} {shape : Shape}
    (named : kind.shapes.get? name = some shape) : isVerbatim name = true ∨ isToldBy name shape = true := by
  have all : ∀ kind ∈ Kind.all, ∀ s ∈ kind.shapes, (isVerbatim s.1 || isToldBy s.1 s.2) = true := by decide +kernel
  exact Bool.or_eq_true_iff.mp (all kind kind.mem_all (name, shape) (Keyed.mem_of_get? named))

/-- An entry of a text that markup carries is read as it was written. -/
theorem heardEntry_of_shown {name : String} {v : Json} (isText : Vocabulary.textFields.contains name = true)
    (shown : Shown name v) {t : LanguageText} (member : t ∈ Normal.languageTexts v) : heardEntry name t = t := by
  rcases List.mem_pair.mp (List.contains_iff_mem.mp isText) with rfl | rfl
  · have stands := shown.title rfl t member
    rw [heardEntry, if_neg (by decide), Markup.standing_eq_self_iff.mpr stands]
  · have markup := (shown.description rfl t member).1
    rw [heardEntry, if_pos (by decide), richText, if_pos markup]

theorem heard_of_isVerbatim {name : String} (verbatim : isVerbatim name = true) {shape : Shape} {v : Json}
    (written : shape.Written v) : heard name v = some (spelled name v) := by
  cases written with
  | identifier | text | exactly => exact heard_string verbatim _
  | identifiers | texts | textList | properties | links => exact heard_array verbatim _
  | count | number => rfl

/-- A value that markup carries is read as it was written, but for the spelling of numbers. -/
theorem heard_of_shown {kind : Kind} {name : String} {shape : Shape} {v : Json}
    (named : kind.shapes.get? name = some shape) (written : shape.Written v) (shown : Shown name v) :
    heard name v = some (spelled name v) := by
  rcases isToldBy_of_get?_shapes named with verbatim | told
  · exact heard_of_isVerbatim verbatim written
  · cases written with
    | count | number => rfl
    | identifier | identifiers | exactly | links => cases told
    | text s =>
        rcases Bool.or_eq_true_iff.mp told with optional | isValue
        · rw [heard_text optional, if_pos (shown.text optional s rfl)]
          rfl
        · have isValue : name = "value" := beq_iff_eq.mp isValue
          subst isValue
          exact congrArg (some ∘ Json.string) (Markup.standing_eq_self_iff.mpr (shown.value rfl s rfl))
    | @texts list nonempty =>
        rw [heard_texts told]
        refine congrArg (some ∘ Json.array) (List.map_congr_left fun t member => ?_)
        rw [heardEntry_of_shown told shown (by rwa [Normal.languageTexts_map])]
    | textList list =>
        have isPrior : name = "priorRevision" := beq_iff_eq.mp told
        subst isPrior
        have all : list.filter (fun s => Visible s) = list :=
          List.filter_eq_self.mpr fun s member => decide_eq_true (shown.list rfl list rfl s member)
        rw [heard_textList, all]
        rfl
    | @properties list nonempty names =>
        have ofProperties : name = "hasProperty" := beq_iff_eq.mp told
        subst ofProperties
        rw [heard_properties]
        refine congrArg (some ∘ Json.array) (List.map_congr_left fun p member => ?_)
        rw [Markup.standing_eq_self_iff.mpr (shown.properties rfl list rfl p member)]

/-! ## Texts -/

/-- A rich text that is read back ends where its element ends. -/
theorem ReadsBack.endsAt {s : String} (back : ReadsBack s) : EndsAt "dcterms:description" s.toList := by
  rcases back with ⟨e, reads, same⟩
  have written : "<dcterms:description>" ++ s ++ "</dcterms:description>" =
      String.ofList ((Markup.Token.opening "dcterms:description" []).written ++
        (s.toList ++ (Markup.Token.closing "dcterms:description").written)) := by
    rw [← String.toList_inj, String.toList_ofList, String.toList_append, String.toList_append, List.append_assoc]
    rfl
  have isRich : Vocabulary.isRichElement "dcterms:description" = true := by decide
  exact Markup.endsAt_of_root (by decide) isRich (written ▸ reads) same

theorem isMarkup_of_settled {s : String} (settled : Markup.asMarkup s = s) : Markup.isMarkup s = true :=
  settled ▸ Markup.isMarkup_asMarkup s

/-- A description that is settled and read back is written as it stands and ends where it should. -/
theorem ReadsBack.shown {s : String} (back : ReadsBack s) (settled : Markup.asMarkup s = s) :
    Markup.isMarkup s = true ∧ EndsAt "dcterms:description" s.toList :=
  ⟨isMarkup_of_settled settled, back.endsAt⟩

/-- What holds of the entries of a text holds of those that are read of it. -/
theorem forall_languageTexts {P : LanguageText → Prop} {list : List LanguageText} {v : Json}
    (written : Writing.unlessEmpty Writing.languageText list = some v) (each : ∀ t ∈ list, P t) :
    ∀ t ∈ Normal.languageTexts v, P t := by
  rw [Writing.unlessEmpty] at written
  split at written
  · cases written
  · rw [← Option.some.inj written, Normal.languageTexts_map]
    exact each

/-- What holds of an optional text holds of the text that is written for it. -/
theorem forall_text? {P : String → Prop} {given : Option String} {v : Json} (written : Writing.text? given = some v)
    (each : ∀ s ∈ given, P s) : ∀ s, v = .string s → P s := by
  rintro s rfl
  rcases Option.map_eq_some_iff.mp written with ⟨t, there, same⟩
  exact Json.string.inj same ▸ each t there

/-- What holds of the items of a list holds of those that are written for it, if they are told apart when written. -/
theorem forall_unlessEmpty {α : Type} {P : α → Prop} {write : α → Json} (apart : Function.Injective write)
    {given list : List α} (written : Writing.unlessEmpty write given = some (.array (list.map write)))
    (each : ∀ a ∈ given, P a) : ∀ a ∈ list, P a := by
  rw [Writing.unlessEmpty] at written
  split at written
  · cases written
  · have same := List.map_injective_iff.mpr apart (Json.array.inj (Option.some.inj written))
    exact same ▸ each

theorem injective_embeddedProperty : Function.Injective Writing.embeddedProperty := by
  intro p q same
  have back := Reading.embeddedProperty_back .direct p
  rw [same, Reading.embeddedProperty_back] at back
  exact (Except.ok.inj back).symm

theorem injective_string : Function.Injective Json.string := fun _ _ => Json.string.inj

theorem forall_getD_map {α β : Type} {P : β → Prop} {given : Option α} {list : α → List β}
    (each : ∀ a ∈ given, ∀ b ∈ list a, P b) : ∀ b ∈ (given.map list).getD [], P b := by
  cases given with
  | none => exact fun _ => nofun
  | some a => exact each a rfl

theorem forall_bind {α β : Type} {P : β → Prop} {given : Option α} {value : α → Option β}
    (each : ∀ a ∈ given, ∀ b ∈ value a, P b) : ∀ b ∈ given.bind value, P b := by
  intro b member
  rcases Option.bind_eq_some_iff.mp member with ⟨a, there, own⟩
  exact each a there b own

/-! ## Contents -/

/-- A point in time is no blank text. -/
theorem visible_of_isTimestamp {s : String} (isTime : Time.isTimestamp s = true) : Visible s := by
  rw [Visible, Bool.eq_false_iff]
  intro blank
  rw [Time.not_isTimestamp_of_blank blank] at isTime
  cases isTime

theorem isTimestamp_of_individual {kind : Kind} {i : Identifiable} {own : Individual}
    (valid : Validation.individual kind i own = .ok ()) : ∀ s ∈ own.modified, Time.isTimestamp s = true := by
  intro s stated
  rcases Outcome.unit_bind_eq_ok.mp valid with ⟨_, valid⟩
  dsimp only at valid
  rw [Option.mem_def.mp stated] at valid
  rcases Outcome.unit_bind_eq_ok.mp valid with ⟨time, _⟩
  cases isTime : Time.isTimestamp s with
  | true => rfl
  | false => simp [Validation.refuseIf, isTime] at time

/-- The point in time of an individual that obeys the rules for single items is no blank text. -/
theorem visible_modified {d : ItemData} (valid : Validation.item d = .ok ()) :
    ∀ i ∈ d.individual, ∀ s ∈ i.modified, Visible s := by
  intro i own s stated
  cases d with
  | entity e =>
      cases own
      rcases Outcome.unit_bind_eq_ok.mp valid with ⟨_, valid⟩
      exact visible_of_isTimestamp (isTimestamp_of_individual valid s stated)
  | relationship r =>
      cases own
      rcases Outcome.unit_bind_eq_ok.mp valid with ⟨_, valid⟩
      rcases Outcome.unit_bind_eq_ok.mp valid with ⟨valid, _⟩
      exact visible_of_isTimestamp (isTimestamp_of_individual valid s stated)
  | _ => cases own

variable {d : ItemData}

theorem shown_field (sound : d.Sound) (settled : d.Settled) (carried : d.Carried) {name : String} {v : Json}
    (there : d.fields.get? name = some v) : Shown name v where
  title := by
    rintro rfl
    rw [d.get?_title] at there
    exact forall_languageTexts there (forall_getD_map carried.title)
  description := by
    rintro rfl
    rw [d.get?_description] at there
    refine forall_languageTexts there (forall_getD_map fun i own t member => ?_)
    exact (carried.description i own t member).shown (settled.description i own t member)
  text := by
    intro isText
    have oneOf : name = "icon" ∨ name = "revision" ∨ name = "modified" ∨ name = "creator" := by
      simpa [optionalTexts] using isText
    rcases oneOf with rfl | rfl | rfl | rfl
    · rw [d.get?_icon] at there
      exact forall_text? there (forall_bind carried.icon)
    · rw [d.get?_revision] at there
      exact forall_text? there (forall_bind carried.revision)
    · rw [d.get?_modified] at there
      exact forall_text? there (forall_bind (visible_modified sound.valid))
    · rw [d.get?_creator] at there
      exact forall_text? there (forall_bind carried.creator)
  list := by
    rintro rfl list rfl
    rw [d.get?_priorRevision] at there
    exact forall_unlessEmpty injective_string there (forall_getD_map carried.priorRevision)
  value := by
    rintro rfl s rfl
    rw [d.get?_fields] at there
    cases d with
    | property p =>
        have same : p.value = s := Json.string.inj (Option.some.inj there)
        exact same ▸ carried.value p rfl
    | _ => cases there
  properties := by
    rintro rfl list rfl
    rw [d.get?_hasProperty] at there
    exact forall_unlessEmpty injective_embeddedProperty there carried.properties
  number := by
    rintro x rfl
    exact carried.bounds x (ItemData.mem_bounds_of_mem_fields sound (Keyed.mem_of_get? there))

theorem presents_fields (sound : d.Sound) (settled : d.Settled) (carried : d.Carried) : Presents d.kind d.fields where
  sorted := Writing.sorted_fieldsOf _
  written := ItemData.written_fields sound.conforms sound.known
  ends _ found t member _ := ((shown_field sound settled carried found).description rfl t member).2

/-- What is to be read of each field of an item that markup carries is read as that field. -/
theorem heard_field (read : d.Sound ∧ d.Settled) (carried : d.Carried) {options : ReadingOptions} :
    ∀ f ∈ d.fields, (heard f.1 f.2).bind (Normal.field? options (some d.kind) f.1) = some f.2 := by
  intro f member
  rcases ItemData.written_fields read.1.conforms read.1.known f member with ⟨shape, named, written⟩
  have there := Keyed.get?_of_mem (Writing.sorted_fieldsOf d.entries).nodup member
  have shown := shown_field read.1 read.2 carried there
  rw [heard_of_shown named written shown, Option.bind_some]
  exact field?_spelled options named written (read.2.fields f.1 f.2 there) shown.number

/-! ## Headers -/

variable {h : PackageHeader}

theorem get?_toFields (h : PackageHeader) (name : String) :
    h.toFields.get? name = (Keyed.get? h.entries name).join :=
  Writing.get?_fieldsOf h.nodup_names_entries name

/-- A header is written without its kind, and apart from that as it is written with it. -/
theorem mem_fullFields_of_mem_toFields {f : String × Json} (member : f ∈ h.toFields) : f ∈ h.fullFields := by
  have inEntries := Writing.mem_fieldsOf member
  have holds := Writing.holds_fieldsOf h.nodup_names_fullEntries
  exact Keyed.mem_of_get? (holds _ (List.mem_append_left _ inEntries))

theorem settled_toFields (settled : h.Settled) : Fields.Settled h.toFields := by
  intro name v found
  have member := mem_fullFields_of_mem_toFields (Keyed.mem_of_get? found)
  exact settled.fullFields name v (Keyed.get?_of_mem (Writing.sorted_fieldsOf h.fullEntries).nodup member)

theorem shown_headerField (settled : h.Settled) (carried : h.Carried) {name : String} {v : Json} {shape : Shape}
    (named : Kind.package.shapes.get? name = some shape) (written : shape.Written v)
    (there : h.toFields.get? name = some v) : Shown name v where
  title := by
    rintro rfl
    rw [get?_toFields] at there
    exact forall_languageTexts there carried.title
  description := by
    rintro rfl
    rw [get?_toFields] at there
    refine forall_languageTexts there fun t member => ?_
    exact (carried.description t member).shown (settled.description t member)
  text := by
    intro isText
    have oneOf : name = "icon" ∨ name = "revision" ∨ name = "modified" ∨ name = "creator" := by
      simpa [optionalTexts] using isText
    rcases oneOf with rfl | rfl | rfl | rfl
    · cases named
    · cases named
    · rw [get?_toFields] at there
      exact forall_text? there carried.modified
    · rw [get?_toFields] at there
      exact forall_text? there carried.creator
  list := by
    rintro rfl
    cases named
  value := by
    rintro rfl
    cases named
  properties := by
    rintro rfl
    cases named
  number := by
    rintro x rfl
    have noNumber : ∀ s ∈ Kind.package.shapes, s.2 ≠ .number := by decide
    cases written
    exact absurd rfl (noNumber _ (Keyed.mem_of_get? named))

theorem heard_headerField (read : h.Sound ∧ h.Settled) (carried : h.Carried) {options : ReadingOptions} :
    ∀ f ∈ h.toFields, (heard f.1 f.2).bind (Normal.field? options (some .package) f.1) = some f.2 := by
  intro f member
  rcases PackageHeader.written_fullFields read.1.conforms f (mem_fullFields_of_mem_toFields member) with
    ⟨shape, named, written⟩
  have there := Keyed.get?_of_mem (Writing.sorted_fieldsOf h.entries).nodup member
  have shown := shown_headerField read.2 carried named written there
  rw [heard_of_shown named written shown, Option.bind_some]
  exact field?_spelled options named written (settled_toFields read.2 f.1 f.2 there) shown.number

theorem presents_toFields (sound : h.Sound) (settled : h.Settled) (carried : h.Carried) :
    Presents .package h.toFields where
  sorted := Writing.sorted_fieldsOf _
  written f member := PackageHeader.written_fullFields sound.conforms f (mem_fullFields_of_mem_toFields member)
  ends v found t member _ := by
    rcases PackageHeader.written_fullFields sound.conforms _
      (mem_fullFields_of_mem_toFields (Keyed.mem_of_get? found)) with ⟨shape, named, written⟩
    exact ((shown_headerField settled carried named written found).description rfl t member).2

end Xml

end ProductGraph
