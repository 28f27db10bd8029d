import ProductGraph.Proofs.Document.Normal
import ProductGraph.Proofs.Document.Reading
import ProductGraph.Proofs.Markup.Fragment
import ProductGraph.Proofs.Package.Sound
import ProductGraph.Proofs.Time.Timestamp

namespace ProductGraph

/-!
# What reading a document settles

Whatever a document says, in either format, its rich texts are markup and its points in time are canonical once it
has been read.  Contents and headers that come from documents keep this, so reading them a second time changes
neither.
-/

open Outcome (bind_eq_ok map_eq_ok)

/-- Fields that reading them again would leave alone. -/
def Fields.Settled (fields : Fields) : Prop := ∀ name v, fields.get? name = some v → Normal.Settled name v

/-! ## Fields in normal form -/

namespace Normal

theorem onText_onText {change : String → String} (idempotent : ∀ s, change (change s) = change s) (v : Json) :
    onText change (onText change v) = onText change v := by
  cases v with
  | string s => exact congrArg Json.string (idempotent s)
  | _ => rfl

theorem onTexts_onTexts {change : String → String} (idempotent : ∀ s, change (change s) = change s) (v : Json) :
    onTexts change (onTexts change v) = onTexts change v := by
  cases v with
  | array list =>
      simp only [onTexts, List.map_map]
      exact congrArg Json.array (List.map_congr_left fun v _ => onText_onText idempotent v)
  | string s => exact congrArg Json.string (idempotent s)
  | _ => rfl

variable {options : ReadingOptions} {kind : Option Kind}

theorem modified_of_field? {given v : Json} (made : field? options kind "modified" given = some v) :
    onTexts Time.canonical v = v := by
  have unwrapped : plainField options kind "modified" (unwrapping.run given) =
      onTexts Time.canonical (plain (unwrapping.run given)) := rfl
  rcases field?_eq_some made with ⟨_, ⟨isText, _⟩ | ⟨_, _, is⟩⟩
  · exact nomatch isText
  · rw [is, unwrapped]
    exact onTexts_onTexts Time.canonical_canonical _

theorem rich_of_field? {name : String} {given v : Json} (rich : Vocabulary.richFields.contains name = true)
    (made : field? options kind name given = some v) :
    ∃ list : List LanguageText, v = .array (list.map Writing.languageText) ∧
      ∀ t ∈ list, Markup.asMarkup t.value = t.value := by
  have only : name = "description" := by
    simpa [Vocabulary.richFields] using rich
  subst only
  rcases field?_eq_some made with ⟨_, ⟨_, _, is⟩ | ⟨notText, _⟩⟩
  · refine ⟨(languageTexts given).map fun t => { t with value := Markup.asMarkup t.value }, ?_, ?_⟩
    · rw [is, List.map_map]
      rfl
    · intro t member
      rcases List.mem_map.mp member with ⟨u, _, rfl⟩
      exact Markup.asMarkup_asMarkup u.value
  · exact nomatch notText

/-- Fields in normal form are settled. -/
theorem settled_fields (given : Fields) : Fields.Settled (fields options kind given) := by
  intro name v found
  rcases List.mem_filterMap.mp (Keyed.mem_of_get? found) with ⟨f, _, made⟩
  rcases Option.map_eq_some_iff.mp made with ⟨w, made, same⟩
  cases same
  constructor
  · intro isTime
    rw [isTime] at made
    exact modified_of_field? made
  · intro isRich
    exact rich_of_field? isRich made

end Normal

theorem Fields.Settled.withKind {fields : Fields} (settled : fields.Settled) (kind : Kind) :
    Fields.Settled (Item.withKind kind fields) := by
  rw [Item.withKind]
  split
  · exact settled
  · intro name v found
    rw [Keyed.get?_insert] at found
    by_cases same : "itemType" = name
    · subst same
      exact ⟨fun modified => absurd modified (by decide), fun rich => absurd rich (by decide)⟩
    · rw [if_neg same] at found
      exact settled name v found

/-! ## Documents -/

namespace Document

/-- A document whose header and items are fields in normal form. -/
structure InNormalForm (options : ReadingOptions) (document : Document) : Prop where
  header : ∃ given, document.header = Normal.fields options (some .package) given
  items : ∀ item ∈ document.items, ∀ fields, item.value = .object fields →
    ∃ kind given, fields = Normal.fields options kind given

theorem normal_jsonLd_item {options : ReadingOptions} {value : Json} {fields : Fields}
    (is : (JsonLd.item options value).value = .object fields) :
    ∃ kind given, fields = Normal.fields options kind given := by
  rw [JsonLd.item] at is
  split at is
  · cases is
    exact ⟨_, _, rfl⟩
  · rename_i other
    exact absurd is (other fields)

theorem normal_jsonLd_header (options : ReadingOptions) (fields : Fields) :
    ∃ given, JsonLd.header options fields = Normal.fields options (some .package) given := by
  rw [JsonLd.header]
  split
  · exact ⟨_, rfl⟩
  · exact ⟨[], rfl⟩

theorem inNormalForm_jsonLd {options : ReadingOptions} {text : String} {document : Document}
    (read : JsonLd.read options text = .ok document) : document.InNormalForm options := by
  rcases JsonLd.read_eq_ok.mp read with ⟨_, list, _, _, rfl⟩
  constructor
  · exact normal_jsonLd_header options _
  · intro item member fields is
    rcases List.mem_map.mp member with ⟨value, _, rfl⟩
    exact normal_jsonLd_item is

theorem inNormalForm_xml {options : ReadingOptions} {text : String} {document : Document}
    (read : Xml.read options text = .ok document) : document.InNormalForm options := by
  rcases Xml.read_eq_ok.mp read with ⟨e, _, _, rfl⟩
  constructor
  · exact ⟨_, rfl⟩
  · intro item member fields is
    rcases List.mem_flatMap.mp member with ⟨graph, _, member⟩
    rcases List.mem_map.mp member with ⟨child, _, rfl⟩
    cases is
    exact ⟨_, _, rfl⟩

/-- What was read is in normal form, whatever the format. -/
theorem inNormalForm_of_ofText {format : Format} {options : ReadingOptions} {text : String} {document : Document}
    (read : ofText format options text = .ok document) : document.InNormalForm options := by
  cases format with
  | jsonLd => exact inNormalForm_jsonLd read
  | xml => exact inNormalForm_xml read

/-- A document whose fields are settled. -/
structure Settled (document : Document) : Prop where
  header : document.header.Settled
  items : ∀ item ∈ document.items, ∀ fields, item.value = .object fields → Fields.Settled fields

theorem InNormalForm.settled {options : ReadingOptions} {document : Document}
    (normal : document.InNormalForm options) : document.Settled := by
  constructor
  · rcases normal.header with ⟨given, is⟩
    exact is ▸ Normal.settled_fields given
  · intro item member fields is
    rcases normal.items item member fields is with ⟨kind, given, rfl⟩
    exact Normal.settled_fields given

end Document

/-! ## Contents and headers -/

namespace Reading

/-- What is read of a rich text in normal form is markup. -/
theorem asMarkup_of_listField {fields : Fields} {name : String} {route : Route} {list : List LanguageText}
    (settled : fields.Settled) (rich : Vocabulary.richFields.contains name = true)
    (given : listField fields name (languageText route) = .ok list) :
    ∀ t ∈ list, Markup.asMarkup t.value = t.value := by
  by_cases empty : list = []
  · rw [empty]
    exact fun _ => nofun
  · rcases exists_of_listField given empty with ⟨items, there, each⟩
    rcases (settled name _ there).rich rich with ⟨entries, items_eq, markup⟩
    cases items_eq
    have same : list = entries := by
      have back : (entries.map Writing.languageText).mapM (languageText route) = .ok entries :=
        list_map (languageText_back route) entries
      rw [Outcome.mapM_eq_ok.mpr each] at back
      cases back
      rfl
    exact same ▸ markup

/-- What is read of a point in time in normal form is canonical. -/
theorem canonical_of_optional {fields : Fields} {time : Option String} (settled : fields.Settled)
    (given : optional fields "modified" text = .ok time) : ∀ s ∈ time, Time.canonical s = s := by
  intro s member
  rcases exists_of_optional given s member with ⟨v, there, read⟩
  have same := (settled _ _ there).modified rfl
  rw [eq_of_text read] at same
  exact Json.string.inj same

end Reading

namespace ItemData

/-- The rich texts of a content are markup and its point in time is canonical. -/
structure Settled (d : ItemData) : Prop where
  description : ∀ i, d.identifiable = some i → ∀ t ∈ i.description, Markup.asMarkup t.value = t.value
  modified : ∀ i, d.individual = some i → ∀ s ∈ i.modified, Time.canonical s = s

/-- A content that was read from settled fields is settled. -/
theorem settled_of_ofJson {kind : Kind} {fields : Fields} {d : ItemData} (settled : fields.Settled)
    (given : ofJson kind (.object fields) = .ok d) : d.Settled := by
  rcases parts_of_ofJson given with ⟨shared, own⟩
  constructor
  · intro i has
    rcases bind_eq_ok.mp (shared i has) with ⟨description, read, rest⟩
    rcases bind_eq_ok.mp rest with ⟨_, _, rest⟩
    rcases bind_eq_ok.mp rest with ⟨_, _, rest⟩
    rcases bind_eq_ok.mp rest with ⟨_, _, rest⟩
    rcases bind_eq_ok.mp rest with ⟨_, _, rest⟩
    cases rest
    exact Reading.asMarkup_of_listField settled rfl read
  · intro i has
    rcases bind_eq_ok.mp (own i has) with ⟨_, _, rest⟩
    rcases bind_eq_ok.mp rest with ⟨_, _, rest⟩
    rcases bind_eq_ok.mp rest with ⟨_, time, rest⟩
    rcases bind_eq_ok.mp rest with ⟨_, _, rest⟩
    rcases bind_eq_ok.mp rest with ⟨_, _, rest⟩
    cases rest
    exact Reading.canonical_of_optional settled time

end ItemData

/-- What is written of a rich text that is markup, and of a canonical point in time, is settled. -/
theorem Fields.settled_of_get? {fields : Fields} {description : List LanguageText} {time : Option String}
    (text : fields.get? "description" = Writing.unlessEmpty Writing.languageText description)
    (modified : fields.get? "modified" = Writing.text? time)
    (markup : ∀ t ∈ description, Markup.asMarkup t.value = t.value) (canonical : ∀ s ∈ time, Time.canonical s = s) :
    fields.Settled := by
  intro name v found
  constructor
  · rintro rfl
    rw [modified] at found
    rcases Option.map_eq_some_iff.mp found with ⟨s, there, rfl⟩
    exact congrArg Json.string (canonical s there)
  · intro rich
    have only : name = "description" := by
      simpa [Vocabulary.richFields] using rich
    rw [only, text, Writing.unlessEmpty] at found
    split at found
    · cases found
    · cases found
      exact ⟨description, rfl, markup⟩

namespace ItemData

/-- The fields that a settled content is written as are settled. -/
theorem Settled.fields {d : ItemData} (settled : d.Settled) : Fields.Settled d.fields := by
  refine Fields.settled_of_get? d.get?_description d.get?_modified ?_ ?_
  · cases has : d.identifiable with
    | none => exact fun _ => nofun
    | some i => exact settled.description i has
  · cases has : d.individual with
    | none => exact fun _ => nofun
    | some i => exact settled.modified i has

end ItemData

namespace PackageHeader

/-- The rich texts of a header are markup and its point in time is canonical. -/
structure Settled (h : PackageHeader) : Prop where
  description : ∀ t ∈ h.description, Markup.asMarkup t.value = t.value
  modified : ∀ s ∈ h.modified, Time.canonical s = s

theorem settled_of_ofJson {fields : Fields} {h : PackageHeader} (settled : fields.Settled)
    (given : ofJson (.object fields) = .ok h) : h.Settled := by
  rcases bind_eq_ok.mp given with ⟨_, _, given⟩
  rcases bind_eq_ok.mp given with ⟨_, text, given⟩
  rcases bind_eq_ok.mp given with ⟨_, _, given⟩
  rcases bind_eq_ok.mp given with ⟨_, time, given⟩
  rcases bind_eq_ok.mp given with ⟨_, _, given⟩
  cases given
  exact ⟨Reading.asMarkup_of_listField settled rfl text, Reading.canonical_of_optional settled time⟩

theorem Settled.fullFields {h : PackageHeader} (settled : h.Settled) : Fields.Settled h.fullFields := by
  have text : h.fullFields.get? "description" = Writing.unlessEmpty Writing.languageText h.description := by
    rw [PackageHeader.fullFields, Writing.get?_fieldsOf h.nodup_names_fullEntries]
    rfl
  have time : h.fullFields.get? "modified" = Writing.text? h.modified := by
    rw [PackageHeader.fullFields, Writing.get?_fieldsOf h.nodup_names_fullEntries]
    rfl
  exact Fields.settled_of_get? text time settled.description settled.modified

end PackageHeader

/-! ## Packages -/

namespace Package

/-- A package whose contents and header are sound and settled, as those that documents become. -/
structure Read (p : Package) : Prop where
  header : p.header.Sound ∧ p.header.Settled
  contents : ∀ d ∈ p.contents, d.Sound ∧ d.Settled

theorem settled_of_headerOf {schemas : Validator} {fields : Fields} {h : PackageHeader} (settled : fields.Settled)
    (made : headerOf schemas fields = .ok h) : h.Settled :=
  PackageHeader.settled_of_ofJson (settled.withKind .package) (headerOf_eq_ok.mp made).2.1

/-- What a text becomes is sound and settled. -/
theorem read_of_ofText {schemas : Validator} (standard : schemas.Standard) {checks : CheckSet}
    {options : ReadingOptions} {format : Format} {text : String} {p : Package} {report : ImportReport}
    (made : Package.ofText schemas checks options format text = .ok (p, report)) : p.Read := by
  rcases bind_eq_ok.mp made with ⟨document, read, made⟩
  have settled := (Document.inNormalForm_of_ofText (Outcome.mapError_eq_ok.mp read)).settled
  have headed := (ofDocument_eq_ok.mp made).1
  constructor
  · exact ⟨sound_of_headerOf standard headed, settled_of_headerOf settled.header headed⟩
  · intro d member
    rcases exists_source_of_ofDocument made member with ⟨source, inItems, kind, fields, _, value, accepted⟩
    have own := settled.items source inItems fields value
    exact ⟨(ItemData.sound_of_accepts standard accepted).2,
      ItemData.settled_of_ofJson (own.withKind kind) accepted.reads⟩

theorem contents_carPackage : carPackage.contents = carContents := contents_restored _ _ _

theorem read_carPackage : carPackage.Read := by
  have settled : ∀ d ∈ carContents,
      (∀ i ∈ d.identifiable, ∀ t ∈ i.description, Markup.asMarkup t.value = t.value) ∧
        ∀ i ∈ d.individual, ∀ s ∈ i.modified, Time.canonical s = s := by decide +kernel
  refine ⟨⟨sound_carPackage.1, nofun, nofun⟩, ?_⟩
  rw [contents_carPackage]
  exact fun d member => ⟨sound_carPackage.2 d member, (settled d member).1, (settled d member).2⟩

end Package
end ProductGraph
