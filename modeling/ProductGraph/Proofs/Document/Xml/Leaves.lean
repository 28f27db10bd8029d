import ProductGraph.Proofs.Document.Xml.Legible
import ProductGraph.Proofs.Document.Xml.Reread

namespace ProductGraph

/-!
# The texts at the leaves of items

Titles, values of properties, revisions, creators and icons are texts at the leaves of an item.  Written as markup and
read back, each of them is what it was, in its place, unless it is taken for layout.
-/

open Markup (standing)
open Xml (Visible Ends)

/-- The texts at the leaves of an item, place by place. -/
structure Leaves where
  title : List String
  icon : Option String
  revision : Option String
  priorRevision : List String
  creator : Option String
  properties : List String
  value : Option String
  deriving DecidableEq

namespace Leaves

def valuesAt (v : Json) (name : String) : List String :=
  (((v.field? name).bind Json.items?).getD []).filterMap fun entry => entry.textField? "value"

/-- The texts at the leaves of an item in a document. -/
def ofJson (v : Json) : Leaves where
  title := valuesAt v "title"
  icon := v.textField? "icon"
  revision := v.textField? "revision"
  priorRevision := (((v.field? "priorRevision").bind Json.items?).getD []).filterMap Json.text?
  creator := v.textField? "creator"
  properties := valuesAt v "hasProperty"
  value := v.textField? "value"

/-- What markup keeps of texts at leaves: blank titles and values are empty, other texts that are blank or empty are
not there. -/
def inMarkup (l : Leaves) : Leaves where
  title := l.title.map standing
  icon := l.icon.filter fun s => Visible s
  revision := l.revision.filter fun s => Visible s
  priorRevision := l.priorRevision.filter fun s => Visible s
  creator := l.creator.filter fun s => Visible s
  properties := l.properties.map standing
  value := l.value.map standing

end Leaves

def ItemData.value? : ItemData → Option String
  | .property p => some p.value
  | _ => none

/-- The texts at the leaves of an item. -/
def ItemData.leaves (d : ItemData) : Leaves where
  title := ((d.identifiable.map (·.title)).getD []).map (·.value)
  icon := d.element.bind (·.icon)
  revision := d.individual.bind (·.revision)
  priorRevision := (d.individual.map (·.priorRevision)).getD []
  creator := d.individual.bind (·.creator)
  properties := d.properties.map (·.value)
  value := d.value?

theorem ItemData.get?_value (d : ItemData) : d.fields.get? "value" = Writing.text? d.value? := by
  rw [get?_fields]
  cases d <;> rfl

namespace Leaves

/-! ## Places of a value -/

variable {fields : Fields} {name : String}

theorem valuesAt_unlessEmpty {α : Type} {write : α → Json} {value : α → String}
    (each : ∀ a, (write a).textField? "value" = some (value a)) {list : List α}
    (found : fields.get? name = Writing.unlessEmpty write list) : valuesAt (.object fields) name = list.map value := by
  have items : valuesAt (.object fields) name = (list.map write).filterMap (·.textField? "value") := by
    rw [← Writing.items?_unlessEmpty, ← found]
    rfl
  rw [items, List.filterMap_map, ← List.filterMap_eq_map]
  exact List.filterMap_congr fun a _ => each a

theorem textField?_languageText (t : LanguageText) : (Writing.languageText t).textField? "value" = some t.value := by
  rw [Writing.languageText_eq]
  rcases t with ⟨value, _ | lang⟩ <;> rfl

theorem textField?_embeddedProperty (p : PropertyValue) :
    (Writing.embeddedProperty p).textField? "value" = some p.value := by
  rw [Writing.embeddedProperty_eq]
  rcases p with ⟨hasClass, value, _ | lang⟩ <;> rfl

theorem textField?_text {given : Option String} (found : fields.get? name = Writing.text? given) :
    (Json.object fields).textField? name = given := by
  have there : (Json.object fields).field? name = given.map Json.string := found
  rw [Json.textField?, there]
  cases given <;> rfl

theorem strings_eq (list : List String) : (list.map Json.string).filterMap Json.text? = list := by
  rw [List.filterMap_map]
  exact List.filterMap_some

/-- The places of an item that is written hold the texts at its leaves. -/
theorem ofJson_toJson (d : ItemData) : ofJson d.toJson = d.leaves := by
  have prior : (((Json.object d.fields).field? "priorRevision").bind Json.items?).getD [] =
      d.leaves.priorRevision.map .string := by
    have found : (Json.object d.fields).field? "priorRevision" = _ := d.get?_priorRevision
    rw [found, Writing.items?_unlessEmpty]
    rfl
  rw [d.toJson_eq, ofJson, prior, strings_eq, textField?_text d.get?_icon, textField?_text d.get?_revision,
    textField?_text d.get?_creator, textField?_text d.get?_value,
    valuesAt_unlessEmpty textField?_languageText d.get?_title,
    valuesAt_unlessEmpty textField?_embeddedProperty d.get?_hasProperty]
  rfl

/-! ## What comes back -/

/-- Where an item came back under each name, so did the texts at its leaves, as far as markup keeps them. -/
theorem ofJson_of_again {d : ItemData} {options : ReadingOptions} (sound : d.Sound)
    (found : ∀ name, fields.get? name = Xml.again options d name) : ofJson (.object fields) = d.leaves.inMarkup := by
  have title : valuesAt (.object fields) "title" = d.leaves.title.map standing := by
    have there := (found "title").trans (Xml.again_texts sound (by decide) (by decide) d.get?_title)
    rw [valuesAt_unlessEmpty textField?_languageText there, ItemData.leaves, List.map_map, List.map_map]
    refine List.map_congr_left fun t _ => ?_
    rw [Function.comp_apply, Xml.heardEntry, if_neg (by decide), Function.comp_apply]
  have texts : ∀ name, (name, Shape.text) ∈ ItemData.retold → Xml.optionalTexts.contains name = true →
      name ≠ "modified" → ∀ given, d.fields.get? name = Writing.text? given →
        (Json.object fields).textField? name = given.filter fun s => Visible s :=
    fun name member optional notTime given stated =>
      textField?_text ((found name).trans (Xml.again_text sound member optional notTime stated))
  have prior : (((Json.object fields).field? "priorRevision").bind Json.items?).getD [] =
      (d.leaves.priorRevision.filter fun s => Visible s).map .string := by
    have there : (Json.object fields).field? "priorRevision" = _ :=
      (found "priorRevision").trans (Xml.again_priorRevision sound)
    rw [there, d.get?_priorRevision, ItemData.leaves]
    cases (d.individual.map (·.priorRevision)).getD [] <;> rfl
  have properties : valuesAt (.object fields) "hasProperty" = d.leaves.properties.map standing := by
    have there := (found "hasProperty").trans (Xml.again_properties sound)
    rw [valuesAt_unlessEmpty textField?_embeddedProperty there, ItemData.leaves, List.map_map, List.map_map]
    rfl
  have value : (Json.object fields).textField? "value" = d.leaves.value.map standing := by
    apply textField?_text
    rw [found]
    cases d with
    | property p => exact Xml.again_value sound
    | _ => exact Xml.again_of_absent (ItemData.get?_value _)
  rw [ofJson, title, prior, strings_eq, properties, value,
    texts "icon" (by decide) (by decide) (by decide) _ d.get?_icon,
    texts "revision" (by decide) (by decide) (by decide) _ d.get?_revision,
    texts "creator" (by decide) (by decide) (by decide) _ d.get?_creator]
  rfl

end Leaves

/-! ## Items that come back -/

/-- An item of a document is what an item comes back as: it is of its kind, it has the texts at its leaves in their
places as far as markup keeps them, and it is read as the item that is to come back.  The bounds of a class of
properties have to be numbers that are read as they are printed. -/
structure ItemData.ComesBackAs (d : ItemData) (i : DocumentItem) : Prop where
  kind : i.kind = some d.kind
  leaves : Leaves.ofJson i.value = d.leaves.inMarkup
  data : (∀ x ∈ d.bounds, RealValue.ofText? (Text.trim x.json.toList) = some (.finite x)) →
    ItemData.ofJson d.kind i.value = .ok d.reread

namespace Xml

section Items

variable {d : ItemData} {options : ReadingOptions} {fields : Fields}

/-- The kind comes back that was declared. -/
theorem kind_of_again (sound : d.Sound) (found : ∀ name, fields.get? name = again options d name) :
    (DocumentItem.ofJson (.object fields)).kind = some d.kind := by
  have other : ∀ f ∈ ItemData.retold, f.1 ≠ "itemType" := by decide
  have declared : (Json.object fields).textField? "itemType" = some d.kind.tag := by
    have there : (Json.object fields).field? "itemType" = some (.string d.kind.tag) := by
      refine (found "itemType").trans ((again_of_not_mem sound other fun x isNumber => ?_).trans d.get?_itemType)
      rw [d.get?_itemType] at isNumber
      cases isNumber
    rw [Json.textField?, there]
    rfl
  rw [DocumentItem.ofJson, declared]
  exact Kind.ofTag?_tag d.kind

/-- Earlier revisions come back that are visible. -/
theorem priorRevision_of_again (sound : d.Sound) (found : ∀ name, fields.get? name = again options d name) :
    Reading.listField fields "priorRevision" Reading.text =
      .ok ((d.reread.individual.map (·.priorRevision)).getD []) := by
  have visible : (d.reread.individual.map (·.priorRevision)).getD [] =
      ((d.individual.map (·.priorRevision)).getD []).filter fun s => Visible s := by
    rw [d.individual_reread]
    cases d.individual <;> rfl
  have there := (found "priorRevision").trans (again_priorRevision sound)
  rw [d.get?_priorRevision] at there
  rw [visible, Reading.listField, Reading.field?, there]
  cases (d.individual.map (·.priorRevision)).getD [] with
  | nil => rfl
  | cons s rest => exact congrArg (Except.map (·.getD []) ∘ Except.map some) (Reading.list_map Reading.text_back _)

/-- Where an item came back under each name, it came back. -/
theorem comesBackAs_of_again (sound : d.Sound) (found : ∀ name, fields.get? name = again options d name) :
    d.ComesBackAs (.ofJson (.object fields)) where
  kind := kind_of_again sound found
  leaves := Leaves.ofJson_of_again sound found
  data bounds := by
    have prior : Reading.listField d.reread.fields "priorRevision" Reading.text = _ :=
      Reading.listField_unlessEmpty Reading.text_back d.reread.get?_priorRevision
    have same := Reading.ofJson_congr d.kind (fun name notPrior => (found name).trans (again_eq sound bounds notPrior))
      ((priorRevision_of_again sound found).trans prior.symm)
    have back := ItemData.ofJson_toJson (ItemData.countsKnown_reread sound.known)
    rw [d.kind_reread, d.reread.toJson_eq] at back
    exact same.trans back

end Items

/-! ## Documents -/

/-- A description that, if it is markup, does not step out of the element that it is tried in. -/
def Contained (s : String) : Prop := Markup.isMarkup s = true → ¬Markup.StepsOut s

/-- A contained description ends where its own element ends. -/
theorem Contained.ends {s : String} (contained : Contained s) : Ends s :=
  fun markup => (Markup.endsAt_iff (by decide) (by decide) markup).mpr (contained markup)

theorem presents_header {h : PackageHeader} (sound : h.Sound) (contained : ∀ t ∈ h.description, Contained t.value) :
    Presents .package h.toFields where
  sorted := Writing.sorted_fieldsOf _
  written f member := PackageHeader.written_fullFields sound.conforms f (mem_fullFields_of_mem_toFields member)
  ends v found := by
    rw [get?_toFields] at found
    exact forall_languageTexts found fun t member => (contained t member).ends

/-- A document of sound contents is written as tokens, and what is read of these has the contents in their order as they
come back. -/
theorem exists_comesBackAs {p : Package} (header : p.header.Sound) (contents : ∀ d ∈ p.contents, d.Sound)
    (nameable : ∀ n ∈ p.namespaces, Nameable n.1) (contained : ∀ t ∈ p.header.description, Contained t.value)
    (allContained : ∀ d ∈ p.contents, ∀ i ∈ d.identifiable, ∀ t ∈ i.description, Contained t.value) :
    ∃ tokens, documentTokens p.toDocument = .ok tokens ∧ ∀ options, ∃ document,
      read options (Markup.Token.write tokens) = .ok document ∧
      List.Forall₂ ItemData.ComesBackAs p.contents document.items := by
  rcases tells_children (presents_header header contained) (readsChildren_withChild .package) with
    ⟨before, readsBefore, childNames, _⟩
  have each : ∀ d ∈ p.contents, ∃ tokens e, itemTokens d.toJson = .ok tokens ∧
      Markup.ReadAs Vocabulary.isRichElement tokens [e] ∧ ∀ options, d.ComesBackAs (itemOfElement options e) := by
    intro d member
    rcases exists_again (contents d member) fun i has t inText => (allContained d member i has t inText).ends with
      ⟨tokens, e, written, reads, comesBack⟩
    refine ⟨tokens, e, written, reads, fun options => ?_⟩
    rcases comesBack options with ⟨fields, item, found⟩
    rw [item]
    exact comesBackAs_of_again (contents d member) found
  rcases exists_elements each with ⟨lists, elements, tokensOf, graph, related⟩
  rcases exists_read p.toDocument nameable tokensOf readsBefore graph with ⟨tokens, made, root⟩
  refine ⟨tokens, made, fun options => ⟨_, read_of_root options root rfl, ?_⟩⟩
  rw [documentOfElement_graph options p.toDocument childNames elements rfl rfl]
  exact List.forall₂_map_right_iff.mpr (related.imp fun _ _ comesBack => comesBack options)

end Xml

namespace Package

/-- Sound contents of a package come back from markup in their order, and each text at a leaf of one of them is in its
place.  A blank title or value comes back empty, and of the other texts those are lost that are blank or empty, since
markup takes them for layout.  The names of the namespaces must be such as can stand in the name of an attribute, and
no description may step out of its element. -/
theorem leaves_text_xml {p : Package} (header : p.header.Sound) (contents : ∀ d ∈ p.contents, d.Sound)
    (nameable : ∀ n ∈ p.namespaces, Xml.Nameable n.1)
    (contained : ∀ t ∈ p.header.description, Xml.Contained t.value)
    (allContained : ∀ d ∈ p.contents, ∀ i ∈ d.identifiable, ∀ t ∈ i.description, Xml.Contained t.value) :
    ∃ written, p.text .xml = .ok written ∧ ∀ options, ∃ document,
      Document.ofText .xml options written = .ok document ∧
      List.Forall₂ ItemData.ComesBackAs p.contents document.items := by
  rcases Xml.exists_comesBackAs header contents nameable contained allContained with ⟨tokens, made, reads⟩
  exact ⟨_, Outcome.map_eq_ok.mpr ⟨tokens, made, rfl⟩, reads⟩

/-- A drill with texts at its leaves that markup has means of its own for: blanks, marks and no text at all. -/
def drill : ItemData :=
  .entity ⟨⟨"ex:drill", none, [⟨" ", some "de"⟩, ⟨" </x> &amp; ", some "en"⟩], []⟩,
    ⟨some " 2 ", ["\n", "1", ""], some "2025-01-01T00:00:00Z", some "\t",
      [⟨"ex:serial", " 100 ", none⟩, ⟨"ex:serial", " ", none⟩]⟩, "ex:Tool", []⟩

/-- The numbers of tools, which are one at least. -/
def serial : ItemData :=
  .propertyClass ⟨⟨"ex:serial", none, [⟨"Serial", none⟩], []⟩, some "pig:Property", some "xs:integer", none, none, none,
    none, some ⟨false, Binary64.one⟩, none, none⟩

theorem sound_of_mem_tools {d : ItemData} (member : d ∈ [serial, drill]) : d.Sound := by
  have each : ∀ d ∈ [serial, drill], (∀ s ∈ d.names, Identifies s) ∧ d.CountsKnown ∧
      (Validation.item d).isOk = true := by decide +kernel
  rcases each d member with ⟨names, known, valid⟩
  exact ⟨ItemData.conforms_of_identifies known names, known, Outcome.isOk_iff.mp valid⟩

section Tools

variable {tools : List ItemData}

theorem soundContents_tools (within : tools ⊆ [serial, drill]) : ∀ d ∈ (toolPackage [] tools).contents, d.Sound := by
  rw [contents_toolPackage]
  exact fun d member => sound_of_mem_tools (within member)

theorem contained_tools (within : tools ⊆ [serial, drill]) : ∀ d ∈ (toolPackage [] tools).contents,
    ∀ i ∈ d.identifiable, ∀ t ∈ i.description, Xml.Contained t.value := by
  have undescribed : ∀ d ∈ [serial, drill], ∀ i ∈ d.identifiable, i.description = [] := by decide
  rw [contents_toolPackage]
  intro d member i has
  rw [undescribed d (within member) i has]
  exact List.forall_mem_nil _

end Tools

theorem sound_header_toolPackage (namespaces : Namespaces) (tools : List ItemData) :
    (toolPackage namespaces tools).header.Sound := by
  have named : ∀ s ∈ (toolPackage namespaces tools).header.id.toList, Identifies s := by
    have identifies : Identifies "ex:tools" := by decide +kernel
    exact fun s member => List.mem_singleton.mp member ▸ identifies
  exact ⟨PackageHeader.conforms_of_identifies named, rfl, rfl⟩

theorem leaves_text_xml_drill :
    (toolPackage [] [serial, drill]).header.Sound ∧ (∀ d ∈ (toolPackage [] [serial, drill]).contents, d.Sound) ∧
      ∃ written, (toolPackage [] [serial, drill]).text .xml = .ok written ∧ ∀ options, ∃ document i j,
        Document.ofText .xml options written = .ok document ∧ document.items = [i, j] ∧
        ItemData.ofJson .propertyClass i.value = .ok serial.reread ∧
        Leaves.ofJson j.value =
          ⟨["", " </x> &amp; "], none, some " 2 ", ["1"], none, [" 100 ", ""], none⟩ ∧
        ItemData.ofJson .entityInstance j.value = .ok drill.reread := by
  have header := sound_header_toolPackage [] [serial, drill]
  have contents := soundContents_tools (List.Subset.refl _)
  rcases leaves_text_xml header contents (List.forall_mem_nil _) (List.forall_mem_nil _)
    (contained_tools (List.Subset.refl _)) with ⟨written, text, reads⟩
  refine ⟨header, contents, written, text, fun options => ?_⟩
  rcases reads options with ⟨document, read, back⟩
  rw [contents_toolPackage] at back
  rcases List.forall₂_cons_left_iff.mp back with ⟨i, rest, ofSerial, back, items⟩
  rcases List.forall₂_cons_left_iff.mp back with ⟨j, others, ofDrill, left, rfl⟩
  cases List.forall₂_nil_left_iff.mp left
  have bounds : ∀ x ∈ serial.bounds, RealValue.ofText? (Text.trim x.json.toList) = some (.finite x) := by decide +kernel
  have kept : drill.leaves.inMarkup = ⟨["", " </x> &amp; "], none, some " 2 ", ["1"], none, [" 100 ", ""], none⟩ := by
    decide +kernel
  exact ⟨document, i, j, read, items, ofSerial.data bounds, ofDrill.leaves.trans kept,
    ofDrill.data (List.forall_mem_nil _)⟩

/-- A blank text at a leaf does not survive markup: the drill comes back without its creator, and its blank title and
value are empty. -/
theorem exists_leaves_text_xml_ne :
    (toolPackage [] [drill]).header.Sound ∧ drill.Sound ∧ drill.leaves.creator = some "\t" ∧
      drill.leaves.properties = [" 100 ", " "] ∧
      ∃ written, (toolPackage [] [drill]).text .xml = .ok written ∧ ∀ options, ∃ document i,
        Document.ofText .xml options written = .ok document ∧ document.items = [i] ∧
        (Leaves.ofJson i.value).creator = none ∧ (Leaves.ofJson i.value).properties = [" 100 ", ""] := by
  have header := sound_header_toolPackage [] [drill]
  have within : [drill] ⊆ [serial, drill] := List.subset_cons_self serial [drill]
  refine ⟨header, sound_of_mem_tools (within List.mem_cons_self), rfl, rfl, ?_⟩
  rcases Xml.exists_comesBackAs header (soundContents_tools within) (List.forall_mem_nil _) (List.forall_mem_nil _)
    (contained_tools within) with ⟨tokens, made, reads⟩
  refine ⟨_, Outcome.map_eq_ok.mpr ⟨tokens, made, rfl⟩, fun options => ?_⟩
  rcases reads options with ⟨document, read, back⟩
  rw [contents_toolPackage] at back
  rcases List.forall₂_cons_left_iff.mp back with ⟨i, rest, comesBack, left, items⟩
  cases List.forall₂_nil_left_iff.mp left
  have creator : drill.leaves.inMarkup.creator = none := by decide +kernel
  have properties : drill.leaves.inMarkup.properties = [" 100 ", ""] := by decide +kernel
  refine ⟨document, i, read, items, ?_, ?_⟩
  · rw [comesBack.leaves, creator]
  · rw [comesBack.leaves, properties]

end Package
end ProductGraph
