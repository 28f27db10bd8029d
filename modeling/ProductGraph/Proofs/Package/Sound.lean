import ProductGraph.Proofs.Item.Written
import ProductGraph.Proofs.Package.Built

namespace ProductGraph

open Outcome

/-!
# Contents that a document brings back

A content that was accepted once is accepted again from the value that it is written as, and a header likewise.  So a
document that holds what the contents of a package are written as becomes a package with these contents again: none
is refused, none changes, and they keep their order.
-/

/-- Schemas that accept exactly what conforms to the kinds, as those of the library do. -/
def Validator.Standard (schemas : Validator) : Prop := ∀ kind v, schemas kind v = none ↔ kind.Conforms v

theorem Schemas.library_standard : Validator.Standard library.validator := library_validator_eq_none_iff

variable {schemas : Validator}

namespace ItemData

/-- A content that is written as what conforms, with counts that are known, and that obeys the rules for single
items. -/
structure Sound (d : ItemData) : Prop where
  conforms : d.kind.Conforms d.toJson
  known : d.CountsKnown
  valid : Validation.item d = .ok ()

/-- What was accepted is sound. -/
theorem sound_of_accepts (standard : Validator.Standard schemas) {kind : Kind} {fields : Fields} {d : ItemData}
    (accepted : Item.Accepts schemas kind fields d) : d.kind = kind ∧ d.Sound := by
  have conforms := (standard kind _).mp accepted.conforms
  have kept := keepsAll_of_ofJson accepted.reads
  exact ⟨kept.1, conforms_toJson conforms accepted.reads, kept.2.2, accepted.valid⟩

theorem get?_itemType (d : ItemData) : d.fields.get? "itemType" = some (.string d.kind.tag) :=
  d.holds_entries _ (List.mem_append_right _ List.mem_cons_self)

/-- What is sound is accepted from the value that it is written as. -/
theorem Sound.accepts (standard : Validator.Standard schemas) {d : ItemData} (sound : d.Sound) :
    Item.Accepts schemas d.kind d.fields d where
  conforms := (standard d.kind _).mpr sound.conforms
  reads := ofJson_toJson sound.known
  valid := sound.valid

/-- The bounds on values that an item states. -/
def bounds : ItemData → List Binary64
  | propertyClass p => p.minInclusive.toList ++ p.maxInclusive.toList
  | _ => []

/-- The only real numbers that are written are bounds. -/
theorem mem_bounds_of_mem_fields {d : ItemData} (sound : d.Sound) {name : String} {x : Binary64}
    (member : (name, Json.number (.real x)) ∈ d.fields) : x ∈ d.bounds := by
  have only : ∀ kind ∈ Kind.all, ∀ s ∈ kind.shapes, s.2 = .number →
      kind = .propertyClass ∧ (s.1 = "minInclusive" ∨ s.1 = "maxInclusive") := by decide
  have kinds : d.kind ∈ Kind.all := by cases d.kind <;> decide
  have there := Keyed.get?_of_mem (Writing.sorted_fieldsOf d.entries).nodup member
  rcases written_fields sound.conforms sound.known _ member with ⟨shape, named, written⟩
  have isNumber : shape = .number := by
    generalize value : Json.number (.real x) = v at written
    cases written with
    | number => rfl
    | _ => cases value
  rcases only d.kind kinds _ (Keyed.mem_of_get? named) isNumber with ⟨isProperty, name_eq⟩
  cases d with
  | propertyClass p =>
      change Keyed.get? (ItemData.fields (.propertyClass p)) name = _ at there
      rw [get?_fields] at there
      rcases name_eq with rfl | rfl
      · have writtenReal : Writing.real? p.minInclusive = some (.number (.real x)) := there
        rcases Option.map_eq_some_iff.mp writtenReal with ⟨y, stated, same⟩
        cases same
        exact List.mem_append_left _ (Option.mem_toList.mpr stated)
      · have writtenReal : Writing.real? p.maxInclusive = some (.number (.real x)) := there
        rcases Option.map_eq_some_iff.mp writtenReal with ⟨y, stated, same⟩
        cases same
        exact List.mem_append_right _ (Option.mem_toList.mpr stated)
  | _ => cases isProperty

/-- The item that a content makes of an item without a past. -/
def restored (d : ItemData) : Item := (Item.empty d.kind).withContent d

theorem Sound.set_toJson (standard : Validator.Standard schemas) {d : ItemData} (sound : d.Sound) :
    (Item.empty d.kind).set schemas d.toJson = (d.restored, .accepted) := by
  have ownKind : Item.foreignKind? d.kind d.fields = none := by
    rw [Item.foreignKind?, d.get?_itemType]
    exact if_pos rfl
  have full : Item.withKind d.kind d.fields = d.fields := by
    rw [Item.withKind, Keyed.has, d.get?_itemType, Option.isSome_some, if_pos rfl]
  have content : (Item.empty d.kind).contentOf schemas d.fields = .ok d :=
    Item.contentOf_empty (full.symm ▸ sound.accepts standard)
  have ownKind' : Item.foreignKind? (Item.empty d.kind).kind d.fields = none := ownKind
  rw [toJson_eq]
  simp only [Item.set, ownKind', content]
  rfl

theorem kind_ofJson_toJson (d : ItemData) : (DocumentItem.ofJson d.toJson).kind = some d.kind := by
  have declared : d.toJson.textField? "itemType" = some d.kind.tag := by
    have found : d.toJson.field? "itemType" = some (.string d.kind.tag) := d.get?_itemType
    rw [Json.textField?, found]
    rfl
  rw [DocumentItem.ofJson, declared]
  exact Kind.ofTag?_tag d.kind

end ItemData

namespace PackageHeader

/-- A header that is written as what conforms and whose texts obey the rules for texts. -/
structure Sound (h : PackageHeader) : Prop where
  conforms : Kind.package.Conforms (.object h.fullFields)
  title : Validation.text "title" h.title = .ok ()
  description : Validation.text "description" h.description = .ok ()

theorem withKind_fullFields (h : PackageHeader) : Item.withKind .package h.fullFields = h.fullFields := by
  have tag : h.fullFields.get? "itemType" = some (.string Kind.package.tag) :=
    Writing.holds_fieldsOf h.nodup_names_fullEntries _ (List.mem_append_right _ List.mem_cons_self)
  rw [Item.withKind, Keyed.has, tag, Option.isSome_some, if_pos rfl]

end PackageHeader

namespace Package

/-- Fields give a header exactly if, with their kind, the schemas accept them and they can be read, and the texts of
what was read obey the rules for texts. -/
theorem headerOf_eq_ok {fields : Fields} {h : PackageHeader} :
    headerOf schemas fields = .ok h ↔
      schemas .package (.object (Item.withKind .package fields)) = none ∧
        PackageHeader.ofJson (.object (Item.withKind .package fields)) = .ok h ∧
          Validation.text "title" h.title = .ok () ∧ Validation.text "description" h.description = .ok () := by
  rw [headerOf]
  cases schemas .package (.object (Item.withKind .package fields)) with
  | some diagnostics => exact ⟨nofun, fun made => nomatch made.1⟩
  | none =>
      cases PackageHeader.ofJson (.object (Item.withKind .package fields)) with
      | error reason => exact ⟨nofun, fun made => nomatch made.2.1⟩
      | ok header =>
          constructor
          · intro made
            rcases unit_bind_eq_ok.mp made with ⟨title, made⟩
            rcases unit_bind_eq_ok.mp made with ⟨description, made⟩
            cases made
            exact ⟨rfl, rfl, title, description⟩
          · rintro ⟨-, read, title, description⟩
            cases read
            exact unit_bind_eq_ok.mpr ⟨title, unit_bind_eq_ok.mpr ⟨description, rfl⟩⟩

/-- The header that a document gave is sound. -/
theorem sound_of_headerOf (standard : Validator.Standard schemas) {fields : Fields} {h : PackageHeader}
    (made : headerOf schemas fields = .ok h) : h.Sound := by
  rcases headerOf_eq_ok.mp made with ⟨conforms, read, title, description⟩
  exact ⟨PackageHeader.conforms_fullFields ((standard _ _).mp conforms) read, title, description⟩

/-- A sound header is given again by what it is written as. -/
theorem headerOf_fullFields (standard : Validator.Standard schemas) {h : PackageHeader} (sound : h.Sound) :
    headerOf schemas h.fullFields = .ok h := by
  have holds := Writing.holds_fieldsOf h.nodup_names_fullEntries
  have conforms : schemas .package (.object h.fullFields) = none :=
    (standard _ _).mpr sound.conforms
  have read : PackageHeader.ofJson (.object h.fullFields) = .ok h :=
    PackageHeader.ofJson_of_holds holds.append_left
  rw [headerOf_eq_ok, h.withKind_fullFields]
  exact ⟨conforms, read, sound.title, sound.description⟩

/-- The kind of packages need not be written: it is filled in. -/
theorem headerOf_toFields (standard : Validator.Standard schemas) {h : PackageHeader} (sound : h.Sound) :
    headerOf schemas h.toFields = .ok h := by
  rw [← headerOf_fullFields standard sound, headerOf, headerOf, h.withKind_toFields, h.withKind_fullFields]

/-- Sound contents become items again, one by one. -/
theorem instantiateFrom_sound (standard : Validator.Standard schemas) {contents : List ItemData}
    (sound : ∀ d ∈ contents, d.Sound) (index : Nat) :
    instantiateFrom schemas index (contents.map fun d => .ofJson d.toJson) =
      .ok (contents.map ItemData.restored, []) := by
  induction contents generalizing index with
  | nil => rfl
  | cons d rest ih =>
      have here : instantiate schemas (.ofJson d.toJson) = .ok (some d.restored, none) := by
        have value : (DocumentItem.ofJson d.toJson).value = d.toJson := rfl
        simp only [instantiate, d.kind_ofJson_toJson, value, (sound d List.mem_cons_self).set_toJson standard]
      have behind := ih (fun e member => sound e (List.mem_cons_of_mem _ member)) (index + 1)
      rw [List.map_cons, instantiateFrom]
      exact bind_eq_ok.mpr ⟨_, here, bind_eq_ok.mpr ⟨_, behind, rfl⟩⟩

/-- A document with a header that is accepted, and with what sound contents are written as, becomes a package with
them. -/
theorem ofDocument_of_headerOf (standard : Validator.Standard schemas) {fields : Fields} {header : PackageHeader}
    (headed : headerOf schemas fields = .ok header) {contents : List ItemData} (sound : ∀ d ∈ contents, d.Sound)
    (namespaces : Namespaces) (checks : CheckSet) (lang : String) :
    Package.ofDocument schemas checks lang ⟨namespaces, fields, contents.map fun d => .ofJson d.toJson⟩ =
      .ok (⟨header, namespaces, contents.map ItemData.restored⟩,
        ⟨contents.length, [], (⟨header, namespaces, contents.map ItemData.restored⟩ : Package).check checks lang⟩) :=
  ofDocument_eq_ok.mpr ⟨headed, rfl, instantiateFrom_sound standard sound 0, (List.length_map _).symm, rfl⟩

/-- A document that holds what sound contents and a sound header are written as becomes a package with them. -/
theorem ofDocument_sound (standard : Validator.Standard schemas) {header : PackageHeader} (headerSound : header.Sound)
    {contents : List ItemData}
    (sound : ∀ d ∈ contents, d.Sound) (namespaces : Namespaces) (checks : CheckSet) (lang : String) :
    Package.ofDocument schemas checks lang
        ⟨namespaces, header.fullFields, contents.map fun d => .ofJson d.toJson⟩ =
      .ok (⟨header, namespaces, contents.map ItemData.restored⟩,
        ⟨contents.length, [], (⟨header, namespaces, contents.map ItemData.restored⟩ : Package).check checks lang⟩) :=
  ofDocument_of_headerOf standard (headerOf_fullFields standard headerSound) sound namespaces checks lang

theorem contents_restored (header : PackageHeader) (namespaces : Namespaces) (contents : List ItemData) :
    (⟨header, namespaces, contents.map ItemData.restored⟩ : Package).contents = contents := by
  rw [Package.contents, List.filterMap_map]
  exact List.filterMap_some

/-! ## A small package -/

/-- A car with a wheel, and the classes of both.  A quantity is one at least. -/
def carContents : List ItemData :=
  [.propertyClass ⟨⟨"ex:quantity", none, [⟨"Quantity", none⟩], []⟩, some "pig:Property", some "xs:integer", none,
      some 1, none, none, some ⟨false, Binary64.one⟩, none, none⟩,
    .propertyClass ⟨⟨"ex:weight", some "ex:quantity", [⟨"Weight", none⟩], []⟩, none, none, none, none, none, none, none,
      none, none⟩,
    .propertyClass ⟨⟨"ex:colour", none, [⟨"Colour", some "en"⟩, ⟨"Farbe", some "de"⟩], []⟩, some "pig:Property",
      some "xs:string", none, none, some 20, none, none, none, none⟩,
    .linkClass ⟨⟨"ex:part", none, [⟨"Part", none⟩], []⟩, some "pig:Link", some ["ex:Thing"]⟩,
    .entityClass ⟨⟨"ex:Thing", none, [⟨"Thing", none⟩], []⟩, ⟨none, none⟩, some "pig:Entity", none⟩,
    .entityClass ⟨⟨"ex:Car", some "ex:Thing", [⟨"Car", none⟩], [⟨"A thing that <b>drives</b>", none⟩]⟩,
      ⟨some ["ex:weight", "ex:colour"], none⟩, none, some ["ex:part"]⟩,
    .entity ⟨⟨"ex:wheel", none, [], []⟩, ⟨none, [], some "2025-01-01T00:00:00Z", none, []⟩, "ex:Thing", []⟩,
    .entity ⟨⟨"ex:car", none, [⟨"My car", none⟩], []⟩,
      ⟨some "2", ["1"], some "2025-01-01T00:00:00Z", some "Ada",
        [⟨"ex:weight", "1200", none⟩, ⟨"ex:colour", "red", some "en"⟩]⟩, "ex:Car", [⟨"ex:part", "ex:wheel"⟩]⟩]

def carPackage : Package :=
  ⟨⟨some "ex:garage", [⟨"Garage", none⟩], [], none, none⟩, [("ex", "http://example.org/")],
    carContents.map ItemData.restored⟩

theorem sound_carPackage : carPackage.header.Sound ∧ ∀ d ∈ carContents, d.Sound := by
  have named : ∀ s ∈ carPackage.header.id.toList, Identifies s := by decide +kernel
  have sound : ∀ d ∈ carContents,
      (∀ s ∈ d.names, Identifies s) ∧ d.CountsKnown ∧ (Validation.item d).isOk = true := by decide +kernel
  refine ⟨⟨PackageHeader.conforms_of_identifies named, rfl, rfl⟩, fun d member => ?_⟩
  rcases sound d member with ⟨names, known, valid⟩
  exact ⟨ItemData.conforms_of_identifies known names, known, isOk_iff.mp valid⟩

theorem built_carPackage : carPackage.Built Schemas.library.validator :=
  .ofDocument (ofDocument_sound Schemas.library_standard sound_carPackage.1 sound_carPackage.2 _ .all "en")

end Package
end ProductGraph
