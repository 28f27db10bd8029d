import ProductGraph.Proofs.Document.Xml.RoundTrip

namespace ProductGraph

/-!
# Items as they come back

Markup that an item is written as is read as an item again, whatever texts it holds.  Text that is nothing but blanks is
layout: a title or a value that is blank comes back empty, and any other text that is blank or empty is not there any
more.  Every text with a visible character comes back as it was, whatever marks it holds.

Nothing else of an item is lost.  Its descriptions come back as they are written, which is with special characters by
reference if they are no markup, and its point in time in canonical form.  Only a description that does not end where
the tag behind it begins is left out here, because what follows it is not read as it was written.
-/

open Markup (standing)
open Xml (Visible richText)

/-! ## Items as they are read back -/

/-- What identified items come back with: titles without layout and descriptions as they are written. -/
def Identifiable.reread (i : Identifiable) : Identifiable :=
  { i with
    title := i.title.map fun t => { t with value := standing t.value }
    description := i.description.map fun t => { t with value := richText t.value } }

/-- What classes of nodes and edges come back with. -/
def ElementClass.reread (e : ElementClass) : ElementClass := { e with icon := e.icon.filter fun s => Visible s }

def PropertyValue.reread (p : PropertyValue) : PropertyValue := { p with value := standing p.value }

def Individual.reread (i : Individual) : Individual where
  revision := i.revision.filter fun s => Visible s
  priorRevision := i.priorRevision.filter fun s => Visible s
  modified := i.modified.map Time.canonical
  creator := i.creator.filter fun s => Visible s
  hasProperty := i.hasProperty.map PropertyValue.reread

namespace ItemData

/-- The item that comes back where an item is written as markup. -/
def reread : ItemData → ItemData
  | propertyClass p => propertyClass { p with identifiable := p.identifiable.reread }
  | linkClass l => linkClass { l with identifiable := l.identifiable.reread }
  | entityClass e => entityClass { e with identifiable := e.identifiable.reread, element := e.element.reread }
  | relationshipClass r =>
    relationshipClass { r with identifiable := r.identifiable.reread, element := r.element.reread }
  | entity e => entity { e with identifiable := e.identifiable.reread, individual := e.individual.reread }
  | relationship r =>
    relationship { r with identifiable := r.identifiable.reread, individual := r.individual.reread }
  | property p => property p.reread
  | sourceLink l => sourceLink l
  | targetLink l => targetLink l

variable {d : ItemData}

theorem kind_reread (d : ItemData) : d.reread.kind = d.kind := by
  cases d <;> rfl

theorem identifiable_reread (d : ItemData) : d.reread.identifiable = d.identifiable.map Identifiable.reread := by
  cases d <;> rfl

theorem element_reread (d : ItemData) : d.reread.element = d.element.map ElementClass.reread := by
  cases d <;> rfl

theorem individual_reread (d : ItemData) : d.reread.individual = d.individual.map Individual.reread := by
  cases d <;> rfl

theorem properties_reread (d : ItemData) : d.reread.properties = d.properties.map PropertyValue.reread := by
  cases d <;> rfl

theorem countsKnown_reread (known : d.CountsKnown) : d.reread.CountsKnown := by
  rintro p same
  cases d with
  | propertyClass q =>
      cases same
      exact known q rfl
  | _ => cases same

/-! ## The fields of what comes back -/

/-- The fields that may come back changed, with their shapes. -/
def retold : List (String × Shape) :=
  [("title", .texts), ("description", .texts), ("icon", .text), ("revision", .text), ("priorRevision", .textList),
   ("modified", .text), ("creator", .text), ("hasProperty", .properties), ("value", .text)]

section Others

variable {name : String}

theorem get?_identifiable_reread (other : ∀ f ∈ retold, f.1 ≠ name) (i : Identifiable) :
    Keyed.get? (Writing.identifiable i.reread) name = Keyed.get? (Writing.identifiable i) name := by
  simp only [retold, List.forall_mem_cons] at other
  simp [Writing.identifiable, Identifiable.reread, other]

theorem get?_elementClass_reread (other : ∀ f ∈ retold, f.1 ≠ name) (e : ElementClass) :
    Keyed.get? (Writing.elementClass e.reread) name = Keyed.get? (Writing.elementClass e) name := by
  simp only [retold, List.forall_mem_cons] at other
  simp [Writing.elementClass, ElementClass.reread, other]

theorem get?_individual_reread (other : ∀ f ∈ retold, f.1 ≠ name) (i : Individual) :
    Keyed.get? (Writing.individual i.reread) name = Keyed.get? (Writing.individual i) name := by
  simp only [retold, List.forall_mem_cons] at other
  simp [Writing.individual, other]

theorem get?_propertyValue_reread (other : ∀ f ∈ retold, f.1 ≠ name) (p : PropertyValue) :
    Keyed.get? (Writing.propertyValue p.reread) name = Keyed.get? (Writing.propertyValue p) name := by
  simp only [retold, List.forall_mem_cons] at other
  simp [Writing.propertyValue, PropertyValue.reread, other]

/-- Under any other name an item comes back as it was. -/
theorem get?_reread_of_not_mem (other : ∀ f ∈ retold, f.1 ≠ name) :
    d.reread.fields.get? name = d.fields.get? name := by
  rw [get?_fields, get?_fields, entries, entries, Keyed.get?_append, Keyed.get?_append, kind_reread]
  have content : Keyed.get? (Writing.content d.reread) name = Keyed.get? (Writing.content d) name := by
    cases d with
    | propertyClass p =>
        simp only [reread, Writing.content, Writing.propertyClass, Keyed.get?_append,
          get?_identifiable_reread other]
    | linkClass l =>
        simp only [reread, Writing.content, Writing.linkClass, Keyed.get?_append, get?_identifiable_reread other]
    | entityClass e =>
        simp only [reread, Writing.content, Writing.entityClass, Keyed.get?_append, get?_identifiable_reread other,
          get?_elementClass_reread other]
    | relationshipClass r =>
        simp only [reread, Writing.content, Writing.relationshipClass, Keyed.get?_append,
          get?_identifiable_reread other, get?_elementClass_reread other]
    | entity e =>
        simp only [reread, Writing.content, Writing.entity, Keyed.get?_append, get?_identifiable_reread other,
          get?_individual_reread other]
    | relationship r =>
        simp only [reread, Writing.content, Writing.relationship, Keyed.get?_append, get?_identifiable_reread other,
          get?_individual_reread other]
    | property p => exact get?_propertyValue_reread other p
    | sourceLink | targetLink => rfl
  rw [content]

end Others

end ItemData

namespace Xml

/-! ## What markup makes of each field -/

section Fields

variable {options : ReadingOptions} {d : ItemData} {name : String} {shape : Shape}

/-- What comes back under a name where an item is written as markup. -/
def again (options : ReadingOptions) (d : ItemData) (name : String) : Option Json :=
  (target d.fields name).bind (Normal.field? options (some d.kind) name)

theorem again_of_absent (absent : d.fields.get? name = none) : again options d name = none := by
  rw [again, target_of_get? absent]
  rfl

theorem shape_of_retold (member : (name, shape) ∈ ItemData.retold) (kind : Kind) {other : Shape}
    (named : kind.shapes.get? name = some other) : other = shape := by
  have all : ∀ kind ∈ Kind.all, ∀ f ∈ ItemData.retold, (kind.shapes.get? f.1).all (· == f.2) = true := by decide
  have here := all kind kind.mem_all _ member
  rw [named] at here
  exact beq_iff_eq.mp here

theorem settled_of_ne (notTime : name ≠ "modified") (notRich : Vocabulary.richFields.contains name = false) (v : Json) :
    Normal.Settled name v := by
  constructor
  · exact fun isTime => absurd isTime notTime
  · intro isRich
    rw [notRich] at isRich
    cases isRich

/-- A field comes back as what is heard of it, if that is in the form of the shape of the field and settled. -/
theorem again_of_heard (sound : d.Sound) (member : (name, shape) ∈ ItemData.retold) {v w : Json}
    (found : d.fields.get? name = some v) (heard_eq : heard name v = some w)
    (written : shape.Written v → shape.Written w) (settled : Normal.Settled name w) :
    again options d name = some w := by
  rcases ItemData.written_fields sound.conforms sound.known _ (Keyed.mem_of_get? found) with ⟨other, named, form⟩
  cases shape_of_retold member d.kind named
  rw [again, target_of_found found, heard_eq, Option.bind_some]
  refine Normal.field?_written (Normal.suits_of_get?_shapes named) (written form) settled ?_
  by_cases texts : shape = .texts
  · exact .inl ⟨texts, rfl⟩
  · exact .inr ⟨texts, Normal.unwrapping_written (written form) texts⟩

/-- The entries of a text come back as they are heard. -/
theorem again_texts (sound : d.Sound) (member : (name, .texts) ∈ ItemData.retold)
    (isText : Vocabulary.textFields.contains name = true) {list : List LanguageText}
    (found : d.fields.get? name = Writing.unlessEmpty Writing.languageText list) :
    again options d name = Writing.unlessEmpty Writing.languageText (list.map (heardEntry name)) := by
  cases list with
  | nil => exact again_of_absent found
  | cons t rest =>
      have heard_eq : heard name (.array ((t :: rest).map Writing.languageText)) =
          some (.array (((t :: rest).map (heardEntry name)).map Writing.languageText)) := by
        rw [heard_texts isText, List.map_map]
        rfl
      refine again_of_heard sound member found heard_eq (fun _ => .texts (List.cons_ne_nil _ _)) ⟨?_, ?_⟩
      · rintro rfl
        exact absurd isText (by decide)
      · intro isRich
        refine ⟨_, rfl, List.forall_mem_map.mpr fun u _ => ?_⟩
        rw [heardEntry, if_pos isRich]
        exact asMarkup_richText u.value

/-- A text that need not be there comes back if it is visible. -/
theorem again_text (sound : d.Sound) (member : (name, .text) ∈ ItemData.retold)
    (optional : optionalTexts.contains name = true) (notTime : name ≠ "modified") {given : Option String}
    (found : d.fields.get? name = Writing.text? given) :
    again options d name = Writing.text? (given.filter fun s => Visible s) := by
  cases given with
  | none => exact again_of_absent found
  | some s =>
      by_cases visible : Visible s
      · have notRich : Vocabulary.richFields.contains name = false := by
          have apart : ∀ name ∈ optionalTexts, Vocabulary.richFields.contains name = false := by decide
          exact apart name (List.contains_iff_mem.mp optional)
        have heard_eq : heard name (.string s) = some (.string s) := by
          rw [heard_text optional, if_pos visible]
        rw [again_of_heard sound member found heard_eq id (settled_of_ne notTime notRich _), Option.filter_some,
          if_pos (decide_eq_true visible)]
        rfl
      · have named : d.fields.get? name = some (.string s) := found
        rw [again, target_of_found named, heard_text optional, if_neg visible, Option.filter_some,
          if_neg (by simpa using visible)]
        rfl

theorem again_modified (sound : d.Sound) :
    again options d "modified" = Writing.text? ((d.individual.bind (·.modified)).map Time.canonical) := by
  have found := d.get?_modified
  cases stated : d.individual.bind (·.modified) with
  | none =>
      rw [stated] at found
      exact again_of_absent found
  | some s =>
      have visible : Visible s := forall_bind (visible_modified sound.valid) s stated
      have there : d.fields.get? "modified" = some (.string s) := by rw [found, stated]; rfl
      rw [again, target_of_found there, heard_text (by decide), if_pos visible]
      rfl

theorem identifies_of_written {list : List PropertyValue}
    (written : Shape.Written .properties (.array (list.map Writing.embeddedProperty))) :
    ∀ p ∈ list, Identifies p.hasClass := by
  generalize same : Json.array (list.map Writing.embeddedProperty) = v at written
  cases written with
  | properties _ names =>
      rw [List.map_injective_iff.mpr injective_embeddedProperty (Json.array.inj same)]
      exact names

theorem again_properties (sound : d.Sound) :
    again options d "hasProperty" =
      Writing.unlessEmpty Writing.embeddedProperty (d.properties.map PropertyValue.reread) := by
  have found := d.get?_hasProperty
  cases stated : d.properties with
  | nil =>
      rw [stated] at found
      exact again_of_absent found
  | cons p rest =>
      rw [stated] at found
      have heard_eq : heard "hasProperty" (.array ((p :: rest).map Writing.embeddedProperty)) =
          some (.array (((p :: rest).map PropertyValue.reread).map Writing.embeddedProperty)) := by
        rw [heard_properties, List.map_map]
        rfl
      have listed : ("hasProperty", Shape.properties) ∈ ItemData.retold := by decide
      refine again_of_heard sound listed found heard_eq (fun written => ?_) (settled_of_ne (by decide) rfl _)
      have names := identifies_of_written written
      exact .properties (List.cons_ne_nil _ _) (List.forall_mem_map.mpr names)

theorem again_value {p : PropertyValue} (sound : (ItemData.property p).Sound) :
    again options (.property p) "value" = some (.string (standing p.value)) := by
  have found : (ItemData.property p).fields.get? "value" = some (.string p.value) := by
    rw [ItemData.get?_fields]
    rfl
  exact again_of_heard sound (by decide) found rfl (fun _ => .text _) (settled_of_ne (by decide) rfl _)

theorem again_priorRevision (sound : d.Sound) :
    again options d "priorRevision" = (d.fields.get? "priorRevision").map fun _ =>
      Writing.texts (((d.individual.map (·.priorRevision)).getD []).filter fun s => Visible s) := by
  have found := d.get?_priorRevision
  cases stated : (d.individual.map (·.priorRevision)).getD [] with
  | nil =>
      rw [stated] at found
      rw [again_of_absent found, found]
      rfl
  | cons s rest =>
      rw [stated] at found
      rw [again_of_heard sound (by decide) found (heard_textList (s :: rest)) (fun _ => .textList _)
        (settled_of_ne (by decide) rfl _), found]
      rfl

theorem parts_of_not_mem (other : ∀ f ∈ ItemData.retold, f.1 ≠ name) :
    isVerbatim name = true ∧ name ≠ "modified" ∧ Vocabulary.richFields.contains name = false := by
  have apart : ∀ f ∈ ItemData.retold, name ≠ f.1 := fun f member => (other f member).symm
  simp only [ItemData.retold, List.forall_mem_cons] at apart
  simp [isVerbatim, optionalTexts, Vocabulary.richFields, apart]

/-- Under any other name there comes back what was there. -/
theorem again_of_not_mem (sound : d.Sound) (other : ∀ f ∈ ItemData.retold, f.1 ≠ name)
    (number : ∀ x, d.fields.get? name = some (.number (.real x)) →
      RealValue.ofText? (Text.trim x.json.toList) = some (.finite x)) :
    again options d name = d.fields.get? name := by
  cases found : d.fields.get? name with
  | none => exact again_of_absent found
  | some v =>
      have member := Keyed.mem_of_get? found
      rcases ItemData.written_fields sound.conforms sound.known _ member with ⟨shape, named, written⟩
      rcases parts_of_not_mem other with ⟨verbatim, notTime, notRich⟩
      rw [again, target_of_found found, heard_of_isVerbatim verbatim written, Option.bind_some]
      refine field?_spelled options named written (settled_of_ne notTime notRich v) ?_
      rintro x rfl
      exact number x found

/-- Under a name of which something may be lost there comes back what the item that comes back has there.  Of earlier
revisions that are all lost an empty list is left. -/
theorem again_of_retold (sound : d.Sound) (member : (name, shape) ∈ ItemData.retold)
    (notPrior : name ≠ "priorRevision") : again options d name = d.reread.fields.get? name := by
  simp only [ItemData.retold, List.mem_cons, List.not_mem_nil, or_false, Prod.mk.injEq] at member
  rcases member with ⟨rfl, rfl⟩ | ⟨rfl, rfl⟩ | ⟨rfl, rfl⟩ | ⟨rfl, rfl⟩ | ⟨rfl, rfl⟩ | ⟨rfl, rfl⟩ | ⟨rfl, rfl⟩ |
    ⟨rfl, rfl⟩ | ⟨rfl, rfl⟩
  · rw [again_texts sound (by decide) (by decide) d.get?_title, d.reread.get?_title, d.identifiable_reread]
    cases d.identifiable <;> rfl
  · rw [again_texts sound (by decide) (by decide) d.get?_description, d.reread.get?_description,
      d.identifiable_reread]
    cases d.identifiable <;> rfl
  · rw [again_text sound (by decide) (by decide) (by decide) d.get?_icon, d.reread.get?_icon, d.element_reread]
    cases d.element <;> rfl
  · rw [again_text sound (by decide) (by decide) (by decide) d.get?_revision, d.reread.get?_revision,
      d.individual_reread]
    cases d.individual <;> rfl
  · exact absurd rfl notPrior
  · rw [again_modified sound, d.reread.get?_modified, d.individual_reread]
    cases d.individual <;> rfl
  · rw [again_text sound (by decide) (by decide) (by decide) d.get?_creator, d.reread.get?_creator,
      d.individual_reread]
    cases d.individual <;> rfl
  · rw [again_properties sound, d.reread.get?_hasProperty, d.properties_reread]
  · cases d with
    | property p =>
        rw [again_value sound, ItemData.get?_fields]
        rfl
    | _ =>
        rw [ItemData.get?_fields]
        exact again_of_absent (ItemData.get?_fields _ _)

/-- What comes back under a name is what the item that comes back has there, earlier revisions apart. -/
theorem again_eq (sound : d.Sound)
    (bounds : ∀ x ∈ d.bounds, RealValue.ofText? (Text.trim x.json.toList) = some (.finite x))
    (notPrior : name ≠ "priorRevision") : again options d name = d.reread.fields.get? name := by
  have number : ∀ x, d.fields.get? name = some (.number (.real x)) →
      RealValue.ofText? (Text.trim x.json.toList) = some (.finite x) :=
    fun x found => bounds x (ItemData.mem_bounds_of_mem_fields sound (Keyed.mem_of_get? found))
  by_cases listed : ∃ f ∈ ItemData.retold, f.1 = name
  · rcases listed with ⟨f, member, rfl⟩
    exact again_of_retold sound member notPrior
  · have other : ∀ f ∈ ItemData.retold, f.1 ≠ name := fun f member same => listed ⟨f, member, same⟩
    rw [again_of_not_mem sound other number, ItemData.get?_reread_of_not_mem other]

end Fields

/-! ## The element of an item -/

theorem presents_of_ends {d : ItemData} (sound : d.Sound)
    (ends : ∀ i ∈ d.identifiable, ∀ t ∈ i.description, Ends t.value) : Presents d.kind d.fields where
  sorted := Writing.sorted_fieldsOf _
  written := ItemData.written_fields sound.conforms sound.known
  ends v found := by
    rw [d.get?_description] at found
    exact forall_languageTexts found (forall_getD_map ends)

/-- An item is written as an element in which there is read what comes back under each name. -/
theorem exists_again {d : ItemData} (sound : d.Sound)
    (ends : ∀ i ∈ d.identifiable, ∀ t ∈ i.description, Ends t.value) :
    ∃ tokens e, itemTokens d.toJson = .ok tokens ∧ Markup.ReadAs Vocabulary.isRichElement tokens [e] ∧
      ∀ options, ∃ fields : Fields, itemOfElement options e = .ofJson (.object fields) ∧
        ∀ name, fields.get? name = again options d name := by
  have presents := presents_of_ends sound ends
  rcases exists_element presents d.get?_itemType exists_value_of_kind with
    ⟨tokens, e, here, reads, named, attributesAre, fills⟩
  refine ⟨tokens, e, here, reads, fun options => ?_⟩
  rcases itemOfElement_eq options presents d.get?_itemType named attributesAre fills with ⟨read, sorted, found, item⟩
  refine ⟨_, item, fun name => ?_⟩
  rw [Normal.get?_fields_of_sorted sorted, found]
  rfl

end Xml

namespace Reading

variable {fields others : Fields}

/-- What is read of an item depends on what is found under each name, and of earlier revisions on the list only. -/
theorem ofJson_congr (kind : Kind) (same : ∀ name, name ≠ "priorRevision" → fields.get? name = others.get? name)
    (prior : listField fields "priorRevision" text = listField others "priorRevision" text) :
    ItemData.ofJson kind (.object fields) = ItemData.ofJson kind (.object others) := by
  have one : ∀ {α : Type} (name : String) (read : Reader α), name ≠ "priorRevision" →
      field? fields name read = field? others name read := by
    intro α name read other
    rw [field?, field?, same name other]
  have optionalSame : ∀ {α : Type} (name : String) (read : Reader α), name ≠ "priorRevision" →
      optional fields name read = optional others name read := by
    intro α name read other
    rw [optional, optional, one name _ other]
  have listSame : ∀ {α : Type} (name : String) (read : Reader α), name ≠ "priorRevision" →
      listField fields name read = listField others name read := by
    intro α name read other
    rw [listField, listField, one name _ other]
  have shared : identifiable fields = identifiable others := by
    simp (disch := decide) only [identifiable, one, optionalSame, listSame]
  have element : elementClass fields = elementClass others := by
    simp (disch := decide) only [elementClass, optionalSame]
  have own : individual fields = individual others := by
    simp (disch := decide) only [individual, optionalSame, listSame, prior]
  cases kind with
  | propertyClass => simp (disch := decide) only [ItemData.ofJson, onObject, propertyClass, shared, optionalSame]
  | linkClass => simp (disch := decide) only [ItemData.ofJson, onObject, linkClass, shared, optionalSame]
  | entityClass => simp (disch := decide) only [ItemData.ofJson, onObject, entityClass, shared, element, optionalSame]
  | relationshipClass =>
      simp (disch := decide) only [ItemData.ofJson, onObject, relationshipClass, shared, element, optionalSame]
  | entityInstance => simp (disch := decide) only [ItemData.ofJson, onObject, entity, shared, own, one, listSame]
  | relationshipInstance =>
      simp (disch := decide) only [ItemData.ofJson, onObject, relationship, shared, own, one, listSame]
  | propertyValue => simp (disch := decide) only [ItemData.ofJson, propertyValue, one, optionalSame]
  | sourceLinkValue | targetLinkValue => simp (disch := decide) only [ItemData.ofJson, linkValue, one]
  | package => rfl

end Reading
end ProductGraph
