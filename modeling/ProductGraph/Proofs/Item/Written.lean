import ProductGraph.Proofs.Item.Conformity

namespace ProductGraph

/-!
# The form of what is written

What is written for a content is narrower than what conforms to its kind: objects have their fields in one order, no
list of entries is empty, and numbers have one spelling.  So the value of a field has one of a few forms, told by the
shape of the field.  Readers of documents are followed form by form.
-/

/-- A text of the form of identifiers. -/
abbrev Identifies (s : String) : Prop := SchemaDocument.identifierForm.matchesText s = true

theorem isIdentifier_string_iff {s : String} : IsIdentifier (.string s) ↔ Identifies s := by
  constructor
  · rintro ⟨_, ⟨⟩, fits⟩
    exact fits
  · exact fun fits => ⟨s, rfl, fits⟩

namespace Shape

/-- The values that are written for fields of a shape. -/
inductive Written : Shape → Json → Prop
  | identifier {s : String} (names : Identifies s) : Written .identifier (.string s)
  | identifiers {list : List String} (names : ∀ s ∈ list, Identifies s) : Written .identifiers (Writing.texts list)
  | texts {list : List LanguageText} (nonempty : list ≠ []) : Written .texts (.array (list.map Writing.languageText))
  | text (s : String) : Written .text (.string s)
  | textList (list : List String) : Written .textList (Writing.texts list)
  | count {n : Nat} (le : n ≤ unbounded) : Written .count (.nat n)
  | number (x : Binary64) : Written .number (.number (.real x))
  | exactly (s : String) : Written (.exactly s) (.string s)
  | properties {list : List PropertyValue} (nonempty : list ≠ []) (names : ∀ p ∈ list, Identifies p.hasClass) :
      Written .properties (.array (list.map Writing.embeddedProperty))
  | links {list : List LinkValue} (nonempty : list ≠ [])
      (names : ∀ l ∈ list, Identifies l.hasClass ∧ Identifies l.idRef) :
      Written .links (.array (list.map Writing.embeddedLink))

/-! ## From the shape to the form -/

theorem identifies_of_isProperty {p : PropertyValue} (isProperty : IsProperty (Writing.embeddedProperty p)) :
    Identifies p.hasClass :=
  isIdentifier_string_iff.mp
    (isIdentifier_of_propertyValue isProperty (Reading.embeddedProperty_back .direct p))

theorem identifies_of_isLink {l : LinkValue} (isLink : IsLink (Writing.embeddedLink l)) :
    Identifies l.hasClass ∧ Identifies l.idRef :=
  (isIdentifier_of_linkValue isLink (Reading.embeddedLink_back .direct l)).imp isIdentifier_string_iff.mp
    isIdentifier_string_iff.mp

/-- An entry is written in the form of its shape if it has that shape at all. -/
def Writes (shape : Shape) (written : Option Json) : Prop := ∀ v, written = some v → shape.Fits v → shape.Written v

theorem writes_identifier {s : Option String} : Writes .identifier (Writing.text? s) := by
  intro v made fits
  rcases Option.map_eq_some_iff.mp made with ⟨t, rfl, rfl⟩
  exact .identifier (isIdentifier_string_iff.mp fits)

theorem writes_text {s : Option String} : Writes .text (Writing.text? s) := by
  intro v made _
  rcases Option.map_eq_some_iff.mp made with ⟨t, rfl, rfl⟩
  exact .text t

theorem writes_exactly {s : String} : Writes (.exactly s) (some (.string s)) := by
  rintro _ ⟨⟩ _
  exact .exactly s

theorem writes_identifiers {list : Option (List String)} : Writes .identifiers (list.map Writing.texts) := by
  intro v made fits
  rcases Option.map_eq_some_iff.mp made with ⟨list, rfl, rfl⟩
  rcases fits with ⟨_, ⟨⟩, each⟩
  exact .identifiers fun s member => isIdentifier_string_iff.mp (each _ (List.mem_map_of_mem member))

theorem writes_texts {list : List LanguageText} : Writes .texts (Writing.unlessEmpty Writing.languageText list) := by
  intro v made _
  cases list with
  | nil => cases made
  | cons t rest =>
      cases made
      exact .texts (List.cons_ne_nil t rest)

theorem writes_textList {list : List String} : Writes .textList (Writing.unlessEmpty .string list) := by
  intro v made _
  cases list with
  | nil => cases made
  | cons t rest =>
      cases made
      exact .textList (t :: rest)

theorem writes_count {n : Option Nat} (le : ∀ m ∈ n, m ≤ unbounded) : Writes .count (Writing.count? n) := by
  intro v made _
  rcases Option.map_eq_some_iff.mp made with ⟨m, rfl, rfl⟩
  exact .count (le m rfl)

theorem writes_number {x : Option Binary64} : Writes .number (Writing.real? x) := by
  intro v made _
  rcases Option.map_eq_some_iff.mp made with ⟨y, rfl, rfl⟩
  exact .number y

theorem writes_properties {list : List PropertyValue} :
    Writes .properties (Writing.unlessEmpty Writing.embeddedProperty list) := by
  intro v made fits
  cases list with
  | nil => cases made
  | cons p rest =>
      cases made
      rcases fits with ⟨_, ⟨⟩, each⟩
      exact .properties (List.cons_ne_nil p rest)
        fun q member => identifies_of_isProperty (each _ (List.mem_map_of_mem member))

theorem writes_links {list : List LinkValue} : Writes .links (Writing.unlessEmpty Writing.embeddedLink list) := by
  intro v made fits
  cases list with
  | nil => cases made
  | cons l rest =>
      cases made
      rcases fits with ⟨_, ⟨⟩, each⟩
      exact .links (List.cons_ne_nil l rest) fun m member => identifies_of_isLink (each _ (List.mem_map_of_mem member))

/-- Every entry belongs to a field of some shape and is written in its form. -/
def WritesAll (shapes : Keyed Shape) (entries : Writing.Entries) : Prop :=
  ∀ e ∈ entries, ∃ shape, shapes.get? e.1 = some shape ∧ Writes shape e.2

theorem WritesAll.append {shapes : Keyed Shape} {first second : Writing.Entries} (writes : WritesAll shapes first)
    (alsoWrites : WritesAll shapes second) : WritesAll shapes (first ++ second) := by
  intro e member
  rcases List.mem_append.mp member with inFirst | inSecond
  · exact writes e inFirst
  · exact alsoWrites e inSecond

end Shape

open Shape

/-! ## Contents and headers -/

namespace Kind

/-- Kinds with an identity. -/
theorem writesAll_identifiable {shapes : Keyed Shape} (i : Identifiable)
    (id : shapes.get? "id" = some .identifier) (specializes : shapes.get? "specializes" = some .identifier)
    (title : shapes.get? "title" = some .texts) (description : shapes.get? "description" = some .texts) :
    WritesAll shapes (Writing.identifiable i) := by
  simp only [WritesAll, Writing.identifiable, List.forall_mem_cons]
  exact ⟨⟨_, id, writes_identifier (s := some i.id)⟩, ⟨_, specializes, writes_identifier⟩, ⟨_, title, writes_texts⟩,
    ⟨_, description, writes_texts⟩, List.forall_mem_nil _⟩

/-- Classes of nodes and edges. -/
theorem writesAll_elementClass {shapes : Keyed Shape} (e : ElementClass)
    (eligibleProperty : shapes.get? "eligibleProperty" = some .identifiers) (icon : shapes.get? "icon" = some .text) :
    WritesAll shapes (Writing.elementClass e) := by
  simp only [WritesAll, Writing.elementClass, List.forall_mem_cons]
  exact ⟨⟨_, eligibleProperty, writes_identifiers⟩, ⟨_, icon, writes_text⟩, List.forall_mem_nil _⟩

/-- Individuals. -/
theorem writesAll_individual {shapes : Keyed Shape} (i : Individual)
    (revision : shapes.get? "revision" = some .text) (priorRevision : shapes.get? "priorRevision" = some .textList)
    (modified : shapes.get? "modified" = some .text) (creator : shapes.get? "creator" = some .text)
    (hasProperty : shapes.get? "hasProperty" = some .properties) :
    WritesAll shapes (Writing.individual i) := by
  simp only [WritesAll, Writing.individual, List.forall_mem_cons]
  exact ⟨⟨_, revision, writes_text⟩, ⟨_, priorRevision, writes_textList⟩, ⟨_, modified, writes_text⟩,
    ⟨_, creator, writes_text⟩, ⟨_, hasProperty, writes_properties⟩, List.forall_mem_nil _⟩

end Kind

namespace ItemData

open Kind

theorem writesAll_content {d : ItemData} (known : d.CountsKnown) :
    WritesAll d.kind.shapes (Writing.content d) := by
  cases d with
  | propertyClass p =>
      rcases known p rfl with ⟨least, most, longest⟩
      refine .append (writesAll_identifiable _ rfl rfl rfl rfl) ?_
      simp only [WritesAll, List.forall_mem_cons]
      exact ⟨⟨_, rfl, writes_identifier⟩, ⟨_, rfl, writes_identifier⟩, ⟨_, rfl, writes_count least⟩,
        ⟨_, rfl, writes_count most⟩, ⟨_, rfl, writes_count longest⟩, ⟨_, rfl, writes_text⟩, ⟨_, rfl, writes_number⟩,
        ⟨_, rfl, writes_number⟩, ⟨_, rfl, writes_identifiers⟩, List.forall_mem_nil _⟩
  | linkClass l =>
      refine .append (writesAll_identifiable _ rfl rfl rfl rfl) ?_
      simp only [WritesAll, List.forall_mem_cons]
      exact ⟨⟨_, rfl, writes_identifier⟩, ⟨_, rfl, writes_identifiers⟩, List.forall_mem_nil _⟩
  | entityClass e =>
      refine .append (.append (writesAll_identifiable _ rfl rfl rfl rfl) (writesAll_elementClass _ rfl rfl)) ?_
      simp only [WritesAll, List.forall_mem_cons]
      exact ⟨⟨_, rfl, writes_identifier⟩, ⟨_, rfl, writes_identifiers⟩, List.forall_mem_nil _⟩
  | relationshipClass r =>
      refine .append (.append (writesAll_identifiable _ rfl rfl rfl rfl) (writesAll_elementClass _ rfl rfl)) ?_
      simp only [WritesAll, List.forall_mem_cons]
      exact ⟨⟨_, rfl, writes_identifier⟩, ⟨_, rfl, writes_identifier⟩, ⟨_, rfl, writes_identifier⟩,
        List.forall_mem_nil _⟩
  | entity e =>
      refine .append (.append (writesAll_identifiable _ rfl rfl rfl rfl)
        (writesAll_individual _ rfl rfl rfl rfl rfl)) ?_
      simp only [WritesAll, List.forall_mem_cons]
      exact ⟨⟨_, rfl, writes_identifier (s := some e.hasClass)⟩, ⟨_, rfl, writes_links⟩, List.forall_mem_nil _⟩
  | relationship r =>
      refine .append (.append (writesAll_identifiable _ rfl rfl rfl rfl)
        (writesAll_individual _ rfl rfl rfl rfl rfl)) ?_
      simp only [WritesAll, List.forall_mem_cons]
      exact ⟨⟨_, rfl, writes_identifier (s := some r.hasClass)⟩, ⟨_, rfl, writes_links⟩, ⟨_, rfl, writes_links⟩,
        List.forall_mem_nil _⟩
  | property p =>
      simp only [WritesAll, Writing.content, Writing.propertyValue, List.forall_mem_cons]
      exact ⟨⟨_, rfl, writes_identifier (s := some p.hasClass)⟩, ⟨_, rfl, writes_text (s := some p.value)⟩,
        ⟨_, rfl, writes_text⟩, List.forall_mem_nil _⟩
  | sourceLink l | targetLink l =>
      simp only [WritesAll, Writing.content, Writing.linkValue, List.forall_mem_cons]
      exact ⟨⟨_, rfl, writes_identifier (s := some l.hasClass)⟩, ⟨_, rfl, writes_identifier (s := some l.idRef)⟩,
        List.forall_mem_nil _⟩

end ItemData

namespace Kind

theorem get?_shapes_itemType (kind : Kind) : kind.shapes.get? "itemType" = some (.exactly kind.tag) := by
  cases kind <;> rfl

/-- Fields that conform to a kind and were written in the forms of its shapes have these forms. -/
theorem written_of_conforms {kind : Kind} {entries : Writing.Entries}
    (conforms : kind.Conforms (.object (Writing.fieldsOf (entries ++ [("itemType", some (.string kind.tag))]))))
    (writes : WritesAll kind.shapes entries) :
    ∀ f ∈ Writing.fieldsOf (entries ++ [("itemType", some (.string kind.tag))]),
      ∃ shape, kind.shapes.get? f.1 = some shape ∧ shape.Written f.2 := by
  intro f member
  have all : WritesAll kind.shapes (entries ++ [("itemType", some (.string kind.tag))]) := by
    refine writes.append ?_
    simp only [WritesAll, List.forall_mem_cons]
    exact ⟨⟨_, kind.get?_shapes_itemType, writes_exactly⟩, List.forall_mem_nil _⟩
  rcases all _ (Writing.mem_fieldsOf member) with ⟨shape, named, written⟩
  refine ⟨shape, named, written f.2 rfl ?_⟩
  rcases conforms with ⟨_, ⟨⟩, _, known⟩
  rcases known f member with ⟨P, found, fits⟩
  rw [Keyed.get?_map kind.shapes fun _ s => s.Fits, named] at found
  cases found
  exact fits

end Kind

namespace ItemData

/-- Every field of a content that conforms is written in the form of its shape. -/
theorem written_fields {d : ItemData} (conforms : d.kind.Conforms d.toJson) (known : d.CountsKnown) :
    ∀ f ∈ d.fields, ∃ shape, d.kind.shapes.get? f.1 = some shape ∧ shape.Written f.2 :=
  Kind.written_of_conforms conforms (writesAll_content known)

end ItemData

/-! ## What conforms -/

def Identifiable.names (i : Identifiable) : List String := i.id :: i.specializes.toList

/-- What an individual names beside its identity, its class and its links. -/
def Individual.names (i : Individual) : List String := i.hasProperty.map (·.hasClass)

def LinkValue.allNames (links : List LinkValue) : List String := links.flatMap fun l => [l.hasClass, l.idRef]

def ItemData.names : ItemData → List String
  | propertyClass p => p.identifiable.names ++ p.hasClass.toList ++ p.datatype.toList ++ p.composedProperty.getD []
  | linkClass l => l.identifiable.names ++ l.hasClass.toList ++ l.eligibleEndpoint.getD []
  | entityClass e =>
    e.identifiable.names ++ e.element.eligibleProperty.getD [] ++ e.hasClass.toList ++ e.eligibleTargetLink.getD []
  | relationshipClass r =>
    r.identifiable.names ++ r.element.eligibleProperty.getD [] ++ r.hasClass.toList ++ r.eligibleSourceLink.toList ++
      r.eligibleTargetLink.toList
  | entity e => e.identifiable.names ++ e.individual.names ++ e.hasClass :: LinkValue.allNames e.hasTargetLink
  | relationship r =>
    r.identifiable.names ++ r.individual.names ++ r.hasClass :: LinkValue.allNames r.hasSourceLink ++
      LinkValue.allNames r.hasTargetLink
  | property p => [p.hasClass]
  | sourceLink l | targetLink l => [l.hasClass, l.idRef]

namespace Shape

/-- Whatever is written has the shape. -/
def Admits (shape : Shape) (written : Option Json) : Prop := ∀ v, written = some v → shape.Fits v

theorem admits_identifier {s : Option String} (names : ∀ t ∈ s.toList, Identifies t) :
    Admits .identifier (Writing.text? s) := by
  intro v made
  rcases Option.map_eq_some_iff.mp made with ⟨t, rfl, rfl⟩
  exact isIdentifier_string_iff.mpr (names t List.mem_cons_self)

theorem admits_text {s : Option String} : Admits .text (Writing.text? s) := by
  intro v made
  rcases Option.map_eq_some_iff.mp made with ⟨t, rfl, rfl⟩
  exact ⟨t, rfl⟩

theorem admits_identifiers {list : Option (List String)} (names : ∀ s ∈ list.getD [], Identifies s) :
    Admits .identifiers (list.map Writing.texts) := by
  intro v made
  rcases Option.map_eq_some_iff.mp made with ⟨list, rfl, rfl⟩
  exact ⟨_, rfl, List.forall_mem_map.mpr fun s member => isIdentifier_string_iff.mpr (names s member)⟩

theorem admits_unlessEmpty {α : Type} {write : α → Json} {list : List α} {shape : Shape}
    (fits : shape.Fits (.array (list.map write))) : Admits shape (Writing.unlessEmpty write list) := by
  intro v made
  cases list with
  | nil => cases made
  | cons a rest =>
      cases made
      exact fits

theorem admits_texts {list : List LanguageText} : Admits .texts (Writing.unlessEmpty Writing.languageText list) :=
  admits_unlessEmpty ⟨_, rfl, List.forall_mem_map.mpr fun t _ => isTextEntry_languageText t⟩

theorem admits_textList {list : List String} : Admits .textList (Writing.unlessEmpty .string list) :=
  admits_unlessEmpty ⟨_, rfl, List.forall_mem_map.mpr fun s _ => ⟨s, rfl⟩⟩

theorem admits_count {n : Option Nat} (le : ∀ m ∈ n, m ≤ unbounded) : Admits .count (Writing.count? n) := by
  intro v made
  rcases Option.map_eq_some_iff.mp made with ⟨m, rfl, rfl⟩
  have most : (m : Int) ≤ unbounded := Int.ofNat_le.mpr (le m rfl)
  refine ⟨.integer m, rfl, rfl, ?_, ?_⟩
  · exact Int.mul_nonneg (Int.natCast_nonneg m) (Int.natCast_nonneg _)
  · exact Int.mul_le_mul_of_nonneg_right most (Int.natCast_nonneg _)

theorem admits_number {x : Option Binary64} : Admits .number (Writing.real? x) := by
  intro v made
  rcases Option.map_eq_some_iff.mp made with ⟨y, rfl, rfl⟩
  exact ⟨_, rfl⟩

theorem admits_properties {list : List PropertyValue} (names : ∀ s ∈ list.map (·.hasClass), Identifies s) :
    Admits .properties (Writing.unlessEmpty Writing.embeddedProperty list) :=
  admits_unlessEmpty ⟨_, rfl, List.forall_mem_map.mpr fun _ member =>
    isProperty_embeddedProperty (isIdentifier_string_iff.mpr (names _ (List.mem_map_of_mem member)))⟩

theorem admits_links {list : List LinkValue} (names : ∀ s ∈ LinkValue.allNames list, Identifies s) :
    Admits .links (Writing.unlessEmpty Writing.embeddedLink list) := by
  refine admits_unlessEmpty ⟨_, rfl, List.forall_mem_map.mpr fun l member => ?_⟩
  have identifies : ∀ s ∈ [l.hasClass, l.idRef], IsIdentifier (.string s) := fun s own =>
    isIdentifier_string_iff.mpr (names s (List.mem_flatMap.mpr ⟨l, member, own⟩))
  exact isLink_embeddedLink (identifies _ List.mem_cons_self) (identifies _ (List.mem_cons_of_mem _ List.mem_cons_self))

/-- Every entry belongs to a field of some shape and has that shape. -/
def AdmitsAll (shapes : Keyed Shape) (entries : Writing.Entries) : Prop :=
  ∀ e ∈ entries, ∃ shape, shapes.get? e.1 = some shape ∧ Admits shape e.2

theorem AdmitsAll.append {shapes : Keyed Shape} {first second : Writing.Entries} (admits : AdmitsAll shapes first)
    (alsoAdmits : AdmitsAll shapes second) : AdmitsAll shapes (first ++ second) := by
  intro e member
  rcases List.mem_append.mp member with inFirst | inSecond
  · exact admits e inFirst
  · exact alsoAdmits e inSecond

/-- Entries that have the shapes of their fields make up a closed object. -/
theorem AdmitsAll.closed {shapes : Keyed Shape} {required : List String} {entries : Writing.Entries}
    (admits : AdmitsAll shapes entries) (distinct : (Keyed.names entries).Nodup)
    (complete : ∀ name ∈ required, ∃ v, (name, some v) ∈ entries) :
    Schema.Closed required (shapes.map fun s => (s.1, s.2.Fits)) (.object (Writing.fieldsOf entries)) := by
  refine closed_fieldsOf distinct complete ?_
  intro e member v made
  rcases admits e member with ⟨shape, named, fits⟩
  exact ⟨shape.Fits, by rw [Keyed.get?_map _ fun _ shape => Shape.Fits shape, named, Option.map_some], fits v made⟩

end Shape

namespace Kind

theorem admitsAll_identifiable {shapes : Keyed Shape} {i : Identifiable} (names : ∀ s ∈ i.names, Identifies s)
    (id : shapes.get? "id" = some .identifier) (specializes : shapes.get? "specializes" = some .identifier)
    (title : shapes.get? "title" = some .texts) (description : shapes.get? "description" = some .texts) :
    AdmitsAll shapes (Writing.identifiable i) := by
  rw [Identifiable.names, List.forall_mem_cons] at names
  have own : ∀ s ∈ (some i.id).toList, Identifies s := List.forall_mem_singleton.mpr names.1
  simp only [AdmitsAll, Writing.identifiable, List.forall_mem_cons]
  exact ⟨⟨_, id, admits_identifier own⟩, ⟨_, specializes, admits_identifier names.2⟩, ⟨_, title, admits_texts⟩,
    ⟨_, description, admits_texts⟩, List.forall_mem_nil _⟩

theorem admitsAll_elementClass {shapes : Keyed Shape} {e : ElementClass}
    (names : ∀ s ∈ e.eligibleProperty.getD [], Identifies s)
    (eligibleProperty : shapes.get? "eligibleProperty" = some .identifiers) (icon : shapes.get? "icon" = some .text) :
    AdmitsAll shapes (Writing.elementClass e) := by
  simp only [AdmitsAll, Writing.elementClass, List.forall_mem_cons]
  exact ⟨⟨_, eligibleProperty, admits_identifiers names⟩, ⟨_, icon, admits_text⟩, List.forall_mem_nil _⟩

theorem admitsAll_individual {shapes : Keyed Shape} {i : Individual} (names : ∀ s ∈ i.names, Identifies s)
    (revision : shapes.get? "revision" = some .text) (priorRevision : shapes.get? "priorRevision" = some .textList)
    (modified : shapes.get? "modified" = some .text) (creator : shapes.get? "creator" = some .text)
    (hasProperty : shapes.get? "hasProperty" = some .properties) :
    AdmitsAll shapes (Writing.individual i) := by
  simp only [AdmitsAll, Writing.individual, List.forall_mem_cons]
  exact ⟨⟨_, revision, admits_text⟩, ⟨_, priorRevision, admits_textList⟩, ⟨_, modified, admits_text⟩,
    ⟨_, creator, admits_text⟩, ⟨_, hasProperty, admits_properties names⟩, List.forall_mem_nil _⟩

end Kind

namespace ItemData

open Kind

theorem admitsAll_content {d : ItemData} (known : d.CountsKnown) (names : ∀ s ∈ d.names, Identifies s) :
    AdmitsAll d.kind.shapes (Writing.content d) := by
  have one : ∀ {s : String}, Identifies s → ∀ t ∈ (some s).toList, Identifies t := List.forall_mem_singleton.mpr
  cases d with
  | propertyClass p =>
      simp only [ItemData.names, List.forall_mem_append] at names
      rcases names with ⟨⟨⟨shared, hasClass⟩, datatype⟩, composed⟩
      rcases known p rfl with ⟨least, most, longest⟩
      refine .append (admitsAll_identifiable shared rfl rfl rfl rfl) ?_
      simp only [AdmitsAll, List.forall_mem_cons]
      exact ⟨⟨_, rfl, admits_identifier hasClass⟩, ⟨_, rfl, admits_identifier datatype⟩,
        ⟨_, rfl, admits_count least⟩, ⟨_, rfl, admits_count most⟩, ⟨_, rfl, admits_count longest⟩,
        ⟨_, rfl, admits_text⟩, ⟨_, rfl, admits_number⟩, ⟨_, rfl, admits_number⟩,
        ⟨_, rfl, admits_identifiers composed⟩, List.forall_mem_nil _⟩
  | linkClass l =>
      simp only [ItemData.names, List.forall_mem_append] at names
      rcases names with ⟨⟨shared, hasClass⟩, endpoints⟩
      refine .append (admitsAll_identifiable shared rfl rfl rfl rfl) ?_
      simp only [AdmitsAll, List.forall_mem_cons]
      exact ⟨⟨_, rfl, admits_identifier hasClass⟩, ⟨_, rfl, admits_identifiers endpoints⟩, List.forall_mem_nil _⟩
  | entityClass e =>
      simp only [ItemData.names, List.forall_mem_append] at names
      rcases names with ⟨⟨⟨shared, properties⟩, hasClass⟩, targets⟩
      refine .append (.append (admitsAll_identifiable shared rfl rfl rfl rfl)
        (admitsAll_elementClass properties rfl rfl)) ?_
      simp only [AdmitsAll, List.forall_mem_cons]
      exact ⟨⟨_, rfl, admits_identifier hasClass⟩, ⟨_, rfl, admits_identifiers targets⟩, List.forall_mem_nil _⟩
  | relationshipClass r =>
      simp only [ItemData.names, List.forall_mem_append] at names
      rcases names with ⟨⟨⟨⟨shared, properties⟩, hasClass⟩, source⟩, target⟩
      refine .append (.append (admitsAll_identifiable shared rfl rfl rfl rfl)
        (admitsAll_elementClass properties rfl rfl)) ?_
      simp only [AdmitsAll, List.forall_mem_cons]
      exact ⟨⟨_, rfl, admits_identifier hasClass⟩, ⟨_, rfl, admits_identifier source⟩,
        ⟨_, rfl, admits_identifier target⟩, List.forall_mem_nil _⟩
  | entity e =>
      simp only [ItemData.names, List.forall_mem_append, List.forall_mem_cons] at names
      rcases names with ⟨⟨shared, own⟩, hasClass, targets⟩
      refine .append (.append (admitsAll_identifiable shared rfl rfl rfl rfl)
        (admitsAll_individual own rfl rfl rfl rfl rfl)) ?_
      simp only [AdmitsAll, List.forall_mem_cons]
      exact ⟨⟨_, rfl, admits_identifier (one hasClass)⟩, ⟨_, rfl, admits_links targets⟩, List.forall_mem_nil _⟩
  | relationship r =>
      simp only [ItemData.names, List.forall_mem_append, List.forall_mem_cons] at names
      rcases names with ⟨⟨⟨shared, own⟩, hasClass, sources⟩, targets⟩
      refine .append (.append (admitsAll_identifiable shared rfl rfl rfl rfl)
        (admitsAll_individual own rfl rfl rfl rfl rfl)) ?_
      simp only [AdmitsAll, List.forall_mem_cons]
      exact ⟨⟨_, rfl, admits_identifier (one hasClass)⟩, ⟨_, rfl, admits_links sources⟩,
        ⟨_, rfl, admits_links targets⟩, List.forall_mem_nil _⟩
  | property p =>
      simp only [ItemData.names, List.forall_mem_cons] at names
      simp only [AdmitsAll, Writing.content, Writing.propertyValue, List.forall_mem_cons]
      exact ⟨⟨_, rfl, admits_identifier (one names.1)⟩, ⟨_, rfl, admits_text (s := some p.value)⟩,
        ⟨_, rfl, admits_text⟩, List.forall_mem_nil _⟩
  | sourceLink l | targetLink l =>
      simp only [ItemData.names, List.forall_mem_cons] at names
      simp only [AdmitsAll, Writing.content, Writing.linkValue, List.forall_mem_cons]
      exact ⟨⟨_, rfl, admits_identifier (one names.1)⟩, ⟨_, rfl, admits_identifier (one names.2.1)⟩,
        List.forall_mem_nil _⟩

/-- A content conforms if all that it names has the form of identifiers. -/
theorem conforms_of_identifies {d : ItemData} (known : d.CountsKnown) (names : ∀ s ∈ d.names, Identifies s) :
    d.kind.Conforms d.toJson := by
  have all : AdmitsAll d.kind.shapes d.entries := by
    refine (admitsAll_content known names).append ?_
    simp only [AdmitsAll, List.forall_mem_cons]
    exact ⟨⟨_, d.kind.get?_shapes_itemType, fun _ made => Option.some.inj made.symm⟩, List.forall_mem_nil _⟩
  exact all.closed d.nodup_names_entries d.exists_required

end ItemData

namespace PackageHeader

/-- A header conforms if its identifier has the form of identifiers. -/
theorem conforms_of_identifies {h : PackageHeader} (names : ∀ s ∈ h.id.toList, Identifies s) :
    Kind.package.Conforms (.object h.fullFields) := by
  have all : AdmitsAll Kind.package.shapes h.fullEntries := by
    refine .append ?_ ?_
    · simp only [AdmitsAll, entries, List.forall_mem_cons]
      exact ⟨⟨_, rfl, admits_identifier names⟩, ⟨_, rfl, admits_texts⟩, ⟨_, rfl, admits_texts⟩, ⟨_, rfl, admits_text⟩,
        ⟨_, rfl, admits_text⟩, List.forall_mem_nil _⟩
    · simp only [AdmitsAll, List.forall_mem_cons]
      exact ⟨⟨_, rfl, fun _ made => Option.some.inj made.symm⟩, List.forall_mem_nil _⟩
  refine all.closed h.nodup_names_fullEntries fun name needed => ?_
  cases List.mem_singleton.mp needed
  exact ⟨_, List.mem_append_right _ List.mem_cons_self⟩

/-- Every field of a header that conforms is written in the form of its shape. -/
theorem written_fullFields {h : PackageHeader} (conforms : Kind.package.Conforms (.object h.fullFields)) :
    ∀ f ∈ h.fullFields, ∃ shape, Kind.package.shapes.get? f.1 = some shape ∧ shape.Written f.2 := by
  refine Kind.written_of_conforms conforms ?_
  simp only [WritesAll, entries, List.forall_mem_cons]
  exact ⟨⟨_, rfl, writes_identifier⟩, ⟨_, rfl, writes_texts⟩, ⟨_, rfl, writes_texts⟩, ⟨_, rfl, writes_text⟩,
    ⟨_, rfl, writes_text⟩, List.forall_mem_nil _⟩

end PackageHeader
end ProductGraph
