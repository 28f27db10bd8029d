import ProductGraph.Item.Basic
import ProductGraph.Proofs.Item.Writing
import ProductGraph.Proofs.Schema.Library

namespace ProductGraph

/-!
# Contents written conform

A content that was read from a value that conforms to its kind is written as a value that conforms again.  The two
values need not be the same: what is written leaves out what is empty or null and what a fragment says about its own
kind, and every bound on a value is written as a real number.  What is kept is the shape of each field.
-/

open Writing (Holds)

/-- If something is written under a name, something was there, and it keeps any shape that it is meant to have. -/
def Keeps (fields : Fields) (shape : Shape) (e : String × Option Json) : Prop :=
  ∀ written, e.2 = some written → ∃ v, fields.get? e.1 = some v ∧ (shape.Fits v → shape.Fits written)

/-- Every entry belongs to a field and keeps its shape. -/
def KeepsAll (fields : Fields) (shapes : Keyed Shape) (entries : Writing.Entries) : Prop :=
  ∀ e ∈ entries, ∃ shape, shapes.get? e.1 = some shape ∧ Keeps fields shape e

theorem KeepsAll.append {fields : Fields} {shapes : Keyed Shape} {first second : Writing.Entries}
    (keeps : KeepsAll fields shapes first) (alsoKeeps : KeepsAll fields shapes second) :
    KeepsAll fields shapes (first ++ second) := by
  intro e member
  rcases List.mem_append.mp member with inFirst | inSecond
  · exact keeps e inFirst
  · exact alsoKeeps e inSecond

namespace Reading

variable {fields : Fields} {name : String} {α : Type} {read : Reader α} {shape : Shape}

/-! ## What a reader that succeeds has found -/

theorem exists_of_field? {x : Option α} (given : field? fields name read = .ok x) :
    ∀ a, x = some a → ∃ v, fields.get? name = some v ∧ read v = .ok a := by
  rintro a rfl
  rw [field?] at given
  cases found : fields.get? name with
  | none => simp [found] at given
  | some v =>
      rw [found] at given
      rcases Outcome.map_eq_ok.mp given with ⟨b, done, made⟩
      cases made
      exact ⟨v, rfl, done⟩

theorem exists_of_present {x : Option α} {a : α} (given : field? fields name read = .ok x)
    (there : present name x = .ok a) : ∃ v, fields.get? name = some v ∧ read v = .ok a := by
  cases x with
  | none => cases there
  | some b =>
      cases there
      exact exists_of_field? given a rfl

theorem exists_of_optional {x : Option α} (given : optional fields name read = .ok x) :
    ∀ a, x = some a → ∃ v, fields.get? name = some v ∧ read v = .ok a := by
  rintro a rfl
  rcases Outcome.map_eq_ok.mp given with ⟨found, done, joined⟩
  rw [Option.join_eq_some_iff] at joined
  rcases exists_of_field? done _ joined with ⟨v, there, inner⟩
  refine ⟨v, there, ?_⟩
  cases v with
  | null => cases inner
  | _ =>
      rcases Outcome.map_eq_ok.mp inner with ⟨b, done, made⟩
      cases made
      exact done

theorem exists_of_listField {as : List α} (given : listField fields name read = .ok as) (nonempty : as ≠ []) :
    ∃ items, fields.get? name = some (.array items) ∧ List.Forall₂ (fun v a => read v = .ok a) items as := by
  rcases Outcome.map_eq_ok.mp given with ⟨found, done, made⟩
  cases found with
  | none => exact absurd made.symm nonempty
  | some list =>
      cases made
      rcases exists_of_field? done _ rfl with ⟨v, there, inner⟩
      cases v with
      | array items => exact ⟨items, there, Outcome.mapM_eq_ok.mp inner⟩
      | _ => cases inner

theorem eq_of_text {v : Json} {s : String} (given : text v = .ok s) : v = .string s := by
  cases v with
  | string t =>
      cases given
      rfl
  | _ => cases given

theorem eq_of_count {v : Json} {n : Nat} (given : count v = .ok n) : v = .nat n ∧ n ≤ unbounded := by
  cases v with
  | number m =>
      cases m with
      | integer m =>
          rw [count] at given
          split at given
          · rename_i bounds
            cases given
            exact ⟨congrArg (fun m => Json.number (.integer m)) (Int.toNat_of_nonneg bounds.1).symm,
              Int.toNat_le.mpr bounds.2⟩
          · cases given
      | real => cases given
  | _ => cases given

theorem eq_of_texts {items : List Json} {list : List String}
    (each : List.Forall₂ (fun v a => text v = .ok a) items list) : items = list.map .string := by
  induction each with
  | nil => rfl
  | cons head _ ih => rw [List.map_cons, eq_of_text head, ih]

/-! ## What is written for it -/

theorem keeps_text {s : Option String} (given : optional fields name text = .ok s) :
    Keeps fields shape (name, Writing.text? s) := by
  intro written made
  rcases Option.map_eq_some_iff.mp made with ⟨t, rfl, rfl⟩
  rcases exists_of_optional given t rfl with ⟨v, there, done⟩
  exact ⟨v, there, fun fits => eq_of_text done ▸ fits⟩

theorem keeps_present {x : Option String} {s : String} (given : field? fields name text = .ok x)
    (there : present name x = .ok s) : Keeps fields shape (name, some (.string s)) := by
  rintro written ⟨⟩
  rcases exists_of_present given there with ⟨v, there, done⟩
  exact ⟨v, there, fun fits => eq_of_text done ▸ fits⟩

theorem keeps_count {n : Option Nat} (given : optional fields name count = .ok n) :
    Keeps fields shape (name, Writing.count? n) := by
  intro written made
  rcases Option.map_eq_some_iff.mp made with ⟨m, rfl, rfl⟩
  rcases exists_of_optional given m rfl with ⟨v, there, done⟩
  exact ⟨v, there, fun fits => (eq_of_count done).1 ▸ fits⟩

theorem le_of_count {n : Option Nat} (given : optional fields name count = .ok n) : ∀ m ∈ n, m ≤ unbounded := by
  intro m known
  rcases exists_of_optional given m known with ⟨v, _, done⟩
  exact (eq_of_count done).2

theorem keeps_real {x : Option Binary64} (given : optional fields name real = .ok x) :
    Keeps fields .number (name, Writing.real? x) := by
  intro written made
  rcases Option.map_eq_some_iff.mp made with ⟨y, rfl, rfl⟩
  rcases exists_of_optional given y rfl with ⟨v, there, _⟩
  exact ⟨v, there, fun _ => ⟨_, rfl⟩⟩

theorem keeps_texts {list : Option (List String)} (given : optional fields name (Reading.list text) = .ok list) :
    Keeps fields shape (name, list.map Writing.texts) := by
  intro written made
  rcases Option.map_eq_some_iff.mp made with ⟨texts, rfl, rfl⟩
  rcases exists_of_optional given texts rfl with ⟨v, there, done⟩
  cases v with
  | array items =>
      have same : items = texts.map .string := eq_of_texts (Outcome.mapM_eq_ok.mp done)
      exact ⟨_, there, fun fits => by rwa [Writing.texts, ← same]⟩
  | _ => cases done

/-- A list that is written keeps a shape if each of its items does. -/
theorem keeps_listField {write : α → Json} {as : List α} (given : listField fields name read = .ok as)
    (keeps : ∀ items, List.Forall₂ (fun v a => read v = .ok a) items as →
      shape.Fits (.array items) → shape.Fits (.array (as.map write))) :
    Keeps fields shape (name, Writing.unlessEmpty write as) := by
  intro written made
  cases as with
  | nil => cases made
  | cons a rest =>
      cases made
      rcases exists_of_listField given (List.cons_ne_nil a rest) with ⟨items, there, each⟩
      exact ⟨_, there, keeps items each⟩

theorem keeps_textList {list : List String} (given : listField fields name text = .ok list) :
    Keeps fields shape (name, Writing.unlessEmpty .string list) :=
  keeps_listField given fun _ each fits => eq_of_texts each ▸ fits

end Reading

/-! ## Small structures -/

namespace Shape

open Schema (Each Closed)

/-- A structure is a closed object if its entries are of allowed shapes and the required ones are there. -/
theorem closed_fieldsOf {required : List String} {allowed : Keyed (Json → Prop)} {entries : Writing.Entries}
    (distinct : (Keyed.names entries).Nodup) (complete : ∀ name ∈ required, ∃ v, (name, some v) ∈ entries)
    (fits : ∀ e ∈ entries, ∀ v, e.2 = some v → ∃ P, allowed.get? e.1 = some P ∧ P v) :
    Closed required allowed (.object (Writing.fieldsOf entries)) := by
  refine ⟨_, rfl, ?_, ?_⟩
  · intro name needed
    rcases complete name needed with ⟨v, member⟩
    have found : Keyed.get? (Writing.fieldsOf entries) name = some v := Writing.holds_fieldsOf distinct _ member
    rw [Keyed.has, found]
    rfl
  · intro f member
    exact fits _ (Writing.mem_fieldsOf member) f.2 rfl

theorem isTextEntry_languageText (t : LanguageText) : IsTextEntry (Writing.languageText t) := by
  have distinct : ["value", "lang"].Nodup := by decide
  refine closed_fieldsOf distinct ?_ ?_
  · intro name needed
    cases List.mem_singleton.mp needed
    exact ⟨_, List.mem_cons_self⟩
  · simp only [List.forall_mem_cons]
    refine ⟨?_, ?_, by simp⟩
    · rintro v ⟨⟩
      exact ⟨IsText, rfl, t.value, rfl⟩
    · intro v made
      rcases Option.map_eq_some_iff.mp made with ⟨lang, _, rfl⟩
      exact ⟨IsText, rfl, lang, rfl⟩

theorem isProperty_embeddedProperty {p : PropertyValue} (named : IsIdentifier (.string p.hasClass)) :
    IsProperty (Writing.embeddedProperty p) := by
  have distinct : ["hasClass", "value", "lang"].Nodup := by decide
  refine closed_fieldsOf distinct ?_ ?_
  · intro name needed
    simp only [List.mem_cons, List.not_mem_nil, or_false] at needed
    rcases needed with rfl | rfl
    · exact ⟨_, List.mem_cons_self⟩
    · exact ⟨_, List.mem_cons_of_mem _ List.mem_cons_self⟩
  · simp only [Writing.propertyValue, List.forall_mem_cons]
    refine ⟨?_, ?_, ?_, by simp⟩
    · rintro v ⟨⟩
      exact ⟨IsIdentifier, rfl, named⟩
    · rintro v ⟨⟩
      exact ⟨IsText, rfl, p.value, rfl⟩
    · intro v made
      rcases Option.map_eq_some_iff.mp made with ⟨lang, _, rfl⟩
      exact ⟨IsText, rfl, lang, rfl⟩

theorem isLink_embeddedLink {l : LinkValue} (named : IsIdentifier (.string l.hasClass))
    (leads : IsIdentifier (.string l.idRef)) : IsLink (Writing.embeddedLink l) := by
  have distinct : ["hasClass", "idRef"].Nodup := by decide
  refine closed_fieldsOf distinct ?_ ?_
  · intro name needed
    simp only [List.mem_cons, List.not_mem_nil, or_false] at needed
    rcases needed with rfl | rfl
    · exact ⟨_, List.mem_cons_self⟩
    · exact ⟨_, List.mem_cons_of_mem _ List.mem_cons_self⟩
  · simp only [Writing.linkValue, List.forall_mem_cons]
    refine ⟨?_, ?_, by simp⟩
    · rintro v ⟨⟩
      exact ⟨IsIdentifier, rfl, named⟩
    · rintro v ⟨⟩
      exact ⟨IsIdentifier, rfl, leads⟩

/-- A field of a closed object that was read as a text has the property that belongs to its name. -/
theorem fits_of_closed {required : List String} {allowed : Keyed (Json → Prop)} {fields : Fields} {name : String}
    {P : Json → Prop} {v : Json} (closed : Closed required allowed (.object fields))
    (named : allowed.get? name = some P)
    (there : fields.get? name = some v) : P v := by
  rcases closed with ⟨_, ⟨⟩, _, known⟩
  rcases known _ (Keyed.mem_of_get? there) with ⟨Q, found, holds⟩
  rw [named] at found
  cases found
  exact holds

open Outcome (bind_eq_ok pure_eq_ok)

theorem isIdentifier_of_propertyValue {route : Route} {v : Json} {p : PropertyValue} (isProperty : IsProperty v)
    (given : Reading.propertyValue route v = .ok p) : IsIdentifier (.string p.hasClass) := by
  have closed := isProperty
  rcases isProperty with ⟨fields, rfl, _, _⟩
  rcases bind_eq_ok.mp given with ⟨hasClass, found, given⟩
  rcases bind_eq_ok.mp given with ⟨lang, _, given⟩
  rcases bind_eq_ok.mp given with ⟨value, _, given⟩
  rcases bind_eq_ok.mp given with ⟨c, present, given⟩
  rcases bind_eq_ok.mp given with ⟨_, _, given⟩
  cases given
  rcases Reading.exists_of_present found present with ⟨v, there, done⟩
  exact Reading.eq_of_text done ▸ fits_of_closed closed rfl there

theorem isIdentifier_of_linkValue {route : Route} {v : Json} {l : LinkValue} (isLink : IsLink v)
    (given : Reading.linkValue route v = .ok l) :
    IsIdentifier (.string l.hasClass) ∧ IsIdentifier (.string l.idRef) := by
  have closed := isLink
  rcases isLink with ⟨fields, rfl, _, _⟩
  rcases bind_eq_ok.mp given with ⟨hasClass, found, given⟩
  rcases bind_eq_ok.mp given with ⟨idRef, alsoFound, given⟩
  rcases bind_eq_ok.mp given with ⟨c, present, given⟩
  rcases bind_eq_ok.mp given with ⟨i, alsoPresent, given⟩
  cases given
  rcases Reading.exists_of_present found present with ⟨v, there, done⟩
  rcases Reading.exists_of_present alsoFound alsoPresent with ⟨w, alsoThere, alsoDone⟩
  exact ⟨Reading.eq_of_text done ▸ fits_of_closed closed rfl there,
    Reading.eq_of_text alsoDone ▸ fits_of_closed closed rfl alsoThere⟩

end Shape

namespace Reading

variable {fields : Fields} {name : String}

theorem keeps_languageTexts {route : Route} {entries : List LanguageText}
    (given : listField fields name (languageText route) = .ok entries) :
    Keeps fields .texts (name, Writing.unlessEmpty Writing.languageText entries) := by
  apply keeps_listField given
  intro _ _ _
  refine ⟨_, rfl, ?_⟩
  intro item member
  rcases List.mem_map.mp member with ⟨t, _, rfl⟩
  exact Shape.isTextEntry_languageText t

/-- Items that were read one by one, each from an item with a property. -/
theorem forall_mem_of_forall₂ {α : Type} {read : Reader α} {P : Json → Prop} {Q : α → Prop} {items : List Json}
    {as : List α} (each : List.Forall₂ (fun v a => read v = .ok a) items as) (fits : ∀ v ∈ items, P v)
    (step : ∀ v a, P v → read v = .ok a → Q a) : ∀ a ∈ as, Q a := by
  induction each with
  | nil => exact fun _ => nofun
  | cons head _ ih =>
      rw [List.forall_mem_cons] at fits ⊢
      exact ⟨step _ _ fits.1 head, ih fits.2⟩

theorem keeps_properties {route : Route} {values : List PropertyValue}
    (given : listField fields name (propertyValue route) = .ok values) :
    Keeps fields .properties (name, Writing.unlessEmpty Writing.embeddedProperty values) := by
  apply keeps_listField given
  rintro items each ⟨_, ⟨⟩, fits⟩
  refine ⟨_, rfl, List.forall_mem_map.mpr ?_⟩
  refine forall_mem_of_forall₂ each fits ?_
  intro v p isProperty done
  exact Shape.isProperty_embeddedProperty (Shape.isIdentifier_of_propertyValue isProperty done)

theorem keeps_links {route : Route} {links : List LinkValue}
    (given : listField fields name (linkValue route) = .ok links) :
    Keeps fields .links (name, Writing.unlessEmpty Writing.embeddedLink links) := by
  apply keeps_listField given
  rintro items each ⟨_, ⟨⟩, fits⟩
  refine ⟨_, rfl, List.forall_mem_map.mpr ?_⟩
  refine forall_mem_of_forall₂ each fits ?_
  intro v l isLink done
  have identifiers := Shape.isIdentifier_of_linkValue isLink done
  exact Shape.isLink_embeddedLink identifiers.1 identifiers.2

/-! ## Contents -/

open Outcome (bind_eq_ok)

variable {fields : Fields} {shapes : Keyed Shape}

theorem keepsAll_identifiable {i : Identifiable} (given : identifiable fields = .ok i)
    (id : shapes.get? "id" = some .identifier) (specializes : shapes.get? "specializes" = some .identifier)
    (title : shapes.get? "title" = some .texts) (description : shapes.get? "description" = some .texts) :
    KeepsAll fields shapes (Writing.identifiable i) := by
  rcases bind_eq_ok.mp given with ⟨descriptions, d, given⟩
  rcases bind_eq_ok.mp given with ⟨found, i, given⟩
  rcases bind_eq_ok.mp given with ⟨parent, s, given⟩
  rcases bind_eq_ok.mp given with ⟨titles, t, given⟩
  rcases bind_eq_ok.mp given with ⟨name, there, given⟩
  cases given
  simp only [KeepsAll, Writing.identifiable, List.forall_mem_cons]
  exact ⟨⟨_, id, keeps_present i there⟩, ⟨_, specializes, keeps_text s⟩, ⟨_, title, keeps_languageTexts t⟩,
    ⟨_, description, keeps_languageTexts d⟩, List.forall_mem_nil _⟩

theorem keepsAll_elementClass {e : ElementClass} (given : elementClass fields = .ok e)
    (eligibleProperty : shapes.get? "eligibleProperty" = some .identifiers) (icon : shapes.get? "icon" = some .text) :
    KeepsAll fields shapes (Writing.elementClass e) := by
  rcases bind_eq_ok.mp given with ⟨eligible, p, given⟩
  rcases bind_eq_ok.mp given with ⟨image, i, given⟩
  cases given
  simp only [KeepsAll, Writing.elementClass, List.forall_mem_cons]
  exact ⟨⟨_, eligibleProperty, keeps_texts p⟩, ⟨_, icon, keeps_text i⟩, List.forall_mem_nil _⟩

theorem keepsAll_individual {i : Individual} (given : individual fields = .ok i)
    (revision : shapes.get? "revision" = some .text) (priorRevision : shapes.get? "priorRevision" = some .textList)
    (modified : shapes.get? "modified" = some .text) (creator : shapes.get? "creator" = some .text)
    (hasProperty : shapes.get? "hasProperty" = some .properties) :
    KeepsAll fields shapes (Writing.individual i) := by
  rcases bind_eq_ok.mp given with ⟨author, c, given⟩
  rcases bind_eq_ok.mp given with ⟨values, p, given⟩
  rcases bind_eq_ok.mp given with ⟨time, m, given⟩
  rcases bind_eq_ok.mp given with ⟨before, b, given⟩
  rcases bind_eq_ok.mp given with ⟨now, r, given⟩
  cases given
  simp only [KeepsAll, Writing.individual, List.forall_mem_cons]
  exact ⟨⟨_, revision, keeps_text r⟩, ⟨_, priorRevision, keeps_textList b⟩, ⟨_, modified, keeps_text m⟩,
    ⟨_, creator, keeps_text c⟩, ⟨_, hasProperty, keeps_properties p⟩, List.forall_mem_nil _⟩

theorem keepsAll_propertyClass {p : PropertyClass} (given : propertyClass fields = .ok p) :
    KeepsAll fields Kind.propertyClass.shapes (Writing.propertyClass p) ∧ CountsKnown p := by
  rcases bind_eq_ok.mp given with ⟨composed, c, given⟩
  rcases bind_eq_ok.mp given with ⟨term, d, given⟩
  rcases bind_eq_ok.mp given with ⟨root, h, given⟩
  rcases bind_eq_ok.mp given with ⟨most, mc, given⟩
  rcases bind_eq_ok.mp given with ⟨greatest, mi, given⟩
  rcases bind_eq_ok.mp given with ⟨longest, ml, given⟩
  rcases bind_eq_ok.mp given with ⟨fewest, nc, given⟩
  rcases bind_eq_ok.mp given with ⟨smallest, ni, given⟩
  rcases bind_eq_ok.mp given with ⟨form, pt, given⟩
  rcases bind_eq_ok.mp given with ⟨i, shared, given⟩
  cases given
  refine ⟨.append (keepsAll_identifiable shared rfl rfl rfl rfl) ?_, le_of_count nc, le_of_count mc, le_of_count ml⟩
  simp only [KeepsAll, List.forall_mem_cons]
  exact ⟨⟨_, rfl, keeps_text h⟩, ⟨_, rfl, keeps_text d⟩, ⟨_, rfl, keeps_count nc⟩, ⟨_, rfl, keeps_count mc⟩,
    ⟨_, rfl, keeps_count ml⟩, ⟨_, rfl, keeps_text pt⟩, ⟨_, rfl, keeps_real ni⟩, ⟨_, rfl, keeps_real mi⟩,
    ⟨_, rfl, keeps_texts c⟩, List.forall_mem_nil _⟩

theorem keepsAll_linkClass {l : LinkClass} (given : linkClass fields = .ok l) :
    KeepsAll fields Kind.linkClass.shapes (Writing.linkClass l) := by
  rcases bind_eq_ok.mp given with ⟨endpoints, e, given⟩
  rcases bind_eq_ok.mp given with ⟨root, h, given⟩
  rcases bind_eq_ok.mp given with ⟨i, shared, given⟩
  cases given
  refine .append (keepsAll_identifiable shared rfl rfl rfl rfl) ?_
  simp only [KeepsAll, List.forall_mem_cons]
  exact ⟨⟨_, rfl, keeps_text h⟩, ⟨_, rfl, keeps_texts e⟩, List.forall_mem_nil _⟩

theorem keepsAll_entityClass {e : EntityClass} (given : entityClass fields = .ok e) :
    KeepsAll fields Kind.entityClass.shapes (Writing.entityClass e) := by
  rcases bind_eq_ok.mp given with ⟨links, t, given⟩
  rcases bind_eq_ok.mp given with ⟨root, h, given⟩
  rcases bind_eq_ok.mp given with ⟨i, shared, given⟩
  rcases bind_eq_ok.mp given with ⟨e, element, given⟩
  cases given
  refine .append (.append (keepsAll_identifiable shared rfl rfl rfl rfl) (keepsAll_elementClass element rfl rfl)) ?_
  simp only [KeepsAll, List.forall_mem_cons]
  exact ⟨⟨_, rfl, keeps_text h⟩, ⟨_, rfl, keeps_texts t⟩, List.forall_mem_nil _⟩

theorem keepsAll_relationshipClass {r : RelationshipClass} (given : relationshipClass fields = .ok r) :
    KeepsAll fields Kind.relationshipClass.shapes (Writing.relationshipClass r) := by
  rcases bind_eq_ok.mp given with ⟨source, s, given⟩
  rcases bind_eq_ok.mp given with ⟨target, t, given⟩
  rcases bind_eq_ok.mp given with ⟨root, h, given⟩
  rcases bind_eq_ok.mp given with ⟨i, shared, given⟩
  rcases bind_eq_ok.mp given with ⟨e, element, given⟩
  cases given
  refine .append (.append (keepsAll_identifiable shared rfl rfl rfl rfl) (keepsAll_elementClass element rfl rfl)) ?_
  simp only [KeepsAll, List.forall_mem_cons]
  exact ⟨⟨_, rfl, keeps_text h⟩, ⟨_, rfl, keeps_text s⟩, ⟨_, rfl, keeps_text t⟩, List.forall_mem_nil _⟩

theorem keepsAll_entity {e : Entity} (given : entity fields = .ok e) :
    KeepsAll fields Kind.entityInstance.shapes (Writing.entity e) := by
  rcases bind_eq_ok.mp given with ⟨found, h, given⟩
  rcases bind_eq_ok.mp given with ⟨targets, t, given⟩
  rcases bind_eq_ok.mp given with ⟨c, there, given⟩
  rcases bind_eq_ok.mp given with ⟨i, shared, given⟩
  rcases bind_eq_ok.mp given with ⟨own, individual, given⟩
  cases given
  refine .append (.append (keepsAll_identifiable shared rfl rfl rfl rfl)
    (keepsAll_individual individual rfl rfl rfl rfl rfl)) ?_
  simp only [KeepsAll, List.forall_mem_cons]
  exact ⟨⟨_, rfl, keeps_present h there⟩, ⟨_, rfl, keeps_links t⟩, List.forall_mem_nil _⟩

theorem keepsAll_relationship {r : Relationship} (given : relationship fields = .ok r) :
    KeepsAll fields Kind.relationshipInstance.shapes (Writing.relationship r) := by
  rcases bind_eq_ok.mp given with ⟨found, h, given⟩
  rcases bind_eq_ok.mp given with ⟨sources, s, given⟩
  rcases bind_eq_ok.mp given with ⟨targets, t, given⟩
  rcases bind_eq_ok.mp given with ⟨c, there, given⟩
  rcases bind_eq_ok.mp given with ⟨i, shared, given⟩
  rcases bind_eq_ok.mp given with ⟨own, individual, given⟩
  cases given
  refine .append (.append (keepsAll_identifiable shared rfl rfl rfl rfl)
    (keepsAll_individual individual rfl rfl rfl rfl rfl)) ?_
  simp only [KeepsAll, List.forall_mem_cons]
  exact ⟨⟨_, rfl, keeps_present h there⟩, ⟨_, rfl, keeps_links s⟩, ⟨_, rfl, keeps_links t⟩, List.forall_mem_nil _⟩

theorem keepsAll_propertyValue {route : Route} {p : PropertyValue}
    (given : propertyValue route (.object fields) = .ok p) :
    KeepsAll fields Kind.propertyValue.shapes (Writing.propertyValue p) := by
  rcases bind_eq_ok.mp given with ⟨hasClass, h, given⟩
  rcases bind_eq_ok.mp given with ⟨lang, l, given⟩
  rcases bind_eq_ok.mp given with ⟨value, v, given⟩
  rcases bind_eq_ok.mp given with ⟨c, present, given⟩
  rcases bind_eq_ok.mp given with ⟨t, alsoPresent, given⟩
  cases given
  simp only [KeepsAll, Writing.propertyValue, List.forall_mem_cons]
  exact ⟨⟨_, rfl, keeps_present h present⟩, ⟨_, rfl, keeps_present v alsoPresent⟩, ⟨_, rfl, keeps_text l⟩,
    List.forall_mem_nil _⟩

theorem keepsAll_linkValue {route : Route} {l : LinkValue} (given : linkValue route (.object fields) = .ok l)
    (hasClass : shapes.get? "hasClass" = some .identifier) (idRef : shapes.get? "idRef" = some .identifier) :
    KeepsAll fields shapes (Writing.linkValue l) := by
  rcases bind_eq_ok.mp given with ⟨named, h, given⟩
  rcases bind_eq_ok.mp given with ⟨leads, i, given⟩
  rcases bind_eq_ok.mp given with ⟨c, present, given⟩
  rcases bind_eq_ok.mp given with ⟨t, alsoPresent, given⟩
  cases given
  simp only [KeepsAll, Writing.linkValue, List.forall_mem_cons]
  exact ⟨⟨_, hasClass, keeps_present h present⟩, ⟨_, idRef, keeps_present i alsoPresent⟩, List.forall_mem_nil _⟩

end Reading

/-- What is written for a kind, its tag included, conforms if it keeps the shapes of what conformed. -/
theorem Kind.conforms_of_keepsAll {kind : Kind} {fields : Fields} {entries : Writing.Entries}
    (conforms : kind.Conforms (.object fields)) (keeps : KeepsAll fields kind.shapes entries)
    (distinct : (Keyed.names (entries ++ [("itemType", some (Json.string kind.tag))])).Nodup)
    (complete : ∀ name ∈ kind.requiredFields,
      ∃ v, (name, some v) ∈ entries ++ [("itemType", some (Json.string kind.tag))]) :
    kind.Conforms (.object (Writing.fieldsOf (entries ++ [("itemType", some (.string kind.tag))]))) := by
  refine Shape.closed_fieldsOf distinct complete ?_
  intro e member v made
  rw [Keyed.get?_map _ fun _ shape => Shape.Fits shape]
  rcases List.mem_append.mp member with inContent | atEnd
  · rcases keeps e inContent with ⟨shape, named, kept⟩
    rcases kept v made with ⟨before, there, step⟩
    have property : Keyed.get? (kind.shapes.map fun s => (s.1, s.2.Fits)) e.1 = some shape.Fits := by
      rw [Keyed.get?_map _ fun _ shape => Shape.Fits shape, named, Option.map_some]
    exact ⟨_, by rw [named, Option.map_some], step (Shape.fits_of_closed conforms property there)⟩
  · cases List.mem_singleton.mp atEnd
    cases made
    have tag : kind.shapes.get? "itemType" = some (.exactly kind.tag) := by
      cases kind <;> rfl
    exact ⟨(Shape.exactly kind.tag).Fits, by rw [tag, Option.map_some], rfl⟩

namespace ItemData

theorem countsKnown_of_kind {d : ItemData} (other : d.kind ≠ .propertyClass) : d.CountsKnown := by
  rintro p rfl
  exact absurd rfl other

/-- What is written of a content that was read keeps the shapes of its kind. -/
theorem keepsAll_of_ofJson {kind : Kind} {fields : Fields} {d : ItemData}
    (given : ofJson kind (.object fields) = .ok d) :
    d.kind = kind ∧ KeepsAll fields kind.shapes (Writing.content d) ∧ d.CountsKnown := by
  cases kind with
  | propertyClass =>
      rcases Outcome.map_eq_ok.mp given with ⟨p, read, rfl⟩
      have keeps := Reading.keepsAll_propertyClass read
      exact ⟨rfl, keeps.1, by rintro _ ⟨⟩; exact keeps.2⟩
  | linkClass =>
      rcases Outcome.map_eq_ok.mp given with ⟨l, read, rfl⟩
      exact ⟨rfl, Reading.keepsAll_linkClass read, countsKnown_of_kind nofun⟩
  | entityClass =>
      rcases Outcome.map_eq_ok.mp given with ⟨e, read, rfl⟩
      exact ⟨rfl, Reading.keepsAll_entityClass read, countsKnown_of_kind nofun⟩
  | relationshipClass =>
      rcases Outcome.map_eq_ok.mp given with ⟨r, read, rfl⟩
      exact ⟨rfl, Reading.keepsAll_relationshipClass read, countsKnown_of_kind nofun⟩
  | entityInstance =>
      rcases Outcome.map_eq_ok.mp given with ⟨e, read, rfl⟩
      exact ⟨rfl, Reading.keepsAll_entity read, countsKnown_of_kind nofun⟩
  | relationshipInstance =>
      rcases Outcome.map_eq_ok.mp given with ⟨r, read, rfl⟩
      exact ⟨rfl, Reading.keepsAll_relationship read, countsKnown_of_kind nofun⟩
  | propertyValue =>
      rcases Outcome.map_eq_ok.mp given with ⟨p, read, rfl⟩
      exact ⟨rfl, Reading.keepsAll_propertyValue read, countsKnown_of_kind nofun⟩
  | sourceLinkValue =>
      rcases Outcome.map_eq_ok.mp given with ⟨l, read, rfl⟩
      exact ⟨rfl, Reading.keepsAll_linkValue read rfl rfl, countsKnown_of_kind nofun⟩
  | targetLinkValue =>
      rcases Outcome.map_eq_ok.mp given with ⟨l, read, rfl⟩
      exact ⟨rfl, Reading.keepsAll_linkValue read rfl rfl, countsKnown_of_kind nofun⟩
  | package => cases given

/-- The required fields of a kind are always written. -/
theorem exists_required (d : ItemData) : ∀ name ∈ d.kind.requiredFields, ∃ v, (name, some v) ∈ d.entries := by
  cases d <;>
    simp [kind, Kind.requiredFields, entries, Writing.content, Writing.propertyClass, Writing.linkClass,
      Writing.entityClass, Writing.relationshipClass, Writing.entity, Writing.relationship, Writing.propertyValue,
      Writing.linkValue, Writing.identifiable, Writing.individual, Writing.elementClass]

/-- A content that was read from a value that conforms is written as one that conforms. -/
theorem conforms_toJson {kind : Kind} {fields : Fields} {d : ItemData} (conforms : kind.Conforms (.object fields))
    (given : ofJson kind (.object fields) = .ok d) : d.kind.Conforms d.toJson := by
  rcases keepsAll_of_ofJson given with ⟨rfl, keeps, _⟩
  exact Kind.conforms_of_keepsAll conforms keeps d.nodup_names_entries d.exists_required

end ItemData

namespace PackageHeader

def fullEntries (h : PackageHeader) : Writing.Entries := h.entries ++ [("itemType", some (.string Kind.package.tag))]

/-- The fields that a header is written as, the kind of packages included. -/
def fullFields (h : PackageHeader) : Fields := Writing.fieldsOf h.fullEntries

theorem nodup_names_fullEntries (h : PackageHeader) : (Keyed.names h.fullEntries).Nodup :=
  show ["id", "title", "description", "modified", "creator", "itemType"].Nodup by decide

theorem withKind_toFields (h : PackageHeader) : Item.withKind .package h.toFields = h.fullFields := by
  have absent : Keyed.get? (Writing.fieldsOf h.entries) "itemType" = none := by
    rw [Writing.get?_fieldsOf h.nodup_names_entries]
    rfl
  rw [toFields_eq, Item.withKind, Keyed.has, absent, Option.isSome_none, if_neg (by decide)]
  apply ((Writing.sorted_fieldsOf _).insert _ _).ext (Writing.sorted_fieldsOf _)
  intro name
  rw [Keyed.get?_insert, Writing.get?_fieldsOf h.nodup_names_entries,
    Writing.get?_fieldsOf h.nodup_names_fullEntries, fullEntries, Keyed.get?_append]
  by_cases same : "itemType" = name
  · subst same
    rfl
  · rw [if_neg same, Keyed.get?_cons, if_neg same, Keyed.get?_nil, Option.or_none]

/-- A header that was read from a value that conforms is written as one that conforms. -/
theorem conforms_fullFields {fields : Fields} {h : PackageHeader} (conforms : Kind.package.Conforms (.object fields))
    (given : ofJson (.object fields) = .ok h) : Kind.package.Conforms (.object h.fullFields) := by
  rcases Outcome.bind_eq_ok.mp given with ⟨creator, c, given⟩
  rcases Outcome.bind_eq_ok.mp given with ⟨description, d, given⟩
  rcases Outcome.bind_eq_ok.mp given with ⟨id, i, given⟩
  rcases Outcome.bind_eq_ok.mp given with ⟨modified, m, given⟩
  rcases Outcome.bind_eq_ok.mp given with ⟨title, t, given⟩
  cases given
  refine Kind.conforms_of_keepsAll conforms ?_ (nodup_names_fullEntries _) ?_
  · simp only [KeepsAll, entries, List.forall_mem_cons]
    exact ⟨⟨_, rfl, Reading.keeps_text i⟩, ⟨_, rfl, Reading.keeps_languageTexts t⟩,
      ⟨_, rfl, Reading.keeps_languageTexts d⟩, ⟨_, rfl, Reading.keeps_text m⟩, ⟨_, rfl, Reading.keeps_text c⟩,
      List.forall_mem_nil _⟩
  · intro name needed
    cases List.mem_singleton.mp needed
    exact ⟨_, List.mem_append_right _ List.mem_cons_self⟩

end PackageHeader
end ProductGraph
