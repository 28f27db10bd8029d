import ProductGraph.Item.Reading
import ProductGraph.Item.Writing
import ProductGraph.Proofs.Keyed
import ProductGraph.Proofs.Outcome

namespace ProductGraph

/-!
# Contents written and read back

A content that is written as a value is read back as it was.  The one condition is that its counts are numbers that
the reader knows, which every count that was ever read is.

What is written under the names of a content is found there again, because no name is used twice.  The readers are
then followed one by one, each with what it finds under its name.
-/

/-! ## What is found under a name -/

namespace Writing

/-- An object has, under each name of some entries, what the entry says. -/
def Holds (fields : Fields) (entries : Entries) : Prop := ∀ e ∈ entries, fields.get? e.1 = e.2

theorem sorted_fieldsOf (entries : Entries) : Keyed.Sorted (fieldsOf entries) := Keyed.sorted_ofList _

theorem get?_fieldsOf {entries : Entries} (distinct : (Keyed.names entries).Nodup) (name : String) :
    (fieldsOf entries).get? name = (Keyed.get? entries name).join := by
  have kept : (Keyed.names (entries.filterMap fun e => e.2.map fun value => (e.1, value))).Nodup := by
    apply List.Nodup.sublist _ distinct
    have sub : ∀ list : Entries,
        (Keyed.names (list.filterMap fun e => e.2.map fun value => (e.1, value))).Sublist (Keyed.names list) := by
      intro list
      induction list with
      | nil => exact .slnil
      | cons e rest ih =>
          rcases e with ⟨name, _ | value⟩
          · exact ih.cons _
          · exact ih.cons_cons _
    exact sub entries
  rw [fieldsOf, Keyed.get?_ofList kept, Keyed.get?_filterMap distinct fun _ value => value]
  cases Keyed.get? entries name <;> rfl

theorem holds_fieldsOf {entries : Entries} (distinct : (Keyed.names entries).Nodup) :
    Holds (fieldsOf entries) entries := by
  intro e member
  rw [get?_fieldsOf distinct, Keyed.get?_of_mem distinct member, Option.join_some]

theorem Holds.append_left {fields : Fields} {first second : Entries} (holds : Holds fields (first ++ second)) :
    Holds fields first :=
  fun e member => holds e (List.mem_append_left _ member)

theorem Holds.append_right {fields : Fields} {first second : Entries} (holds : Holds fields (first ++ second)) :
    Holds fields second :=
  fun e member => holds e (List.mem_append_right _ member)

theorem mem_fieldsOf {entries : Entries} {f : String × Json} (member : f ∈ fieldsOf entries) :
    (f.1, some f.2) ∈ entries := by
  rcases List.mem_filterMap.mp (Keyed.mem_ofList member) with ⟨e, inEntries, made⟩
  rcases Option.map_eq_some_iff.mp made with ⟨value, value_eq, rfl⟩
  exact value_eq ▸ inEntries

theorem items?_unlessEmpty {α : Type} (write : α → Json) (list : List α) :
    ((unlessEmpty write list).bind Json.items?).getD [] = list.map write := by
  cases list <;> rfl

/-- A list that holds something is written. -/
theorem unlessEmpty_of_mem {α : Type} (write : α → Json) {list : List α} {a : α} (member : a ∈ list) :
    unlessEmpty write list = some (.array (list.map write)) := by
  cases list with
  | nil => cases member
  | cons => rfl

theorem unlessEmpty_map {α β : Type} (write : β → Json) (f : α → β) (list : List α) :
    unlessEmpty write (list.map f) = unlessEmpty (fun a => write (f a)) list := by
  cases list with
  | nil => rfl
  | cons a rest =>
      simp only [unlessEmpty, List.map_cons, List.map_map]
      rfl

/-! ## Small structures, their fields in order -/

theorem languageText_eq (t : LanguageText) :
    languageText t =
      .object ((t.lang.map fun lang => ("lang", Json.string lang)).toList ++ [("value", .string t.value)]) := by
  have order : "lang" < "value" := by decide
  rcases t with ⟨value, _ | lang⟩ <;>
    simp [languageText, fieldsOf, text?, Keyed.ofList, Keyed.insertAll, Keyed.insert_nil, Keyed.insert_below order]

theorem embeddedProperty_eq (p : PropertyValue) :
    embeddedProperty p =
      .object (("hasClass", .string p.hasClass) ::
        ((p.lang.map fun lang => ("lang", Json.string lang)).toList ++ [("value", .string p.value)])) := by
  have first : "hasClass" < "value" := by decide
  have second : "hasClass" < "lang" := by decide
  have third : "lang" < "value" := by decide
  rcases p with ⟨hasClass, value, _ | lang⟩ <;>
    simp [embeddedProperty, propertyValue, fieldsOf, text?, Keyed.ofList, Keyed.insertAll, Keyed.insert_nil,
      Keyed.insert_above first, Keyed.insert_above second, Keyed.insert_below third]

theorem embeddedLink_eq (l : LinkValue) :
    embeddedLink l = .object [("hasClass", .string l.hasClass), ("idRef", .string l.idRef)] := by
  have order : "hasClass" < "idRef" := by decide
  simp [embeddedLink, linkValue, fieldsOf, Keyed.ofList, Keyed.insertAll, Keyed.insert_nil, Keyed.insert_above order]

end Writing

/-! ## Readers of single fields -/

namespace Reading

variable {fields : Fields} {name : String}

theorem optional_none {α : Type} {read : Reader α} (absent : fields.get? name = none) :
    optional fields name read = .ok none := by
  rw [optional, field?, absent]
  rfl

theorem optional_some {α : Type} {read : Reader α} {v : Json} {a : α} (there : fields.get? name = some v)
    (notNull : v.isNull = false) (back : read v = .ok a) : optional fields name read = .ok (some a) := by
  have inner : orNull read v = .ok (some a) := by
    cases v with
    | null => cases notNull
    | _ => simp [orNull, back, Except.map]
  simp only [optional, field?, there, inner]
  rfl

theorem optional_text {s : Option String} (there : fields.get? name = Writing.text? s) :
    optional fields name text = .ok s := by
  cases s with
  | none => exact optional_none there
  | some s => exact optional_some there rfl rfl

theorem count_nat {n : Nat} (le : n ≤ unbounded) : count (.nat n) = .ok n := by
  have bounds : (0 : Int) ≤ n ∧ (n : Int) ≤ unbounded := ⟨Int.natCast_nonneg n, Int.ofNat_le.mpr le⟩
  rw [Json.nat, count, if_pos bounds, Int.toNat_natCast]

theorem optional_count {n : Option Nat} (there : fields.get? name = Writing.count? n)
    (le : ∀ m ∈ n, m ≤ unbounded) : optional fields name count = .ok n := by
  cases n with
  | none => exact optional_none there
  | some n => exact optional_some there rfl (count_nat (le n rfl))

theorem optional_real {x : Option Binary64} (there : fields.get? name = Writing.real? x) :
    optional fields name real = .ok x := by
  cases x with
  | none => exact optional_none there
  | some x => exact optional_some there rfl rfl

theorem list_map {α : Type} {read : Reader α} {write : α → Json} (back : ∀ a, read (write a) = .ok a) (as : List α) :
    list read (.array (as.map write)) = .ok as := by
  apply Outcome.mapM_eq_ok.mpr
  rw [List.forall₂_map_left_iff]
  exact List.forall₂_same.mpr fun a _ => back a

theorem optional_texts {list : Option (List String)} (there : fields.get? name = list.map Writing.texts) :
    optional fields name (Reading.list text) = .ok list := by
  cases list with
  | none => exact optional_none there
  | some list => exact optional_some there rfl (list_map (fun s => (rfl : text (.string s) = .ok s)) list)

theorem listField_unlessEmpty {α : Type} {read : Reader α} {write : α → Json} (back : ∀ a, read (write a) = .ok a)
    {as : List α} (there : fields.get? name = Writing.unlessEmpty write as) : listField fields name read = .ok as := by
  cases as with
  | nil =>
      have absent : fields.get? name = none := there
      rw [listField, field?, absent]
      rfl
  | cons a rest =>
      have present : fields.get? name = some (.array ((a :: rest).map write)) := there
      simp only [listField, field?, present, list_map back]
      rfl

theorem field?_text {s : String} (there : fields.get? name = some (.string s)) :
    field? fields name text = .ok (some s) := by
  rw [field?, there]
  rfl

/-! ## Readers of small structures -/

open Writing (Holds holds_fieldsOf)

theorem languageText_back (route : Route) (t : LanguageText) :
    languageText route (Writing.languageText t) = .ok t := by
  have distinct : ["value", "lang"].Nodup := by decide
  have holds : Holds _ [("value", some (.string t.value)), ("lang", Writing.text? t.lang)] := holds_fieldsOf distinct
  have value := field?_text (holds ("value", _) List.mem_cons_self)
  have lang := optional_text (holds ("lang", _) (List.mem_cons_of_mem _ List.mem_cons_self))
  simp only [languageText, Writing.languageText, lang, value]
  rfl

theorem propertyValue_of_holds {fields : Fields} {p : PropertyValue} (holds : Holds fields (Writing.propertyValue p))
    (route : Route) : propertyValue route (.object fields) = .ok p := by
  simp only [Holds, Writing.propertyValue, List.forall_mem_cons] at holds
  rcases holds with ⟨hasClass, value, lang, _⟩
  simp only [propertyValue, field?_text hasClass, field?_text value, optional_text lang]
  rfl

theorem linkValue_of_holds {fields : Fields} {l : LinkValue} (holds : Holds fields (Writing.linkValue l))
    (route : Route) : linkValue route (.object fields) = .ok l := by
  simp only [Holds, Writing.linkValue, List.forall_mem_cons] at holds
  rcases holds with ⟨hasClass, idRef, _⟩
  simp only [linkValue, field?_text hasClass, field?_text idRef]
  rfl

theorem embeddedProperty_back (route : Route) (p : PropertyValue) :
    propertyValue route (Writing.embeddedProperty p) = .ok p :=
  propertyValue_of_holds (holds_fieldsOf (show ["hasClass", "value", "lang"].Nodup by decide)) route

theorem embeddedLink_back (route : Route) (l : LinkValue) : linkValue route (Writing.embeddedLink l) = .ok l :=
  linkValue_of_holds (holds_fieldsOf (show ["hasClass", "idRef"].Nodup by decide)) route

/-! ## Readers of shared parts -/

theorem identifiable_of_holds {fields : Fields} {i : Identifiable} (holds : Holds fields (Writing.identifiable i)) :
    identifiable fields = .ok i := by
  simp only [Holds, Writing.identifiable, List.forall_mem_cons] at holds
  rcases holds with ⟨id, specializes, title, description, _⟩
  simp only [identifiable, field?_text id, optional_text specializes,
    listField_unlessEmpty (languageText_back .gathered) title,
    listField_unlessEmpty (languageText_back .gathered) description]
  rfl

theorem elementClass_of_holds {fields : Fields} {e : ElementClass} (holds : Holds fields (Writing.elementClass e)) :
    elementClass fields = .ok e := by
  simp only [Holds, Writing.elementClass, List.forall_mem_cons] at holds
  rcases holds with ⟨eligibleProperty, icon, _⟩
  simp only [elementClass, optional_texts eligibleProperty, optional_text icon]
  rfl

theorem text_back (s : String) : text (.string s) = .ok s := rfl

theorem individual_of_holds {fields : Fields} {i : Individual} (holds : Holds fields (Writing.individual i)) :
    individual fields = .ok i := by
  simp only [Holds, Writing.individual, List.forall_mem_cons] at holds
  rcases holds with ⟨revision, priorRevision, modified, creator, hasProperty, _⟩
  simp only [individual, optional_text revision, listField_unlessEmpty text_back priorRevision, optional_text modified,
    optional_text creator, listField_unlessEmpty (embeddedProperty_back .gathered) hasProperty]
  rfl

/-! ## Readers of contents -/

/-- The counts of a property class are numbers that the reader knows. -/
def CountsKnown (p : PropertyClass) : Prop :=
  (∀ n ∈ p.minCount, n ≤ unbounded) ∧ (∀ n ∈ p.maxCount, n ≤ unbounded) ∧ ∀ n ∈ p.maxLength, n ≤ unbounded

theorem propertyClass_of_holds {fields : Fields} {p : PropertyClass} (holds : Holds fields (Writing.propertyClass p))
    (known : CountsKnown p) : propertyClass fields = .ok p := by
  have shared := identifiable_of_holds holds.append_left
  have own := holds.append_right
  simp only [Holds, List.forall_mem_cons] at own
  rcases own with ⟨hasClass, datatype, minCount, maxCount, maxLength, pattern, minInclusive, maxInclusive, composed, _⟩
  simp only [propertyClass, shared, optional_text hasClass, optional_text datatype, optional_count minCount known.1,
    optional_count maxCount known.2.1, optional_count maxLength known.2.2, optional_text pattern,
    optional_real minInclusive, optional_real maxInclusive, optional_texts composed]
  rfl

theorem linkClass_of_holds {fields : Fields} {l : LinkClass} (holds : Holds fields (Writing.linkClass l)) :
    linkClass fields = .ok l := by
  have shared := identifiable_of_holds holds.append_left
  have own := holds.append_right
  simp only [Holds, List.forall_mem_cons] at own
  rcases own with ⟨hasClass, eligibleEndpoint, _⟩
  simp only [linkClass, shared, optional_text hasClass, optional_texts eligibleEndpoint]
  rfl

theorem entityClass_of_holds {fields : Fields} {e : EntityClass} (holds : Holds fields (Writing.entityClass e)) :
    entityClass fields = .ok e := by
  have shared := identifiable_of_holds holds.append_left.append_left
  have element := elementClass_of_holds holds.append_left.append_right
  have own := holds.append_right
  simp only [Holds, List.forall_mem_cons] at own
  rcases own with ⟨hasClass, eligibleTargetLink, _⟩
  simp only [entityClass, shared, element, optional_text hasClass, optional_texts eligibleTargetLink]
  rfl

theorem relationshipClass_of_holds {fields : Fields} {r : RelationshipClass}
    (holds : Holds fields (Writing.relationshipClass r)) : relationshipClass fields = .ok r := by
  have shared := identifiable_of_holds holds.append_left.append_left
  have element := elementClass_of_holds holds.append_left.append_right
  have own := holds.append_right
  simp only [Holds, List.forall_mem_cons] at own
  rcases own with ⟨hasClass, eligibleSourceLink, eligibleTargetLink, _⟩
  simp only [relationshipClass, shared, element, optional_text hasClass, optional_text eligibleSourceLink,
    optional_text eligibleTargetLink]
  rfl

theorem entity_of_holds {fields : Fields} {e : Entity} (holds : Holds fields (Writing.entity e)) :
    entity fields = .ok e := by
  have shared := identifiable_of_holds holds.append_left.append_left
  have individual := individual_of_holds holds.append_left.append_right
  have own := holds.append_right
  simp only [Holds, List.forall_mem_cons] at own
  rcases own with ⟨hasClass, hasTargetLink, _⟩
  simp only [entity, shared, individual, field?_text hasClass,
    listField_unlessEmpty (embeddedLink_back .direct) hasTargetLink]
  rfl

theorem relationship_of_holds {fields : Fields} {r : Relationship} (holds : Holds fields (Writing.relationship r)) :
    relationship fields = .ok r := by
  have shared := identifiable_of_holds holds.append_left.append_left
  have individual := individual_of_holds holds.append_left.append_right
  have own := holds.append_right
  simp only [Holds, List.forall_mem_cons] at own
  rcases own with ⟨hasClass, hasSourceLink, hasTargetLink, _⟩
  simp only [relationship, shared, individual, field?_text hasClass,
    listField_unlessEmpty (embeddedLink_back .direct) hasSourceLink,
    listField_unlessEmpty (embeddedLink_back .direct) hasTargetLink]
  rfl

end Reading

namespace Kind

/-- The names that contents of a kind are written under, in the order in which they are. -/
def contentNames : Kind → List String
  | propertyClass =>
    ["id", "specializes", "title", "description", "hasClass", "datatype", "minCount", "maxCount", "maxLength",
     "pattern", "minInclusive", "maxInclusive", "composedProperty"]
  | linkClass => ["id", "specializes", "title", "description", "hasClass", "eligibleEndpoint"]
  | entityClass =>
    ["id", "specializes", "title", "description", "eligibleProperty", "icon", "hasClass", "eligibleTargetLink"]
  | relationshipClass =>
    ["id", "specializes", "title", "description", "eligibleProperty", "icon", "hasClass", "eligibleSourceLink",
     "eligibleTargetLink"]
  | entityInstance =>
    ["id", "specializes", "title", "description", "revision", "priorRevision", "modified", "creator", "hasProperty",
     "hasClass", "hasTargetLink"]
  | relationshipInstance =>
    ["id", "specializes", "title", "description", "revision", "priorRevision", "modified", "creator", "hasProperty",
     "hasClass", "hasSourceLink", "hasTargetLink"]
  | propertyValue => ["hasClass", "value", "lang"]
  | sourceLinkValue | targetLinkValue => ["hasClass", "idRef"]
  | package => []

end Kind

namespace ItemData

/-- What a content is written as, its kind included. -/
def entries (d : ItemData) : Writing.Entries := Writing.content d ++ [("itemType", some (.string d.kind.tag))]

/-- The fields that a content is written as. -/
def fields (d : ItemData) : Fields := Writing.fieldsOf d.entries

theorem toJson_eq (d : ItemData) : d.toJson = .object d.fields := rfl

theorem names_entries (d : ItemData) : Keyed.names d.entries = d.kind.contentNames ++ ["itemType"] := by
  cases d <;> rfl

theorem nodup_names_entries (d : ItemData) : (Keyed.names d.entries).Nodup := by
  have distinct : ∀ kind : Kind, (kind.contentNames ++ ["itemType"]).Nodup := by
    intro kind
    cases kind <;> decide
  rw [names_entries]
  exact distinct d.kind

theorem holds_entries (d : ItemData) : Writing.Holds d.fields d.entries := Writing.holds_fieldsOf d.nodup_names_entries

theorem get?_fields (d : ItemData) (name : String) : d.fields.get? name = (Keyed.get? d.entries name).join :=
  Writing.get?_fieldsOf d.nodup_names_entries name

theorem get?_hasProperty (d : ItemData) :
    d.fields.get? "hasProperty" = Writing.unlessEmpty Writing.embeddedProperty d.properties := by
  rw [get?_fields]
  cases d <;> rfl

theorem get?_hasSourceLink (d : ItemData) :
    d.fields.get? "hasSourceLink" = Writing.unlessEmpty Writing.embeddedLink d.sourceLinks := by
  rw [get?_fields]
  cases d <;> rfl

theorem get?_hasTargetLink (d : ItemData) :
    d.fields.get? "hasTargetLink" = Writing.unlessEmpty Writing.embeddedLink d.targetLinks := by
  rw [get?_fields]
  cases d <;> rfl

theorem get?_title (d : ItemData) :
    d.fields.get? "title" = Writing.unlessEmpty Writing.languageText ((d.identifiable.map (·.title)).getD []) := by
  rw [get?_fields]
  cases d <;> rfl

theorem get?_description (d : ItemData) :
    d.fields.get? "description" =
      Writing.unlessEmpty Writing.languageText ((d.identifiable.map (·.description)).getD []) := by
  rw [get?_fields]
  cases d <;> rfl

theorem get?_icon (d : ItemData) :
    d.fields.get? "icon" = Writing.text? (d.element.bind (·.icon)) := by
  rw [get?_fields]
  cases d <;> rfl

theorem get?_revision (d : ItemData) :
    d.fields.get? "revision" = Writing.text? (d.individual.bind (·.revision)) := by
  rw [get?_fields]
  cases d <;> rfl

theorem get?_priorRevision (d : ItemData) :
    d.fields.get? "priorRevision" = Writing.unlessEmpty .string ((d.individual.map (·.priorRevision)).getD []) := by
  rw [get?_fields]
  cases d <;> rfl

theorem get?_modified (d : ItemData) :
    d.fields.get? "modified" = Writing.text? (d.individual.bind (·.modified)) := by
  rw [get?_fields]
  cases d <;> rfl

theorem get?_creator (d : ItemData) :
    d.fields.get? "creator" = Writing.text? (d.individual.bind (·.creator)) := by
  rw [get?_fields]
  cases d <;> rfl

/-- The counts of a content are numbers that the reader knows. -/
def CountsKnown (d : ItemData) : Prop := ∀ p, d = .propertyClass p → Reading.CountsKnown p

instance (p : PropertyClass) : Decidable (Reading.CountsKnown p) := inferInstanceAs (Decidable (_ ∧ _ ∧ _))

instance (d : ItemData) : Decidable d.CountsKnown :=
  match d with
  | .propertyClass p =>
    have same : Reading.CountsKnown p ↔ CountsKnown (.propertyClass p) :=
      ⟨by rintro known _ ⟨⟩; exact known, fun known => known p rfl⟩
    decidable_of_iff _ same
  | .linkClass _ | .entityClass _ | .relationshipClass _ | .entity _ | .relationship _ | .property _ | .sourceLink _
  | .targetLink _ => isTrue (by rintro _ ⟨⟩)

/-- A content is read back from what it was written as. -/
theorem ofJson_toJson {d : ItemData} (known : d.CountsKnown) : ofJson d.kind d.toJson = .ok d := by
  have holds := d.holds_entries.append_left
  rw [toJson_eq]
  cases d with
  | propertyClass p =>
      exact Outcome.map_eq_ok.mpr ⟨p, Reading.propertyClass_of_holds holds (known p rfl), rfl⟩
  | linkClass l => exact Outcome.map_eq_ok.mpr ⟨l, Reading.linkClass_of_holds holds, rfl⟩
  | entityClass e => exact Outcome.map_eq_ok.mpr ⟨e, Reading.entityClass_of_holds holds, rfl⟩
  | relationshipClass r => exact Outcome.map_eq_ok.mpr ⟨r, Reading.relationshipClass_of_holds holds, rfl⟩
  | entity e => exact Outcome.map_eq_ok.mpr ⟨e, Reading.entity_of_holds holds, rfl⟩
  | relationship r => exact Outcome.map_eq_ok.mpr ⟨r, Reading.relationship_of_holds holds, rfl⟩
  | property p => exact Outcome.map_eq_ok.mpr ⟨p, Reading.propertyValue_of_holds holds .direct, rfl⟩
  | sourceLink l => exact Outcome.map_eq_ok.mpr ⟨l, Reading.linkValue_of_holds holds .direct, rfl⟩
  | targetLink l => exact Outcome.map_eq_ok.mpr ⟨l, Reading.linkValue_of_holds holds .direct, rfl⟩

end ItemData

namespace PackageHeader

/-- What a header is written as. -/
def entries (h : PackageHeader) : Writing.Entries :=
  [("id", Writing.text? h.id), ("title", Writing.unlessEmpty Writing.languageText h.title),
   ("description", Writing.unlessEmpty Writing.languageText h.description), ("modified", Writing.text? h.modified),
   ("creator", Writing.text? h.creator)]

theorem toFields_eq (h : PackageHeader) : h.toFields = Writing.fieldsOf h.entries := rfl

theorem nodup_names_entries (h : PackageHeader) : (Keyed.names h.entries).Nodup :=
  show ["id", "title", "description", "modified", "creator"].Nodup by decide

/-- A header is read back from an object that has what the header was written as. -/
theorem ofJson_of_holds {fields : Fields} {h : PackageHeader} (holds : Writing.Holds fields h.entries) :
    ofJson (.object fields) = .ok h := by
  simp only [Writing.Holds, entries, List.forall_mem_cons] at holds
  rcases holds with ⟨id, title, description, modified, creator, _⟩
  simp only [ofJson, Reading.optional_text id, Reading.optional_text modified, Reading.optional_text creator,
    Reading.listField_unlessEmpty (Reading.languageText_back .direct) title,
    Reading.listField_unlessEmpty (Reading.languageText_back .direct) description]
  rfl

end PackageHeader
end ProductGraph
