import ProductGraph.Document.Vocabulary
import ProductGraph.Proofs.Item.Identity

namespace ProductGraph

/-!
# What conforms can be read

A kind is described twice: by its schema and by the structure that its contents are read into.  A value that conforms
to the schema of its kind is a value that can be read, with two exceptions.  The header of a package has a schema but
is no content of an item, and a count that is written as a real number without a fraction is whole for the schema
but is not read.

So an item refuses a value that passes every check before reading in these two cases only.
-/

open Outcome (bind_eq_ok exists_bind map_eq_ok FailsOnly failsOnly_ok failsOnly_error)

namespace Reading

/-- A reader that reads every value with a property. -/
def Covers {α : Type} (P : Json → Prop) (read : Reader α) : Prop := ∀ v, P v → ∃ a, read v = .ok a

variable {α : Type} {P : Json → Prop} {read : Reader α} {fields : Fields} {name : String} {route : Route}

/-! ## Fields -/

theorem exists_field? (covers : Covers P read) (fits : ∀ v, fields.get? name = some v → P v) :
    ∃ x, field? fields name read = .ok x := by
  rw [field?]
  cases there : fields.get? name with
  | none => exact ⟨none, rfl⟩
  | some v =>
      rcases covers v (fits v there) with ⟨a, done⟩
      exact ⟨some a, map_eq_ok.mpr ⟨a, done, rfl⟩⟩

theorem exists_optional (covers : Covers P read) (fits : ∀ v, fields.get? name = some v → P v) :
    ∃ x, optional fields name read = .ok x := by
  have orNull_covers : Covers P (orNull read) := by
    intro v holds
    rcases covers v holds with ⟨a, done⟩
    cases v with
    | null => exact ⟨none, rfl⟩
    | _ => exact ⟨some a, map_eq_ok.mpr ⟨a, done, rfl⟩⟩
  rcases exists_field? orNull_covers fits with ⟨x, done⟩
  exact ⟨x.join, map_eq_ok.mpr ⟨x, done, rfl⟩⟩

/-- A list is read if each of its items is. -/
theorem covers_list (covers : Covers P read) : Covers (Schema.Each P) (list read) := by
  rintro _ ⟨items, rfl, each⟩
  exact Outcome.exists_mapM fun v member => covers v (each v member)

theorem exists_listField (covers : Covers P read)
    (fits : ∀ v, fields.get? name = some v → Schema.Each P v) : ∃ as, listField fields name read = .ok as := by
  rcases exists_field? (covers_list covers) fits with ⟨x, done⟩
  exact ⟨x.getD [], map_eq_ok.mpr ⟨x, done, rfl⟩⟩

/-- A field that is there is present once it has been read. -/
theorem exists_present {x : Option α} (has : fields.has name = true) (given : field? fields name read = .ok x) :
    ∃ a, present name x = .ok a := by
  rcases Option.isSome_iff_exists.mp has with ⟨v, there⟩
  rw [field?, there] at given
  rcases map_eq_ok.mp given with ⟨a, _, rfl⟩
  exact ⟨a, rfl⟩

/-! ## Values -/

theorem covers_text : Covers IsText text := by
  rintro _ ⟨s, rfl⟩
  exact ⟨s, rfl⟩

theorem covers_identifier : Covers IsIdentifier text := by
  rintro _ ⟨s, rfl, _⟩
  exact ⟨s, rfl⟩

theorem covers_real : Covers Shape.number.Fits real := by
  rintro _ ⟨n, rfl⟩
  cases n with
  | integer | real => exact ⟨_, rfl⟩

/-- A count is read if it is written as an integer. -/
theorem covers_count : Covers (fun v => IsCount v ∧ ∀ x, v ≠ .number (.real x)) count := by
  rintro _ ⟨⟨n, rfl, _, notBelow, notAbove⟩, notReal⟩
  cases n with
  | real x => exact absurd rfl (notReal x)
  | integer n =>
      have one : (0 : Int) < Binary64.one := Int.natCast_pos.mpr Binary64.one_pos
      have bounds : 0 ≤ n ∧ n ≤ unbounded :=
        ⟨Int.nonneg_of_mul_nonneg_left notBelow one, Int.le_of_mul_le_mul_right notAbove one⟩
      exact ⟨n.toNat, by rw [count, if_pos bounds]⟩

open Shape (fits_of_closed)
open Schema (Closed)

variable {required : List String} {allowed : Keyed (Json → Prop)}

theorem covers_languageText : Covers Shape.IsTextEntry (languageText route) := by
  intro v isEntry
  rcases isEntry.exists_object with ⟨fields, rfl⟩
  refine exists_bind (exists_optional covers_text fun _ there => fits_of_closed isEntry rfl there) fun _ _ => ?_
  refine exists_bind (exists_field? covers_text fun _ there => fits_of_closed isEntry rfl there) fun _ value => ?_
  refine exists_bind (exists_present (isEntry.has _ (by decide)) value) fun _ _ => ?_
  exact ⟨_, rfl⟩

/-- A property value can be read, alone or in an individual. -/
theorem exists_propertyValue (closed : Closed required allowed (.object fields))
    (needed : ∀ name ∈ ["hasClass", "value"], name ∈ required)
    (hasClass : allowed.get? "hasClass" = some IsIdentifier) (lang : allowed.get? "lang" = some IsText)
    (value : allowed.get? "value" = some IsText) : ∃ p, propertyValue route (.object fields) = .ok p := by
  refine exists_bind (exists_field? covers_identifier fun _ there => fits_of_closed closed hasClass there)
    fun _ named => ?_
  refine exists_bind (exists_optional covers_text fun _ there => fits_of_closed closed lang there) fun _ _ => ?_
  refine exists_bind (exists_field? covers_text fun _ there => fits_of_closed closed value there) fun _ given => ?_
  refine exists_bind (exists_present (closed.has _ (needed _ (by decide))) named) fun _ _ => ?_
  refine exists_bind (exists_present (closed.has _ (needed _ (by decide))) given) fun _ _ => ?_
  exact ⟨_, rfl⟩

theorem covers_propertyValue : Covers Shape.IsProperty (propertyValue route) := by
  intro v isProperty
  rcases isProperty.exists_object with ⟨fields, rfl⟩
  exact exists_propertyValue isProperty (by decide) rfl rfl rfl

/-- A link can be read, alone or in an individual. -/
theorem exists_linkValue (closed : Closed required allowed (.object fields))
    (needed : ∀ name ∈ ["hasClass", "idRef"], name ∈ required)
    (hasClass : allowed.get? "hasClass" = some IsIdentifier) (idRef : allowed.get? "idRef" = some IsIdentifier) :
    ∃ l, linkValue route (.object fields) = .ok l := by
  refine exists_bind (exists_field? covers_identifier fun _ there => fits_of_closed closed hasClass there)
    fun _ named => ?_
  refine exists_bind (exists_field? covers_identifier fun _ there => fits_of_closed closed idRef there)
    fun _ leads => ?_
  refine exists_bind (exists_present (closed.has _ (needed _ (by decide))) named) fun _ _ => ?_
  refine exists_bind (exists_present (closed.has _ (needed _ (by decide))) leads) fun _ _ => ?_
  exact ⟨_, rfl⟩

theorem covers_linkValue : Covers Shape.IsLink (linkValue route) := by
  intro v isLink
  rcases isLink.exists_object with ⟨fields, rfl⟩
  exact exists_linkValue isLink (by decide) rfl rfl

/-! ## Parts that kinds share -/

/-- Fields that have the shapes of their names, as far as they are there. -/
def FitAll (fields : Fields) (shapes : Keyed Shape) : Prop :=
  ∀ name shape, shapes.get? name = some shape → ∀ v, fields.get? name = some v → shape.Fits v

theorem fitAll_of_conforms {kind : Kind} (conforms : kind.Conforms (.object fields)) :
    FitAll fields kind.shapes := by
  intro name shape named v there
  refine fits_of_closed conforms ?_ there
  rw [Keyed.get?_map _ fun _ shape => Shape.Fits shape, named, Option.map_some]

variable {shapes : Keyed Shape}

theorem exists_identifiable (fits : FitAll fields shapes) (has : fields.has "id" = true)
    (id : shapes.get? "id" = some .identifier) (specializes : shapes.get? "specializes" = some .identifier)
    (title : shapes.get? "title" = some .texts) (description : shapes.get? "description" = some .texts) :
    ∃ i, identifiable fields = .ok i := by
  refine exists_bind (exists_listField covers_languageText (fits _ _ description)) fun _ _ => ?_
  refine exists_bind (exists_field? covers_identifier (fits _ _ id)) fun _ named => ?_
  refine exists_bind (exists_optional covers_identifier (fits _ _ specializes)) fun _ _ => ?_
  refine exists_bind (exists_listField covers_languageText (fits _ _ title)) fun _ _ => ?_
  refine exists_bind (exists_present has named) fun _ _ => ?_
  exact ⟨_, rfl⟩

theorem exists_elementClass (fits : FitAll fields shapes)
    (eligibleProperty : shapes.get? "eligibleProperty" = some .identifiers)
    (icon : shapes.get? "icon" = some .text) : ∃ e, elementClass fields = .ok e := by
  refine exists_bind (exists_optional (covers_list covers_identifier) (fits _ _ eligibleProperty)) fun _ _ => ?_
  refine exists_bind (exists_optional covers_text (fits _ _ icon)) fun _ _ => ?_
  exact ⟨_, rfl⟩

theorem exists_individual (fits : FitAll fields shapes) (creator : shapes.get? "creator" = some .text)
    (hasProperty : shapes.get? "hasProperty" = some .properties) (modified : shapes.get? "modified" = some .text)
    (priorRevision : shapes.get? "priorRevision" = some .textList)
    (revision : shapes.get? "revision" = some .text) : ∃ i, individual fields = .ok i := by
  refine exists_bind (exists_optional covers_text (fits _ _ creator)) fun _ _ => ?_
  refine exists_bind (exists_listField covers_propertyValue (fits _ _ hasProperty)) fun _ _ => ?_
  refine exists_bind (exists_optional covers_text (fits _ _ modified)) fun _ _ => ?_
  refine exists_bind (exists_listField covers_text (fits _ _ priorRevision)) fun _ _ => ?_
  refine exists_bind (exists_optional covers_text (fits _ _ revision)) fun _ _ => ?_
  exact ⟨_, rfl⟩

/-! ## Kinds -/

/-- A value that writes one of its counts as a real number without a fraction. -/
def HasRealCount (v : Json) : Prop :=
  ∃ name ∈ Vocabulary.countFields, ∃ x : Binary64, x.isWhole = true ∧ v.field? name = some (.number (.real x))

/-- A count that was read was not written as a real number. -/
theorem not_real_of_count {n : Option Nat} (given : optional fields name count = .ok n) (x : Binary64) :
    fields.get? name ≠ some (.number (.real x)) := by
  intro there
  rw [optional, field?, there] at given
  cases given

theorem exists_count (fits : FitAll fields shapes) (named : shapes.get? name = some .count)
    (isCount : name ∈ Vocabulary.countFields) (noReal : ¬HasRealCount (.object fields)) :
    ∃ n, optional fields name count = .ok n := by
  refine exists_optional covers_count fun v there => ?_
  have fit : IsCount v := fits name _ named v there
  refine ⟨fit, ?_⟩
  rintro x rfl
  rcases fit with ⟨_, ⟨⟩, whole, _⟩
  exact noReal ⟨name, isCount, x, whole, there⟩

/-- The definition of a property can be read exactly if it writes its counts as integers. -/
theorem exists_propertyClass_iff (conforms : Kind.propertyClass.Conforms (.object fields)) :
    (∃ p, propertyClass fields = .ok p) ↔ ¬HasRealCount (.object fields) := by
  have fits := fitAll_of_conforms conforms
  constructor
  · rintro ⟨p, given⟩ ⟨name, isCount, x, _, there⟩
    -- Fields are read by name, so the counts come fourth, sixth and seventh.
    rcases bind_eq_ok.mp given with ⟨_, _, given⟩
    rcases bind_eq_ok.mp given with ⟨_, _, given⟩
    rcases bind_eq_ok.mp given with ⟨_, _, given⟩
    rcases bind_eq_ok.mp given with ⟨_, most, given⟩
    rcases bind_eq_ok.mp given with ⟨_, _, given⟩
    rcases bind_eq_ok.mp given with ⟨_, longest, given⟩
    rcases bind_eq_ok.mp given with ⟨_, fewest, _⟩
    simp only [Vocabulary.countFields, List.mem_cons, List.not_mem_nil, or_false] at isCount
    rcases isCount with rfl | rfl | rfl
    · exact not_real_of_count fewest x there
    · exact not_real_of_count most x there
    · exact not_real_of_count longest x there
  · intro noReal
    refine exists_bind (exists_optional (covers_list covers_identifier) (fits _ .identifiers rfl)) fun _ _ => ?_
    refine exists_bind (exists_optional covers_identifier (fits _ .identifier rfl)) fun _ _ => ?_
    refine exists_bind (exists_optional covers_identifier (fits _ .identifier rfl)) fun _ _ => ?_
    refine exists_bind (exists_count fits rfl (by decide) noReal) fun _ _ => ?_
    refine exists_bind (exists_optional covers_real (fits _ .number rfl)) fun _ _ => ?_
    refine exists_bind (exists_count fits rfl (by decide) noReal) fun _ _ => ?_
    refine exists_bind (exists_count fits rfl (by decide) noReal) fun _ _ => ?_
    refine exists_bind (exists_optional covers_real (fits _ .number rfl)) fun _ _ => ?_
    refine exists_bind (exists_optional covers_text (fits _ .text rfl)) fun _ _ => ?_
    refine exists_bind (exists_identifiable fits (conforms.has _ (by decide)) rfl rfl rfl rfl)
      fun _ _ => ?_
    exact ⟨_, rfl⟩

theorem exists_linkClass (conforms : Kind.linkClass.Conforms (.object fields)) :
    ∃ l, linkClass fields = .ok l := by
  have fits := fitAll_of_conforms conforms
  refine exists_bind (exists_optional (covers_list covers_identifier) (fits _ .identifiers rfl)) fun _ _ => ?_
  refine exists_bind (exists_optional covers_identifier (fits _ .identifier rfl)) fun _ _ => ?_
  refine exists_bind (exists_identifiable fits (conforms.has _ (by decide)) rfl rfl rfl rfl) fun _ _ => ?_
  exact ⟨_, rfl⟩

theorem exists_entityClass (conforms : Kind.entityClass.Conforms (.object fields)) :
    ∃ e, entityClass fields = .ok e := by
  have fits := fitAll_of_conforms conforms
  refine exists_bind (exists_optional (covers_list covers_identifier) (fits _ .identifiers rfl)) fun _ _ => ?_
  refine exists_bind (exists_optional covers_identifier (fits _ .identifier rfl)) fun _ _ => ?_
  refine exists_bind (exists_identifiable fits (conforms.has _ (by decide)) rfl rfl rfl rfl) fun _ _ => ?_
  refine exists_bind (exists_elementClass fits rfl rfl) fun _ _ => ?_
  exact ⟨_, rfl⟩

theorem exists_relationshipClass (conforms : Kind.relationshipClass.Conforms (.object fields)) :
    ∃ r, relationshipClass fields = .ok r := by
  have fits := fitAll_of_conforms conforms
  refine exists_bind (exists_optional covers_identifier (fits _ .identifier rfl)) fun _ _ => ?_
  refine exists_bind (exists_optional covers_identifier (fits _ .identifier rfl)) fun _ _ => ?_
  refine exists_bind (exists_optional covers_identifier (fits _ .identifier rfl)) fun _ _ => ?_
  refine exists_bind (exists_identifiable fits (conforms.has _ (by decide)) rfl rfl rfl rfl) fun _ _ => ?_
  refine exists_bind (exists_elementClass fits rfl rfl) fun _ _ => ?_
  exact ⟨_, rfl⟩

theorem exists_entity (conforms : Kind.entityInstance.Conforms (.object fields)) : ∃ e, entity fields = .ok e := by
  have fits := fitAll_of_conforms conforms
  refine exists_bind (exists_field? covers_identifier (fits _ .identifier rfl)) fun _ hasClass => ?_
  refine exists_bind (exists_listField covers_linkValue (fits _ .links rfl)) fun _ _ => ?_
  refine exists_bind (exists_present (conforms.has _ (by decide)) hasClass) fun _ _ => ?_
  refine exists_bind (exists_identifiable fits (conforms.has _ (by decide)) rfl rfl rfl rfl) fun _ _ => ?_
  refine exists_bind (exists_individual fits rfl rfl rfl rfl rfl) fun _ _ => ?_
  exact ⟨_, rfl⟩

theorem exists_relationship (conforms : Kind.relationshipInstance.Conforms (.object fields)) :
    ∃ r, relationship fields = .ok r := by
  have fits := fitAll_of_conforms conforms
  refine exists_bind (exists_field? covers_identifier (fits _ .identifier rfl)) fun _ hasClass => ?_
  refine exists_bind (exists_listField covers_linkValue (fits _ .links rfl)) fun _ _ => ?_
  refine exists_bind (exists_listField covers_linkValue (fits _ .links rfl)) fun _ _ => ?_
  refine exists_bind (exists_present (conforms.has _ (by decide)) hasClass) fun _ _ => ?_
  refine exists_bind (exists_identifiable fits (conforms.has _ (by decide)) rfl rfl rfl rfl) fun _ _ => ?_
  refine exists_bind (exists_individual fits rfl rfl rfl rfl rfl) fun _ _ => ?_
  exact ⟨_, rfl⟩

end Reading

/-! ## Why an item is refused -/

namespace Validation

/-- A cause that says which rule an item breaks. -/
def BreaksRule (e : ItemError) : Prop := e.status = .invalidText ∨ e.status = .semanticViolation

theorem failsOnly_refuseIf {broken : Bool} {e : ItemError} (rule : BreaksRule e) :
    FailsOnly BreaksRule (refuseIf broken e) := by
  rw [refuseIf]
  split
  · exact failsOnly_error rule
  · exact failsOnly_ok ()

theorem failsOnly_textFrom (field : String) (count index : Nat) (entries : List LanguageText) :
    FailsOnly BreaksRule (textFrom field count index entries) := by
  induction entries generalizing index with
  | nil => exact failsOnly_ok ()
  | cons entry rest ih =>
      rw [textFrom]
      split
      · exact failsOnly_error (.inl rfl)
      · exact ih (index + 1)

theorem failsOnly_texts (i : Identifiable) : FailsOnly BreaksRule (texts i) :=
  .bind (failsOnly_textFrom _ _ _ _) fun _ => failsOnly_textFrom _ _ _ _

theorem failsOnly_classOrigin (d : ItemData) (i : Identifiable) : FailsOnly BreaksRule (classOrigin d i) := by
  rw [classOrigin]
  split
  · exact failsOnly_error (.inr rfl)
  · exact failsOnly_error (.inr rfl)
  · split
    · exact failsOnly_ok ()
    · exact failsOnly_error (.inr rfl)
  · exact failsOnly_ok ()

theorem failsOnly_noRepetition (id field : String) (entries : Option (List String)) :
    FailsOnly BreaksRule (noRepetition id field entries) := by
  rw [noRepetition]
  split
  · exact failsOnly_error (.inr rfl)
  · exact failsOnly_ok ()

theorem failsOnly_facets (p : PropertyClass) : FailsOnly BreaksRule (facets p) := by
  rw [facets]
  split
  · exact failsOnly_ok ()
  · refine .bind (failsOnly_refuseIf (.inr rfl)) fun _ => ?_
    refine .bind (failsOnly_refuseIf (.inr rfl)) fun _ => ?_
    refine .bind (failsOnly_refuseIf (.inr rfl)) fun _ => ?_
    exact failsOnly_refuseIf (.inr rfl)

theorem failsOnly_propertyClass (p : PropertyClass) : FailsOnly BreaksRule (propertyClass p) := by
  have counts : FailsOnly BreaksRule (countRange p) := by
    rw [countRange]
    split
    · exact failsOnly_refuseIf (.inr rfl)
    · exact failsOnly_ok ()
  have values : FailsOnly BreaksRule (inclusiveRange p) := by
    rw [inclusiveRange]
    split
    · exact failsOnly_refuseIf (.inr rfl)
    · exact failsOnly_ok ()
  have patternFails : FailsOnly BreaksRule (pattern p) := by
    rw [pattern]
    split
    · exact failsOnly_refuseIf (.inr rfl)
    · exact failsOnly_ok ()
  refine .bind counts fun _ => .bind values fun _ => .bind patternFails fun _ => ?_
  exact .bind (failsOnly_facets p) fun _ => failsOnly_noRepetition _ _ _

theorem failsOnly_individual (kind : Kind) (i : Identifiable) (own : Individual) :
    FailsOnly BreaksRule (individual kind i own) := by
  refine .bind (failsOnly_refuseIf (.inr rfl)) fun _ => ?_
  dsimp only
  split
  · refine .bind (failsOnly_refuseIf (.inr rfl)) fun _ => ?_
    split
    · exact failsOnly_refuseIf (.inr rfl)
    · exact failsOnly_ok ()
  · refine .bind (failsOnly_ok ()) fun _ => ?_
    split
    · exact failsOnly_refuseIf (.inr rfl)
    · exact failsOnly_ok ()

/-- A content that was read is refused only for a rule that it breaks. -/
theorem failsOnly_item (d : ItemData) : FailsOnly BreaksRule (item d) := by
  cases d with
  | propertyClass p =>
      refine .bind (failsOnly_texts _) fun _ => .bind (failsOnly_classOrigin _ _) fun _ => ?_
      exact failsOnly_propertyClass p
  | linkClass l =>
      refine .bind (failsOnly_texts _) fun _ => .bind (failsOnly_classOrigin _ _) fun _ => ?_
      exact failsOnly_noRepetition _ _ _
  | entityClass e =>
      refine .bind (failsOnly_texts _) fun _ => .bind (failsOnly_classOrigin _ _) fun _ => ?_
      exact .bind (failsOnly_noRepetition _ _ _) fun _ => failsOnly_noRepetition _ _ _
  | relationshipClass r =>
      refine .bind (failsOnly_texts _) fun _ => .bind (failsOnly_classOrigin _ _) fun _ => ?_
      exact failsOnly_noRepetition _ _ _
  | entity e => exact .bind (failsOnly_texts _) fun _ => failsOnly_individual _ _ _
  | relationship r =>
      refine .bind (failsOnly_texts _) fun _ => .bind (failsOnly_individual _ _ _) fun _ => ?_
      exact .bind (failsOnly_refuseIf (.inr rfl)) fun _ => failsOnly_refuseIf (.inr rfl)
  | property | sourceLink | targetLink => exact failsOnly_ok ()

end Validation

namespace Item

open Reading (HasRealCount)

/-- A value that conforms to its kind can be read, unless it is the header of a package or writes a count as a real
number. -/
theorem exists_ofJson_iff {kind : Kind} {v : Json} (conforms : kind.Conforms v) :
    (∃ d, ItemData.ofJson kind v = .ok d) ↔ ¬(kind = .package ∨ HasRealCount v) := by
  rcases conforms.exists_object with ⟨fields, rfl⟩
  -- Only the definition of a property has counts at all.
  have noCounts : kind ≠ .propertyClass → ¬HasRealCount (.object fields) := by
    rintro other ⟨name, isCount, x, _, there⟩
    have unshaped : ∀ k ∈ Kind.all, k ≠ .propertyClass → ∀ c ∈ Vocabulary.countFields, k.shapes.get? c = none := by
      decide
    rcases conforms with ⟨_, ⟨⟩, _, known⟩
    rcases known _ (Keyed.mem_of_get? there) with ⟨P, found, _⟩
    rw [Keyed.get?_map _ fun _ shape => Shape.Fits shape,
      unshaped kind kind.mem_all other name isCount] at found
    cases found
  cases kind with
  | propertyClass =>
      rw [or_iff_right nofun, ← Reading.exists_propertyClass_iff conforms]
      constructor
      · rintro ⟨_, given⟩
        rcases map_eq_ok.mp given with ⟨p, read, _⟩
        exact ⟨p, read⟩
      · rintro ⟨p, read⟩
        exact ⟨.propertyClass p, map_eq_ok.mpr ⟨p, read, rfl⟩⟩
  | package =>
      refine iff_of_false ?_ (not_not_intro (.inl rfl))
      rintro ⟨_, given⟩
      cases given
  | linkClass =>
      rcases Reading.exists_linkClass conforms with ⟨l, read⟩
      exact iff_of_true ⟨_, map_eq_ok.mpr ⟨l, read, rfl⟩⟩ (not_or.mpr ⟨nofun, noCounts nofun⟩)
  | entityClass =>
      rcases Reading.exists_entityClass conforms with ⟨e, read⟩
      exact iff_of_true ⟨_, map_eq_ok.mpr ⟨e, read, rfl⟩⟩ (not_or.mpr ⟨nofun, noCounts nofun⟩)
  | relationshipClass =>
      rcases Reading.exists_relationshipClass conforms with ⟨r, read⟩
      exact iff_of_true ⟨_, map_eq_ok.mpr ⟨r, read, rfl⟩⟩ (not_or.mpr ⟨nofun, noCounts nofun⟩)
  | entityInstance =>
      rcases Reading.exists_entity conforms with ⟨e, read⟩
      exact iff_of_true ⟨_, map_eq_ok.mpr ⟨e, read, rfl⟩⟩ (not_or.mpr ⟨nofun, noCounts nofun⟩)
  | relationshipInstance =>
      rcases Reading.exists_relationship conforms with ⟨r, read⟩
      exact iff_of_true ⟨_, map_eq_ok.mpr ⟨r, read, rfl⟩⟩ (not_or.mpr ⟨nofun, noCounts nofun⟩)
  | propertyValue =>
      rcases Reading.exists_propertyValue conforms (by decide) rfl rfl rfl with ⟨p, read⟩
      exact iff_of_true ⟨_, map_eq_ok.mpr ⟨p, read, rfl⟩⟩ (not_or.mpr ⟨nofun, noCounts nofun⟩)
  | sourceLinkValue | targetLinkValue =>
      rcases Reading.exists_linkValue conforms (by decide) rfl rfl with ⟨l, read⟩
      exact iff_of_true ⟨_, map_eq_ok.mpr ⟨l, read, rfl⟩⟩ (not_or.mpr ⟨nofun, noCounts nofun⟩)

theorem failsOnly_keeps (field : String) (fixed now : Option String) :
    FailsOnly (fun e => e.status = .immutableField) (keeps field fixed now) := by
  cases fixed with
  | none => exact failsOnly_ok ()
  | some was =>
      rw [keeps]
      split
      · exact failsOnly_ok ()
      · exact failsOnly_error rfl

/-- A value is malformed exactly if it passes the schema, keeps what is fixed, and cannot be read. -/
theorem contentOf_malformed_iff {item : Item} {schemas : Validator} {fields : Fields} :
    (∃ kind reason, item.contentOf schemas fields = .error (.malformed kind reason)) ↔
      schemas item.kind (.object (withKind item.kind fields)) = none ∧
        keeps "id" item.fixedId ((Json.object (withKind item.kind fields)).textField? "id") = .ok () ∧
        keeps "specializes" item.fixedParent ((Json.object (withKind item.kind fields)).textField? "specializes") =
          .ok () ∧
        ¬∃ d, ItemData.ofJson item.kind (.object (withKind item.kind fields)) = .ok d := by
  rw [contentOf]
  generalize withKind item.kind fields = filled
  cases schemas item.kind (.object filled) with
  | some diagnostics => exact iff_of_false nofun nofun
  | none =>
      constructor
      · rintro ⟨kind, reason, failed⟩
        rcases (failsOnly_keeps _ _ _).exists_of_bind (by nofun) failed with ⟨_, id, failed⟩
        rcases (failsOnly_keeps _ _ _).exists_of_bind (by nofun) failed with ⟨_, parent, failed⟩
        refine ⟨rfl, id, parent, ?_⟩
        rintro ⟨d, read⟩
        rw [read] at failed
        -- Only the rules for single items are left, and none of them calls a value malformed.
        rcases (Validation.failsOnly_item d).map _ failed with text | semantic
        · cases text
        · cases semantic
      · rintro ⟨_, id, parent, unread⟩
        rw [id, parent]
        cases read : ItemData.ofJson item.kind (.object filled) with
        | error reason => exact ⟨item.kind, reason, rfl⟩
        | ok d => exact absurd ⟨d, read⟩ unread

/-- An object is looked at exactly if it declares no other kind. -/
theorem isForeign_set (item : Item) (schemas : Validator) (fields : Fields) :
    (item.set schemas (.object fields)).2.isForeign = (foreignKind? item.kind fields).isSome := by
  rw [set]
  cases foreignKind? item.kind fields with
  | some declared => rfl
  | none => cases item.contentOf schemas fields <;> rfl

/-- An object that is looked at is malformed exactly if no content comes of its fields for this reason. -/
theorem set_malformed_iff {item : Item} {schemas : Validator} {fields : Fields}
    (looked : (item.set schemas (.object fields)).2.isForeign = false) :
    (∃ kind reason, (item.set schemas (.object fields)).2 = .refused (.malformed kind reason)) ↔
      ∃ kind reason, item.contentOf schemas fields = .error (.malformed kind reason) := by
  rw [isForeign_set, Option.isSome_eq_false_iff, Option.isNone_iff_eq_none] at looked
  rw [set]
  cases content : item.contentOf schemas fields with
  | ok d => simp [looked]
  | error e => simp [looked]

/-- The schemas of the library and the contents of items agree.  What conforms can be read, except a header and what
writes a count as a real number without a fraction.  So an object that is looked at is malformed for an item in these
two cases only, and in all of them if it passes the schema and changes nothing that is fixed. -/
theorem readable_of_conforms :
    (∀ kind v, Schemas.library.validator kind v = none →
      ((∃ d, ItemData.ofJson kind v = .ok d) ↔ ¬(kind = .package ∨ HasRealCount v))) ∧
    ∀ (item : Item) (fields : Fields),
      let outcome := (item.set Schemas.library.validator (.object fields)).2
      let filled := Json.object (withKind item.kind fields)
      outcome.isForeign = false →
        ((∃ kind reason, outcome = .refused (.malformed kind reason)) ↔
          Schemas.library.validator item.kind filled = none ∧
            (∀ was, item.fixedId = some was → filled.textField? "id" = some was) ∧
            (∀ was, item.fixedParent = some was → filled.textField? "specializes" = some was) ∧
            (item.kind = .package ∨ HasRealCount filled)) := by
  constructor
  · intro kind v accepted
    exact exists_ofJson_iff ((Schemas.library_validator_eq_none_iff kind v).mp accepted)
  · intro item fields outcome filled looked
    rw [set_malformed_iff looked, contentOf_malformed_iff, keeps_eq_ok, keeps_eq_ok]
    refine and_congr_right fun accepted => and_congr_right' (and_congr_right' ?_)
    rw [exists_ofJson_iff ((Schemas.library_validator_eq_none_iff item.kind filled).mp accepted), not_not]

/-- The definition of a property with at most one value, written as `1.0`. -/
def sizeFields : Fields := [("id", .string "ex:size"), ("maxCount", .number (.real ⟨false, Binary64.one⟩))]

theorem readable_of_conforms_size :
    let outcome := ((empty .propertyClass).set Schemas.library.validator (.object sizeFields)).2
    Schemas.library.validator .propertyClass (.object (withKind .propertyClass sizeFields)) = none ∧
      outcome.isForeign = false ∧ (∃ kind reason, outcome = .refused (.malformed kind reason)) ∧
      ¬∃ d, ItemData.ofJson .propertyClass (.object (withKind .propertyClass sizeFields)) = .ok d := by
  intro outcome
  have one : IsCount (.number (.real ⟨false, Binary64.one⟩)) :=
    ⟨_, rfl, by decide +kernel, by decide +kernel, by decide +kernel⟩
  have accepted : Schemas.library.validator .propertyClass (.object (withKind .propertyClass sizeFields)) = none := by
    refine (Schemas.library_validator_eq_none_iff _ _).mpr ⟨_, rfl, by decide +kernel, ?_⟩
    have filled : withKind .propertyClass sizeFields =
        [("id", .string "ex:size"), ("itemType", .string "pig:Property"),
         ("maxCount", .number (.real ⟨false, Binary64.one⟩))] := rfl
    simp only [filled, List.forall_mem_cons]
    exact ⟨⟨_, rfl, _, rfl, by decide +kernel⟩, ⟨_, rfl, rfl⟩, ⟨_, rfl, one⟩, List.forall_mem_nil _⟩
  have looked : outcome.isForeign = false := isForeign_set _ _ _
  have real : HasRealCount (.object (withKind .propertyClass sizeFields)) :=
    ⟨"maxCount", by decide, ⟨false, Binary64.one⟩, by decide +kernel, rfl⟩
  refine ⟨accepted, looked, ?_, fun readable => ?_⟩
  · exact (readable_of_conforms.2 (empty .propertyClass) sizeFields looked).mpr ⟨accepted, nofun, nofun, .inr real⟩
  · exact (readable_of_conforms.1 .propertyClass _ accepted).mp readable (.inr real)

end Item
end ProductGraph
