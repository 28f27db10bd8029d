import Mathlib.Algebra.BigOperators.Group.List.Lemmas
import ProductGraph.Proofs.Document.JsonLd.Items

namespace ProductGraph

/-!
# What linked data carries

The fragments of an individual become entries under the names of their classes, in the same object in which its fields
stand under their names in linked data.  A class is an identifier and thus no name that a field has of its own, but it
may be the name that a field has in linked data.  Then the two meet: what is found under the name is the one whose own
name comes later, and the other one is lost.

Nothing else is lost.  Whatever has a name for itself, be it the fragments of a class or a field, is found under it as
it was, so the entries under classes that are no names of fields are as many as the fragments of these classes.
-/

open JsonLd (isFragmentField linkedName spelled toLinked)

namespace Piece

/-- A value shows a fragment: the text of a property and its language, or where a link leads and to which end of the
edge it belongs. -/
def Shows : Piece → Json → Prop
  | property p, e => e.field? "@value" = some (.string p.value) ∧ e.field? "@language" = p.lang.map .string
  | source l, e => e.field? "@id" = some (.string l.idRef) ∧
      e.field? "pig:itemType" = some (.object [("@id", .string Kind.sourceLinkValue.tag)])
  | target l, e => e.field? "@id" = some (.string l.idRef) ∧
      e.field? "pig:itemType" = some (.object [("@id", .string Kind.targetLinkValue.tag)])

end Piece

namespace ItemData

def hasFragmentOf (d : ItemData) (name : String) : Bool := d.pieces.any fun q => q.hasClass == name

def hasFieldCalled (d : ItemData) (name : String) : Bool :=
  d.fields.any fun f => !isFragmentField f.1 && linkedName f.1 == name

/-- Both a field of an item and the fragments of a class lay claim to a name. -/
def clashes (d : ItemData) (name : String) : Bool := d.hasFragmentOf name && d.hasFieldCalled name

end ItemData

namespace JsonLd

open ItemData

/-- The entries that stand under a name. -/
def entriesUnder (written : Fields) (name : String) : List Json := ((written.get? name).bind Json.items?).getD []

/-- A text in a field becomes a reference if it is an identifier, but not that of the item itself. -/
def asReference (name s : String) : Json :=
  if name ≠ "id" ∧ isIdentifier s = true then .object [("@id", .string s)] else .string s

def asLiteral (t : LanguageText) : Json :=
  .object ((t.lang.map fun lang => ("@language", Json.string lang)).toList ++ [("@value", .string t.value)])

/-- What the values of a field of an individual become. -/
inductive Renders (name : String) : Json → Json → Prop
  | text (s : String) : Renders name (.string s) (asReference name s)
  | texts (list : List String) : Renders name (.array (list.map .string)) (.array (list.map (asReference name)))
  | languageTexts (list : List LanguageText) :
      Renders name (.array (list.map Writing.languageText)) (.array (list.map asLiteral))

/-- What is written carries all of an item that has one of some names: the fragments of each class, one by one, and no
more entries than fragments, and each field with its references wrapped and its names those of linked data. -/
structure Carries (written : Fields) (d : ItemData) (among : String → Bool) : Prop where
  fragments : ∀ q ∈ d.pieces, among q.hasClass = true → ∃ entries,
    written.get? q.hasClass = some (.array entries) ∧ List.Forall₂ Piece.Shows (ofClass d.pieces q.hasClass) entries
  number : (((d.pieces.map Piece.hasClass).dedup.filter among).flatMap (entriesUnder written)).length =
    (d.pieces.map Piece.hasClass).countP among
  fields : ∀ name v, d.fields.get? name = some v → isFragmentField name = false → among (linkedName name) = true →
    ∃ rendered, written.get? (linkedName name) = some rendered ∧ Renders name v rendered

/-! ## Entries as they are written -/

/-- A fragment is shown by its entry. -/
theorem shows_entry (q : Piece) : q.Shows (toLinked.run q.entry) := by
  cases q with
  | property p =>
      rw [Piece.entry, toLinked_entry_property]
      rcases p with ⟨hasClass, value, _ | lang⟩ <;> exact ⟨rfl, rfl⟩
  | source l =>
      have isLink : Kind.sourceLinkValue ≠ .propertyValue := by decide
      rw [Piece.entry, toLinked_entry_link l _ isLink]
      exact ⟨rfl, rfl⟩
  | target l =>
      have isLink : Kind.targetLinkValue ≠ .propertyValue := by decide
      rw [Piece.entry, toLinked_entry_link l _ isLink]
      exact ⟨rfl, rfl⟩

/-! ## Fields as they are written -/

theorem toLinked_languageText (t : LanguageText) : toLinked.run (Writing.languageText t) = asLiteral t := by
  have linked : "@language" < "@value" := by decide
  rw [Writing.languageText_eq]
  rcases t with ⟨value, _ | lang⟩
  · rfl
  · change toLinked.run (.object [("lang", .string lang), ("value", .string value)]) = _
    rw [toLinked_object]
    change Json.ofFields [("@language", .string lang), ("@value", .string value)] = _
    rw [Json.ofFields, Keyed.ofList_pair linked]
    rfl

theorem spelled_array (name : String) (list : List Json) :
    spelled name (.array list) = .array (list.map (spelled name)) := by
  unfold spelled
  split
  · exact Walk.run_array _ _
  · rw [List.map_id']

theorem toLinked_spelled_string {name : String} (known : Vocabulary.isField name = true)
    (noText : Vocabulary.textFields.contains name = false) (s : String) :
    toLinked.run (spelled name (.string s)) = asReference name s := by
  have wrapped_iff : isWrapped name = true ↔ name ≠ "id" := by
    rw [isWrapped, known, noText, Bool.not_false, Bool.and_true, Bool.and_true, bne_iff_ne]
  rw [spelled, asReference]
  by_cases own : name = "id"
  · rw [if_neg (wrapped_iff.not.mpr (not_not.mpr own)), if_neg (fun both => both.1 own)]
    rfl
  · rw [if_pos (wrapped_iff.mpr own)]
    change toLinked.run (Normal.wrapped (.string s)) = _
    cases identifier : isIdentifier s with
    | true =>
        rw [Normal.wrapped, if_pos identifier, if_pos ⟨own, rfl⟩]
        rfl
    | false =>
        rw [Normal.wrapped, if_neg (Bool.eq_false_iff.mp identifier), if_neg (fun both => Bool.false_ne_true both.2)]
        rfl

theorem toLinked_spelled_texts {name : String} (known : Vocabulary.isField name = true)
    (noText : Vocabulary.textFields.contains name = false) (list : List String) :
    toLinked.run (spelled name (.array (list.map .string))) = .array (list.map (asReference name)) := by
  rw [spelled_array, Walk.run_array, List.map_map, List.map_map]
  exact congrArg Json.array (List.map_congr_left fun s _ => toLinked_spelled_string known noText s)

theorem toLinked_spelled_languageTexts {name : String} (isText : Vocabulary.textFields.contains name = true)
    (list : List LanguageText) :
    toLinked.run (spelled name (.array (list.map Writing.languageText))) = .array (list.map asLiteral) := by
  have notWrapped : isWrapped name = false := by rw [isWrapped, isText, Bool.not_true, Bool.and_false, Bool.false_and]
  rw [spelled, notWrapped, if_neg Bool.false_ne_true, Walk.run_array, List.map_map]
  exact congrArg Json.array (List.map_congr_left fun t _ => toLinked_languageText t)

/-- The value of a field of an individual is written with references wrapped and under the names of linked data. -/
theorem renders_of_get?_fields {d : ItemData} (sound : d.Sound) (individual : d.kind.isIndividual = true)
    {name : String} {v : Json} (found : d.fields.get? name = some v) (noFragments : isFragmentField name = false) :
    Renders name v (toLinked.run (spelled name v)) := by
  have noNumbers : ∀ kind ∈ Kind.all, kind.isIndividual = true → ∀ s ∈ kind.shapes, s.2 ≠ .count ∧ s.2 ≠ .number := by
    decide
  rcases written_fields sound.conforms sound.known _ (Keyed.mem_of_get? found) with ⟨shape, named, written⟩
  rcases noNumbers d.kind d.kind.mem_all individual _ (Keyed.mem_of_get? named) with ⟨notCount, notNumber⟩
  have facts := Normal.suits_of_get?_shapes named
  simp only [Normal.suits, Bool.and_eq_true, beq_iff_eq] at facts
  rcases facts with ⟨⟨⟨⟨⟨known, isText⟩, isFragments⟩, _⟩, _⟩, _⟩
  cases written with
  | identifier | text | exactly =>
      rw [toLinked_spelled_string known isText]
      exact .text _
  | identifiers | textList =>
      rw [toLinked_spelled_texts known isText]
      exact .texts _
  | texts =>
      rw [toLinked_spelled_languageTexts isText]
      exact .languageTexts _
  | count => exact absurd rfl notCount
  | number => exact absurd rfl notNumber
  | properties | links => cases noFragments.symm.trans isFragments

/-! ## What an individual is written as -/

/-- The entries of the fragments of a class. -/
def shownOf (d : ItemData) (name : String) : List Json := (ofClass d.pieces name).map fun q => toLinked.run q.entry

def written (d : ItemData) : Fields :=
  Keyed.ofList ((spread d.fields).map fun f => (linkedName f.1, toLinked.run (spelled f.1 f.2)))

theorem ofItem_eq {d : ItemData} (individual : d.kind.isIndividual = true) :
    ofItem d.toJson = .object (written d) := by
  rw [ofItem_toJson, if_pos individual, ofFields, toLinked_object, Json.ofFields, List.map_map]
  rfl

variable {d : ItemData}

/-- No field has the form of an identifier, so a class is no field. -/
theorem isField_of_identifies {name : String} (names : Identifies name) : Vocabulary.isField name = false := by
  have all : ∀ t ∈ Vocabulary.terms, ':' ∉ t.field.toList := by decide
  rw [Bool.eq_false_iff]
  intro known
  rcases exists_term_of_isField known with ⟨t, member, rfl⟩
  exact all t member (SchemaDocument.colon_mem_of_matchesText names)

/-- Under the class of a fragment stand the entries of its class. -/
theorem get?_spread_of_mem {q : Piece} (member : q ∈ d.pieces) :
    Keyed.get? (spread d.fields) q.hasClass = some (.array ((ofClass d.pieces q.hasClass).map Piece.entry)) := by
  have inClass : q ∈ ofClass d.pieces q.hasClass := List.mem_filter.mpr ⟨member, beq_self_eq_true _⟩
  rw [get?_spread, Writing.unlessEmpty_of_mem _ inClass, Option.some_or]

theorem ofClass_eq_nil_of_isField (sound : d.Sound) {name : String} (known : Vocabulary.isField name = true) :
    ofClass d.pieces name = [] := by
  rw [ofClass, List.filter_eq_nil_iff]
  intro q member named
  rw [← beq_iff_eq.mp named, isField_of_identifies (sound.identifies q member)] at known
  cases known

/-- Spread are the fragments of each class and all other fields. -/
theorem mem_spread_iff (sound : d.Sound) {name : String} {v : Json} :
    (name, v) ∈ spread d.fields ↔
      (∃ q ∈ d.pieces, q.hasClass = name ∧ v = .array ((ofClass d.pieces name).map Piece.entry)) ∨
      (d.fields.get? name = some v ∧ isFragmentField name = false) := by
  constructor
  · intro inSpread
    have found := Keyed.get?_of_mem (sorted_spread d.fields (Writing.sorted_fieldsOf _)).nodup inSpread
    cases ofName : ofClass d.pieces name with
    | nil =>
        rw [get?_spread, ofName] at found
        cases fragments : isFragmentField name with
        | true =>
            rw [if_pos fragments] at found
            cases found
        | false =>
            rw [if_neg (Bool.eq_false_iff.mp fragments)] at found
            exact .inr ⟨found, rfl⟩
    | cons q rest =>
        rcases List.mem_filter.mp (ofName ▸ List.mem_cons_self : q ∈ ofClass d.pieces name) with ⟨member, named⟩
        have named : q.hasClass = name := beq_iff_eq.mp named
        subst named
        cases found.symm.trans (get?_spread_of_mem member)
        exact .inl ⟨q, member, rfl, ofName ▸ rfl⟩
  · rintro (⟨q, member, rfl, rfl⟩ | ⟨found, noFragments⟩)
    · exact Keyed.mem_of_get? (get?_spread_of_mem member)
    · apply Keyed.mem_of_get?
      rw [get?_spread, ofClass_eq_nil_of_isField sound (isField_of_get?_fields sound found), noFragments]
      exact found

/-! ## What is found -/

/-- What stands in an individual is found under its name in linked data if nothing that gets the same name comes
later. -/
theorem get?_written_of_last {name : String} {v : Json} (there : (name, v) ∈ spread d.fields)
    (last : ∀ f ∈ spread d.fields, linkedName f.1 = linkedName name → f.1 ≤ name) :
    Keyed.get? (written d) (linkedName name) = some (toLinked.run (spelled name v)) :=
  Keyed.get?_ofList_map_of_last (sorted_spread _ (Writing.sorted_fieldsOf _)) linkedName
    (fun f => toLinked.run (spelled f.1 f.2)) there last

/-- Fragments are found under their class if no field that gets its name comes later. -/
theorem get?_written_of_mem (sound : d.Sound) {q : Piece} (member : q ∈ d.pieces)
    (last : ∀ name v, d.fields.get? name = some v → isFragmentField name = false → linkedName name = q.hasClass →
      name ≤ q.hasClass) :
    Keyed.get? (written d) q.hasClass = some (.array (shownOf d q.hasClass)) := by
  have noField := isField_of_identifies (sound.identifies q member)
  have unchanged := linkedName_of_not_isField noField
  have isLast : ∀ f ∈ spread d.fields, linkedName f.1 = linkedName q.hasClass → f.1 ≤ q.hasClass := by
    rintro ⟨name, v⟩ inSpread same
    rw [unchanged] at same
    rcases (mem_spread_iff sound).mp inSpread with ⟨other, alsoMember, rfl, _⟩ | ⟨found, noFragments⟩
    · rw [linkedName_of_not_isField (isField_of_identifies (sound.identifies other alsoMember))] at same
      exact le_of_eq same
    · exact last name v found noFragments same
  have found := get?_written_of_last ((mem_spread_iff sound).mpr (.inl ⟨q, member, rfl, rfl⟩)) isLast
  rw [unchanged, spelled_of_not_isField noField, Walk.run_array, List.map_map] at found
  exact found

/-- A field is found under its name in linked data if no class of this name comes later. -/
theorem exists_get?_written (sound : d.Sound) (individual : d.kind.isIndividual = true) {name : String} {v : Json}
    (found : d.fields.get? name = some v) (noFragments : isFragmentField name = false)
    (last : ∀ q ∈ d.pieces, linkedName name = q.hasClass → q.hasClass ≤ name) :
    ∃ rendered, Keyed.get? (written d) (linkedName name) = some rendered ∧ Renders name v rendered := by
  refine ⟨_, get?_written_of_last ((mem_spread_iff sound).mpr (.inr ⟨found, noFragments⟩)) ?_,
    renders_of_get?_fields sound individual found noFragments⟩
  rintro ⟨other, w⟩ inSpread same
  rcases (mem_spread_iff sound).mp inSpread with ⟨q, member, rfl, _⟩ | ⟨alsoFound, _⟩
  · rw [linkedName_of_not_isField (isField_of_identifies (sound.identifies q member))] at same
    exact last q member same.symm
  · have known := isField_of_get?_fields sound found
    exact le_of_eq (eq_of_linkedName_eq (isField_of_get?_fields sound alsoFound) known same)

/-- A class that is the name of a field in linked data clashes with the field. -/
theorem clashes_of_eq {q : Piece} (member : q ∈ d.pieces) {name : String} {v : Json}
    (found : d.fields.get? name = some v) (noFragments : isFragmentField name = false)
    (same : linkedName name = q.hasClass) : d.clashes q.hasClass = true := by
  have isClass : d.hasFragmentOf q.hasClass = true := List.any_eq_true.mpr ⟨q, member, beq_self_eq_true _⟩
  have isCalled : d.hasFieldCalled q.hasClass = true := by
    refine List.any_eq_true.mpr ⟨(name, v), Keyed.mem_of_get? found, ?_⟩
    rw [noFragments, same, beq_self_eq_true]
    rfl
  rw [clashes, isClass, isCalled]
  rfl

/-- Fragments of a class that clashes with no field are found. -/
theorem get?_written_of_not_clashes (sound : d.Sound) {q : Piece} (member : q ∈ d.pieces)
    (alone : (!d.clashes q.hasClass) = true) :
    Keyed.get? (written d) q.hasClass = some (.array (shownOf d q.hasClass)) := by
  apply get?_written_of_mem sound member
  intro name v found noFragments same
  rw [clashes_of_eq member found noFragments same] at alone
  cases alone

theorem forall₂_shows_shownOf (d : ItemData) (name : String) :
    List.Forall₂ Piece.Shows (ofClass d.pieces name) (shownOf d name) := by
  rw [shownOf, List.forall₂_map_right_iff]
  exact List.forall₂_same.mpr fun q _ => shows_entry q

theorem length_ofClass (pieces : List Piece) (name : String) :
    (ofClass pieces name).length = (pieces.map Piece.hasClass).count name := by
  rw [ofClass, ← List.countP_eq_length_filter, List.count, List.countP_map]
  rfl

/-- An individual is carried by what it is written as, save for what clashes. -/
theorem carries_written (sound : d.Sound) (individual : d.kind.isIndividual = true) :
    Carries (written d) d fun name => !d.clashes name where
  fragments := by
    intro q member alone
    exact ⟨_, get?_written_of_not_clashes sound member alone, forall₂_shows_shownOf d q.hasClass⟩
  number := by
    rw [List.length_flatMap, ← List.sum_map_count_dedup_filter_eq_countP]
    refine congrArg List.sum (List.map_congr_left fun c among => ?_)
    rcases List.mem_filter.mp among with ⟨isClass, alone⟩
    rcases List.mem_map.mp (List.mem_dedup.mp isClass) with ⟨q, member, rfl⟩
    rw [entriesUnder, get?_written_of_not_clashes sound member alone, ← length_ofClass]
    exact List.length_map _
  fields := by
    intro name v found noFragments alone
    apply exists_get?_written sound individual found noFragments
    intro q member same
    rw [same, clashes_of_eq member found noFragments same] at alone
    cases alone

/-- Where the fragments of a class get the name of a field, what is carried is what has the later name of its own. -/
structure Overwrites (written : Fields) (d : ItemData) (q : Piece) (name : String) (v : Json) : Prop where
  fragments : name < q.hasClass → ∃ entries,
    written.get? q.hasClass = some (.array entries) ∧ List.Forall₂ Piece.Shows (ofClass d.pieces q.hasClass) entries
  field : q.hasClass < name → ∃ rendered, written.get? q.hasClass = some rendered ∧ Renders name v rendered

theorem overwrites_written (sound : d.Sound) (individual : d.kind.isIndividual = true) {q : Piece}
    (member : q ∈ d.pieces) {name : String} {v : Json} (found : d.fields.get? name = some v)
    (noFragments : isFragmentField name = false) (same : linkedName name = q.hasClass) : Overwrites (written d) d q name v where
  fragments := by
    intro later
    refine ⟨_, get?_written_of_mem sound member ?_, forall₂_shows_shownOf d q.hasClass⟩
    intro other w alsoFound _ alsoSame
    have equal := eq_of_linkedName_eq (isField_of_get?_fields sound alsoFound) (isField_of_get?_fields sound found)
      (alsoSame.trans same.symm)
    exact equal ▸ le_of_lt later
  field := by
    intro later
    rw [← same]
    apply exists_get?_written sound individual found noFragments
    intro other _ alsoSame
    rw [← alsoSame, same]
    exact le_of_lt later

/-- An individual that was accepted is written as linked data with all its fragments and fields, except where the class
of a fragment is also the name of one of the fields in linked data.  Of these two the one is carried whose own name
comes later. -/
theorem carries_ofItem {d : ItemData} (accepted : Package.Accepted Schemas.library.validator d)
    (individual : d.kind.isIndividual = true) :
    ∃ written, ofItem d.toJson = .object written ∧ Carries written d (fun name => !d.clashes name) ∧
      ∀ q ∈ d.pieces, ∀ name v, d.fields.get? name = some v → isFragmentField name = false →
        linkedName name = q.hasClass → Overwrites written d q name v := by
  rcases accepted with ⟨kind, fields, accepts⟩
  rcases sound_of_accepts Schemas.library_standard accepts with ⟨_, sound⟩
  refine ⟨_, ofItem_eq individual, carries_written sound individual, ?_⟩
  exact fun q member name v => overwrites_written sound individual member

/-- A pump with a title, a colour, and a property of the class under whose name the title is written. -/
def pump : ItemData :=
  .entity ⟨⟨"ex:pump", none, [⟨"Pump", none⟩], []⟩,
    ⟨none, [], some "2025-01-01T00:00:00Z", none,
      [⟨"ex:colour", "red", some "en"⟩, ⟨"dcterms:title", "Big pump", none⟩]⟩, "ex:Thing", []⟩

theorem accepted_pump : Package.Accepted Schemas.library.validator pump := by
  have sound : (∀ s ∈ pump.names, Identifies s) ∧ pump.CountsKnown ∧ (Validation.item pump).isOk = true := by
    decide +kernel
  rcases sound with ⟨names, known, valid⟩
  have sound : pump.Sound := ⟨conforms_of_identifies known names, known, Outcome.isOk_iff.mp valid⟩
  exact ⟨_, _, sound.accepts Schemas.library_standard⟩

/-- The colour of the pump and its class are carried, and its title is although it clashes. -/
theorem carries_ofItem_pump :
    pump.kind.isIndividual = true ∧ ∃ written, ofItem pump.toJson = .object written ∧
      (∃ entries, Keyed.get? written "ex:colour" = some (.array entries) ∧
        List.Forall₂ Piece.Shows [.property ⟨"ex:colour", "red", some "en"⟩] entries) ∧
      (∃ ofClass, Keyed.get? written "pig:hasClass" = some ofClass ∧ Renders "hasClass" (.string "ex:Thing") ofClass) ∧
      ∃ title, Keyed.get? written "dcterms:title" = some title ∧
        Renders "title" (.array [.object [("value", .string "Pump")]]) title := by
  rcases carries_ofItem accepted_pump rfl with ⟨written, isWritten, carries, overwrites⟩
  refine ⟨rfl, written, isWritten, ?_, ?_, ?_⟩
  · exact carries.fragments (.property ⟨"ex:colour", "red", some "en"⟩) List.mem_cons_self (by decide +kernel)
  · exact carries.fields "hasClass" (.string "ex:Thing") rfl rfl (by decide +kernel)
  · have title := overwrites (.property ⟨"dcterms:title", "Big pump", none⟩)
      (List.mem_cons_of_mem _ List.mem_cons_self) "title" (.array [.object [("value", .string "Pump")]]) rfl rfl rfl
    exact title.field (by decide +kernel)

/-- A fragment is lost if its class is the name of a field that comes later. -/
theorem exists_fragment_lost :
    ∃ d q written, Package.Accepted Schemas.library.validator d ∧ d.kind.isIndividual = true ∧ q ∈ d.pieces ∧
      ofItem d.toJson = .object written ∧
      ∀ entries, Keyed.get? written q.hasClass = some (.array entries) → ∀ e ∈ entries, ¬ q.Shows e := by
  refine ⟨pump, .property ⟨"dcterms:title", "Big pump", none⟩, _, accepted_pump, rfl,
    List.mem_cons_of_mem _ List.mem_cons_self, ofItem_eq rfl, ?_⟩
  -- Under the class of the fragment stands the title.
  have found : Keyed.get? (written pump) "dcterms:title" =
      some (.array [.object [("@value", .string "Pump")]]) := by rfl
  intro entries isFound e member shown
  cases found.symm.trans isFound
  cases List.mem_singleton.mp member
  have same : some (Json.string "Pump") = some (.string "Big pump") := shown.1
  simp at same

end JsonLd
end ProductGraph
