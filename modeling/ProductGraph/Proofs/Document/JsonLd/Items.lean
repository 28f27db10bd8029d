import ProductGraph.Proofs.Document.JsonLd.Spread
import ProductGraph.Proofs.Document.Settled

namespace ProductGraph

/-!
# Items of linked data read back

An item that was written as linked data is read as the item that it was, the fragments of an individual in the order of
their classes.  A class must not be a name of linked data itself, or its fragments would be taken for a field, and it
must be told from bare names, or they would be passed over.
-/

namespace ItemData

/-- The classes of fragments can stand as names in linked data. -/
def Spreads (d : ItemData) : Prop :=
  ∀ q ∈ d.pieces, isIdentifier q.hasClass = true ∧ Vocabulary.fieldOfLinked? q.hasClass = none

/-- The classes of the fragments of a sound item have the form of identifiers. -/
theorem Sound.identifies {d : ItemData} (sound : d.Sound) : ∀ q ∈ d.pieces, Identifies q.hasClass := by
  have shapes : ∀ kind ∈ Kind.all, ∀ s ∈ kind.shapes, (s.1 = "hasProperty" → s.2 = .properties) ∧
      (s.1 = "hasSourceLink" ∨ s.1 = "hasTargetLink" → s.2 = .links) := by decide
  have kinds : d.kind ∈ Kind.all := by cases d.kind <;> decide
  have written : ∀ {name : String} {v : Json}, d.fields.get? name = some v →
      ∃ shape, (name, shape) ∈ d.kind.shapes ∧ shape.Fits v := by
    intro name v found
    rcases sound.conforms with ⟨_, ⟨⟩, _, known⟩
    rcases known _ (Keyed.mem_of_get? found) with ⟨P, named, fits⟩
    rw [Keyed.get?_map _ fun _ shape => Shape.Fits shape] at named
    rcases Option.map_eq_some_iff.mp named with ⟨shape, there, rfl⟩
    exact ⟨shape, Keyed.mem_of_get? there, fits⟩
  have links : ∀ {name : String} {list : List LinkValue}, name = "hasSourceLink" ∨ name = "hasTargetLink" →
      d.fields.get? name = Writing.unlessEmpty Writing.embeddedLink list → ∀ l ∈ list, Identifies l.hasClass := by
    intro name list isLinks found l member
    rw [Writing.unlessEmpty_of_mem _ member] at found
    rcases written found with ⟨shape, there, fits⟩
    cases (shapes d.kind kinds _ there).2 isLinks
    rcases fits with ⟨_, ⟨⟩, each⟩
    exact (Shape.identifies_of_isLink (each _ (List.mem_map_of_mem member))).1
  intro q inPieces
  simp only [pieces, List.mem_append, List.mem_map] at inPieces
  rcases inPieces with (⟨p, member, rfl⟩ | ⟨l, member, rfl⟩) | ⟨l, member, rfl⟩
  · have found := d.get?_hasProperty
    rw [Writing.unlessEmpty_of_mem _ member] at found
    rcases written found with ⟨shape, there, fits⟩
    cases (shapes d.kind kinds _ there).1 rfl
    rcases fits with ⟨_, ⟨⟩, each⟩
    exact Shape.identifies_of_isProperty (each _ (List.mem_map_of_mem member))
  · exact links (.inl rfl) d.get?_hasSourceLink l member
  · exact links (.inr rfl) d.get?_hasTargetLink l member

theorem Settled.rearranged {d e : ItemData} (settled : d.Settled) (rearranged : d.Rearranged e) : e.Settled where
  description i has := settled.description i (rearranged.resembles.identifiable_eq ▸ has)
  modified := by
    cases rearranged with
    | same => exact settled.modified
    | entity e =>
        rintro i ⟨⟩
        exact settled.modified e.individual rfl
    | relationship r =>
        rintro i ⟨⟩
        exact settled.modified r.individual rfl

/-- Entries of the same names that say the same under one of them. -/
def AlikeUnder (name : String) (first second : Writing.Entries) : Prop :=
  List.Forall₂ (fun a b => a.1 = b.1 ∧ (a.1 = name → a.2 = b.2)) first second

theorem AlikeUnder.refl (name : String) (entries : Writing.Entries) : AlikeUnder name entries entries :=
  List.forall₂_same.mpr fun _ _ => ⟨rfl, fun _ => rfl⟩

theorem AlikeUnder.append {name : String} {first second others more : Writing.Entries}
    (front : AlikeUnder name first second) (back : AlikeUnder name others more) :
    AlikeUnder name (first ++ others) (second ++ more) := List.rel_append front back

theorem AlikeUnder.get?_eq {name : String} {first second : Writing.Entries} (alike : AlikeUnder name first second) :
    Keyed.get? first name = Keyed.get? second name := by
  induction alike with
  | nil => rfl
  | cons head _ ih =>
      rw [Keyed.get?_cons, Keyed.get?_cons, ← head.1, ih]
      split
      · rename_i here
        rw [head.2 here]
      · rfl

/-- Sorting the fragments changes no other field. -/
theorem get?_sortedFragments (d : ItemData) {name : String} (noFragments : JsonLd.isFragmentField name = false) :
    d.sortedFragments.fields.get? name = d.fields.get? name := by
  have apart : ∀ field, JsonLd.isFragmentField field = true → field ≠ name := by
    rintro field isFragments rfl
    rw [isFragments] at noFragments
    cases noFragments
  have property := apart "hasProperty" rfl
  have source := apart "hasSourceLink" rfl
  have target := apart "hasTargetLink" rfl
  have individual : ∀ (i : Individual) (properties : List PropertyValue),
      AlikeUnder name (Writing.individual { i with hasProperty := properties }) (Writing.individual i) :=
    fun i properties => .cons ⟨rfl, fun _ => rfl⟩ (.cons ⟨rfl, fun _ => rfl⟩ (.cons ⟨rfl, fun _ => rfl⟩
      (.cons ⟨rfl, fun _ => rfl⟩ (.cons ⟨rfl, fun same => absurd same property⟩ .nil))))
  have alike : AlikeUnder name d.sortedFragments.entries d.entries := by
    cases d with
    | entity e =>
        exact .append (.append (.append (.refl _ _) (individual _ _))
          (.cons ⟨rfl, fun _ => rfl⟩ (.cons ⟨rfl, fun same => absurd same target⟩ .nil))) (.refl _ _)
    | relationship r =>
        exact .append (.append (.append (.refl _ _) (individual _ _))
          (.cons ⟨rfl, fun _ => rfl⟩ (.cons ⟨rfl, fun same => absurd same source⟩
            (.cons ⟨rfl, fun same => absurd same target⟩ .nil)))) (.refl _ _)
    | _ => exact .refl _ _
  rw [get?_fields, get?_fields, alike.get?_eq]

end ItemData

namespace JsonLd

open ItemData

/-! ## Names of individuals -/

theorem isField_of_isFragmentField {name : String} (fragments : isFragmentField name = true) :
    Vocabulary.isField name = true := by
  have all : ∀ f ∈ Vocabulary.fragmentFields.map (·.1), Vocabulary.isField f = true := by decide
  exact all name (List.contains_iff_mem.mp fragments)

/-- No field is an identifier, so a class is no field. -/
theorem isField_of_isIdentifier {name : String} (names : isIdentifier name = true) :
    Vocabulary.isField name = false := by
  have all : ∀ t ∈ Vocabulary.terms, isIdentifier t.field = false := by decide
  rw [Bool.eq_false_iff]
  intro known
  rcases exists_term_of_isField known with ⟨t, member, rfl⟩
  rw [all t member] at names
  cases names

theorem isField_of_get?_shapes {kind : Kind} {name : String} {shape : Shape}
    (named : kind.shapes.get? name = some shape) : Vocabulary.isField name = true := by
  have fits := Normal.suits_of_get?_shapes named
  simp only [Normal.suits, Bool.and_eq_true] at fits
  exact fits.1.1.1.1.1

/-! ## What is found after writing and reading -/

variable {d : ItemData}

theorem isField_of_get?_fields (sound : d.Sound) {name : String} {v : Json} (found : d.fields.get? name = some v) :
    Vocabulary.isField name = true := by
  rcases written_fields sound.conforms sound.known _ (Keyed.mem_of_get? found) with ⟨shape, named, _⟩
  exact isField_of_get?_shapes named

/-- The fields of an individual as they are read, its fragments still under their classes. -/
def spreadRead (d : ItemData) : Fields :=
  (spread d.fields).map fun f => (f.1, toFields.run (toLinked.run (spelled f.1 f.2)))

theorem sorted_spreadRead (d : ItemData) : Keyed.Sorted (spreadRead d) :=
  (sorted_spread d.fields (Writing.sorted_fieldsOf _)).map fun f => toFields.run (toLinked.run (spelled f.1 f.2))

theorem ofClass_eq_nil {d : ItemData} (spreads : d.Spreads) {name : String}
    (noClass : isFragmentClass name = false) : ofClass d.pieces name = [] := by
  rw [ofClass, List.filter_eq_nil_iff]
  intro q member named
  have identifier := (spreads q member).1
  rw [beq_iff_eq.mp named] at identifier
  rw [isFragmentClass, isField_of_isIdentifier identifier, identifier] at noClass
  cases noClass

/-- No field of an item has a class for its name. -/
theorem get?_fields_of_isFragmentClass (sound : d.Sound) {name : String} (isClass : isFragmentClass name = true) :
    d.fields.get? name = none := by
  rw [isFragmentClass, Bool.and_eq_true, Bool.not_eq_true'] at isClass
  cases found : d.fields.get? name with
  | none => rfl
  | some v =>
      rw [isField_of_get?_fields sound found] at isClass
      exact nomatch isClass.1

/-- Under a class stand its fragments, as they are read. -/
theorem get?_spreadRead_of_class (sound : d.Sound) {name : String} (isClass : isFragmentClass name = true) :
    Keyed.get? (spreadRead d) name = Writing.unlessEmpty reread (ofClass d.pieces name) := by
  have absent := get?_fields_of_isFragmentClass sound isClass
  rw [isFragmentClass, Bool.and_eq_true, Bool.not_eq_true'] at isClass
  have noFragments : isFragmentField name = false := by
    rw [Bool.eq_false_iff]
    intro fragments
    rw [isField_of_isFragmentField fragments] at isClass
    exact nomatch isClass.1
  rw [spreadRead, Keyed.get?_map _ fun name v => toFields.run (toLinked.run (spelled name v)), get?_spread,
    noFragments, absent, if_neg Bool.false_ne_true, Option.or_none]
  cases ofClass d.pieces name with
  | nil => rfl
  | cons q rest =>
      simp only [spelled_of_not_isField isClass.1]
      change some (toFields.run (toLinked.run (.array ((q :: rest).map Piece.entry)))) = _
      rw [Walk.run_array, Walk.run_array, List.map_map, List.map_map]
      rfl

/-- Under any other name that is not one for fragments stands what was written. -/
theorem get?_spreadRead_of_not_class (spreads : d.Spreads) {name : String} (noClass : isFragmentClass name = false) :
    Keyed.get? (spreadRead d) name =
      if isFragmentField name then none
      else (d.fields.get? name).map fun v => toFields.run (toLinked.run (spelled name v)) := by
  rw [spreadRead, Keyed.get?_map _ fun name v => toFields.run (toLinked.run (spelled name v)), get?_spread,
    ofClass_eq_nil spreads noClass]
  split <;> rfl

/-! ## Fragments gathered -/

theorem fragments_eq (sound : d.Sound) :
    fragments (spreadRead d) =
      (Keyed.names ((spreadRead d).filter fun f => isFragmentClass f.1)).flatMap fun name =>
        (ofClass d.pieces name).map fun q => (q.field, q.own) := by
  rw [fragments, Keyed.names, List.flatMap_map]
  refine List.flatMap_congr fun f member => ?_
  rcases List.mem_filter.mp member with ⟨inFields, isClass⟩
  have found := Keyed.get?_of_mem (sorted_spreadRead d).nodup inFields
  rw [get?_spreadRead_of_class sound isClass] at found
  have value : f.2 = .array ((ofClass d.pieces f.1).map reread) := by
    rw [Writing.unlessEmpty] at found
    split at found
    · cases found
    · exact (Option.some.inj found).symm
  rw [value, Normal.itemsOf, List.filterMap_map]
  have each : ∀ q ∈ ofClass d.pieces f.1, (fragment? f.1 ∘ reread) q = some (q.field, q.own) := by
    intro q inClass
    have named : q.hasClass = f.1 := beq_iff_eq.mp (List.mem_filter.mp inClass).2
    rw [Function.comp_apply, ← named]
    exact fragment?_reread q
  rw [List.filterMap_congr each, List.filterMap_eq_map']

/-- The fragments of a field are read class by class. -/
theorem filter_fragments (sound : d.Sound) (spreads : d.Spreads) (field : String) :
    ((fragments (spreadRead d)).filter fun f => f.1 == field).map (·.2) =
      (byName Piece.hasClass (d.pieces.filter fun q => q.field == field)).map Piece.own := by
  have ordered := ((sorted_spreadRead d).filter fun f => isFragmentClass f.1)
  have covered : ∀ q ∈ d.pieces.filter fun q => q.field == field,
      q.hasClass ∈ Keyed.names ((spreadRead d).filter fun f => isFragmentClass f.1) := by
    intro q member
    have inPieces := List.mem_of_mem_filter member
    have isClass : isFragmentClass q.hasClass = true := by
      have identifier := (spreads q inPieces).1
      rw [isFragmentClass, isField_of_isIdentifier identifier, identifier]
      rfl
    have found := get?_spreadRead_of_class sound isClass
    have inClass : q ∈ ofClass d.pieces q.hasClass := List.mem_filter.mpr ⟨inPieces, beq_self_eq_true _⟩
    rw [Writing.unlessEmpty_of_mem _ inClass] at found
    have there := Keyed.mem_of_get? found
    exact List.mem_map.mpr ⟨_, List.mem_filter.mpr ⟨there, isClass⟩, rfl⟩
  rw [fragments_eq sound, List.filter_flatMap, List.map_flatMap, ← flatMap_filter_eq_byName ordered covered,
    List.map_flatMap]
  refine List.flatMap_congr fun name _ => ?_
  rw [List.filter_map, List.map_map, ofClass, List.filter_filter, List.filter_filter]
  refine congrArg₂ List.map (funext fun q => rfl) (List.filter_congr fun q _ => ?_)
  exact Bool.and_comm _ _

theorem sorted_gathered {fields : Fields} (sorted : Keyed.Sorted fields) : Keyed.Sorted (gathered fields) :=
  sorted_addFragments (sorted.filter _) _

/-- A field for fragments holds those of the item in the order of their classes. -/
theorem get?_gathered_of_fragments (sound : d.Sound) (spreads : d.Spreads) {field : String}
    (isFragments : isFragmentField field = true) :
    Keyed.get? (gathered (spreadRead d)) field =
      Writing.unlessEmpty Piece.own (byName Piece.hasClass (d.pieces.filter fun q => q.field == field)) := by
  have noClass : isFragmentClass field = false := by
    rw [isFragmentClass, isField_of_isFragmentField isFragments]
    rfl
  have empty : Keyed.get? ((spreadRead d).filter fun f => !isFragmentClass f.1) field =
      Writing.unlessEmpty id [] := by
    rw [Keyed.get?_filter (spreadRead d) fun name => !isFragmentClass name, noClass,
      get?_spreadRead_of_not_class spreads noClass, isFragments]
    rfl
  change Keyed.get?
    (addFragments ((spreadRead d).filter fun f => !isFragmentClass f.1) (fragments (spreadRead d))) field
    = _
  rw [get?_addFragments empty, List.nil_append, filter_fragments sound spreads]
  cases byName Piece.hasClass (d.pieces.filter fun q => q.field == field) with
  | nil => rfl
  | cons q rest =>
      simp only [Writing.unlessEmpty, List.map_cons, List.map_id, id_eq]
      rfl

/-- Any other field holds what was written. -/
theorem get?_gathered_of_not_fragments (sound : d.Sound) (spreads : d.Spreads) {name : String}
    (noFragments : isFragmentField name = false) :
    Keyed.get? (gathered (spreadRead d)) name =
      (d.fields.get? name).map fun v => toFields.run (toLinked.run (spelled name v)) := by
  have apart : ∀ f ∈ fragments (spreadRead d), f.1 ≠ name := by
    intro f member
    rw [fragments_eq sound] at member
    rcases List.mem_flatMap.mp member with ⟨_, _, member⟩
    rcases List.mem_map.mp member with ⟨q, _, rfl⟩
    rintro rfl
    cases q <;> cases noFragments
  change Keyed.get? (addFragments ((spreadRead d).filter fun f => !isFragmentClass f.1) (fragments (spreadRead d))) name
    = _
  rw [get?_addFragments_of_ne apart, Keyed.get?_filter (spreadRead d) fun name => !isFragmentClass name]
  cases isClass : isFragmentClass name with
  | false =>
      rw [get?_spreadRead_of_not_class spreads isClass, noFragments]
      rfl
  | true =>
      rw [get?_fields_of_isFragmentClass sound isClass]
      rfl

theorem pieces_of_field (d : ItemData) :
    (d.pieces.filter fun q => q.field == "hasProperty") = d.properties.map .property ∧
      (d.pieces.filter fun q => q.field == "hasSourceLink") = d.sourceLinks.map .source ∧
      (d.pieces.filter fun q => q.field == "hasTargetLink") = d.targetLinks.map .target := by
  simp [pieces, List.filter_append, List.filter_map, Function.comp_def, Piece.field]

/-- The fragments of the three fields, each in the order of its classes. -/
theorem get?_sortedFragments_of_fragments (d : ItemData) {field : String} (isFragments : isFragmentField field = true) :
    d.sortedFragments.fields.get? field =
      Writing.unlessEmpty Piece.own (byName Piece.hasClass (d.pieces.filter fun q => q.field == field)) := by
  rcases pieces_of_field d with ⟨properties, sources, targets⟩
  simp only [isFragmentField, Vocabulary.fragmentFields, List.map_cons, List.map_nil, List.contains_cons,
    List.contains_nil, Bool.or_false, Bool.or_eq_true, beq_iff_eq] at isFragments
  rcases isFragments with rfl | rfl | rfl
  · rw [get?_hasProperty, properties_sortedFragments, properties, byName_map fun _ => rfl, Writing.unlessEmpty_map]
    rfl
  · rw [get?_hasSourceLink, sourceLinks_sortedFragments, sources, byName_map fun _ => rfl, Writing.unlessEmpty_map]
    rfl
  · rw [get?_hasTargetLink, targetLinks_sortedFragments, targets, byName_map fun _ => rfl, Writing.unlessEmpty_map]
    rfl

/-! ## Items -/

/-- A field as it stands when its individual has been gathered. -/
def regained (name : String) (v : Json) : Json := if isFragmentField name then v else spelled name v

theorem field?_regained (options : ReadingOptions) (kind : Option Kind) (sound : d.Sound) (settled : d.Settled) :
    ∀ f ∈ d.fields, Normal.field? options kind f.1 (regained f.1 f.2) = some f.2 := by
  intro f member
  rcases written_fields sound.conforms sound.known f member with ⟨shape, named, written⟩
  have fits := Normal.suits_of_get?_shapes named
  have there := Keyed.get?_of_mem (Writing.sorted_fieldsOf d.entries).nodup member
  have own := settled.fields f.1 f.2 there
  rw [regained]
  split
  · rename_i isFragments
    have notTexts : shape ≠ .texts := by
      rintro rfl
      simp only [Normal.suits, Bool.and_eq_true, beq_iff_eq] at fits
      have clash := fits.1.1.1.2
      rw [show (Vocabulary.fragmentFields.map (·.1)).contains f.1 = true from isFragments] at clash
      cases clash
    exact Normal.field?_written fits written own (.inr ⟨notTexts, Normal.unwrapping_written written notTexts⟩)
  · rename_i noFragments
    exact (spelled_written kind options fits written own (Bool.not_eq_true _ ▸ noFragments)).2

/-- An individual that was read is the one that was written, with its fragments sorted. -/
theorem gathered_spreadRead (sound : d.Sound) (settled : d.Settled) (spreads : d.Spreads) :
    gathered (spreadRead d) = d.sortedFragments.fields.map fun f => (f.1, regained f.1 f.2) := by
  apply (sorted_gathered (sorted_spreadRead d)).ext
    ((Writing.sorted_fieldsOf d.sortedFragments.entries).map fun f => regained f.1 f.2)
  intro name
  change _ = Keyed.get? (d.sortedFragments.fields.map fun f => (f.1, regained f.1 f.2)) name
  rw [Keyed.get?_map d.sortedFragments.fields regained]
  by_cases isFragments : isFragmentField name = true
  · have asItIs : regained name = id := by
      funext v
      exact if_pos isFragments
    rw [get?_gathered_of_fragments sound spreads isFragments, get?_sortedFragments_of_fragments d isFragments, asItIs,
      Option.map_id, id_eq]
  · rw [Bool.not_eq_true] at isFragments
    rw [get?_gathered_of_not_fragments sound spreads isFragments, get?_sortedFragments d isFragments]
    cases found : d.fields.get? name with
    | none => rfl
    | some v =>
        rcases written_fields sound.conforms sound.known _ (Keyed.mem_of_get? found) with ⟨shape, named, written⟩
        have back := spelled_written none .standard (Normal.suits_of_get?_shapes named) written
          (settled.fields name v found) isFragments
        rw [Option.map_some, Option.map_some, regained, if_neg (Bool.eq_false_iff.mp isFragments)]
        exact congrArg some back.1

theorem toFields_ofFields {fields : Fields} (sorted : Keyed.Sorted fields)
    (back : ∀ name ∈ Keyed.names fields, ComesBack name) :
    toFields.run (ofFields fields) =
      .object (fields.map fun f => (f.1, toFields.run (toLinked.run (spelled f.1 f.2)))) := by
  have sameNames : Keyed.names (fields.map fun f => (f.1, spelled f.1 f.2)) = Keyed.names fields := by
    rw [Keyed.names, Keyed.names, List.map_map]
    rfl
  have read := toFields_toLinked_object (sorted.map fun f => spelled f.1 f.2) (sameNames.symm ▸ back)
  rw [List.map_map] at read
  exact read

theorem comesBack_of_mem_fields (sound : d.Sound) {name : String} (member : name ∈ Keyed.names d.fields) :
    ComesBack name := by
  rcases List.mem_map.mp member with ⟨f, inFields, rfl⟩
  rcases written_fields sound.conforms sound.known f inFields with ⟨shape, named, _⟩
  exact comesBack_of_isField (isField_of_get?_shapes named)

theorem comesBack_of_mem_spread (sound : d.Sound) (spreads : d.Spreads) {name : String}
    (member : name ∈ Keyed.names (spread d.fields)) : ComesBack name := by
  have found : Keyed.get? (spread d.fields) name ≠ none := fun absent => Keyed.get?_eq_none_iff.mp absent member
  rw [get?_spread] at found
  by_cases unused : ofClass d.pieces name = []
  · rw [unused] at found
    by_cases there : d.fields.get? name = none
    · rw [there] at found
      exact absurd (by split <;> rfl) found
    · exact comesBack_of_mem_fields sound (Decidable.not_not.mp fun absent => there (Keyed.get?_eq_none_iff.mpr absent))
  · rcases List.exists_mem_of_ne_nil _ unused with ⟨q, inClass⟩
    rcases List.mem_filter.mp inClass with ⟨inPieces, named⟩
    rcases spreads q inPieces with ⟨identifier, notLinked⟩
    rw [beq_iff_eq.mp named] at identifier notLinked
    exact comesBack_of_none (isField_of_isIdentifier identifier) notLinked

/-- The kind of an item is read from its tag, which is wrapped as the references are. -/
theorem kindOf?_of_get? {fields : Fields} {kind : Kind}
    (tag : fields.get? "itemType" = some (Normal.wrapped (.string kind.tag))) : kindOf? fields = some kind := by
  rw [kindOf?, tag, Option.map_some, unwrapping_wrapped]
  exact Kind.ofTag?_tag kind

theorem spelled_itemType (s : String) : toFields.run (toLinked.run (spelled "itemType" (.string s))) =
    Normal.wrapped (.string s) :=
  stays_wrapped s

theorem textField?_toJson (d : ItemData) : d.toJson.textField? "itemType" = some d.kind.tag := by
  have found : d.toJson.field? "itemType" = some (.string d.kind.tag) := d.get?_itemType
  rw [Json.textField?, found]
  rfl

theorem ofItem_toJson (d : ItemData) :
    ofItem d.toJson = ofFields (if d.kind.isIndividual then spread d.fields else d.fields) := by
  have declared : (d.toJson.textField? "itemType").bind Kind.ofTag? = some d.kind := by
    rw [textField?_toJson]
    exact Kind.ofTag?_tag d.kind
  rw [toJson_eq] at declared ⊢
  rw [ofItem]
  simp only [declared, Option.any_some]

/-- Only individuals have fields for fragments. -/
theorem isFragmentField_of_not_isIndividual (sound : d.Sound) (other : ¬ d.kind.isIndividual = true)
    {f : String × Json} (member : f ∈ d.fields) : isFragmentField f.1 = false := by
  have noFragments : ∀ kind ∈ Kind.all, ¬ kind.isIndividual = true → ∀ s ∈ kind.shapes, isFragmentField s.1 = false := by
    decide
  have kinds : d.kind ∈ Kind.all := by cases d.kind <;> decide
  rcases written_fields sound.conforms sound.known f member with ⟨shape, named, _⟩
  exact noFragments d.kind kinds other _ (Keyed.mem_of_get? named)

/-- An item that was written as linked data is read as it was, the fragments of an individual sorted by class. -/
theorem item_ofItem (options : ReadingOptions) (sound : d.Sound) (settled : d.Settled) (spreads : d.Spreads) :
    item options (ofItem d.toJson) = .ofJson d.sortedFragments.toJson := by
  have arranged := d.rearranged_sortedFragments
  have again := field?_regained options (some d.kind) (sound.rearranged arranged)
    (settled.rearranged arranged)
  rw [ofItem_toJson]
  by_cases isIndividual : d.kind.isIndividual = true
  · have read : toFields.run (ofFields (spread d.fields)) = .object (spreadRead d) :=
      toFields_ofFields (sorted_spread _ (Writing.sorted_fieldsOf _)) fun _ => comesBack_of_mem_spread sound spreads
    have tag : Keyed.get? (spreadRead d) "itemType" = some (Normal.wrapped (.string d.kind.tag)) := by
      rw [get?_spreadRead_of_not_class spreads (by decide), if_neg (by decide), d.get?_itemType, Option.map_some,
        spelled_itemType]
    rw [if_pos isIndividual, item, read]
    simp only [kindOf?_of_get? tag, Option.any_some, if_pos isIndividual, gathered_spreadRead sound settled spreads,
      Normal.fields_map again]
    rfl
  · have unsorted : d.sortedFragments = d := by
      cases d with
      | entity | relationship => exact absurd rfl isIndividual
      | _ => rfl
    have read : toFields.run (ofFields d.fields) = .object (d.fields.map fun f => (f.1, regained f.1 f.2)) := by
      have sorted : Keyed.Sorted d.fields := Writing.sorted_fieldsOf _
      rw [toFields_ofFields sorted fun _ => comesBack_of_mem_fields sound]
      refine congrArg Json.object (List.map_congr_left fun f member => Prod.ext rfl ?_)
      rcases written_fields sound.conforms sound.known f member with ⟨shape, named, written⟩
      have noFragments := isFragmentField_of_not_isIndividual sound isIndividual member
      have there := Keyed.get?_of_mem (Writing.sorted_fieldsOf d.entries).nodup member
      have back := spelled_written none options (Normal.suits_of_get?_shapes named) written
        (settled.fields f.1 f.2 there) noFragments
      rw [regained, if_neg (Bool.eq_false_iff.mp noFragments)]
      exact back.1
    have tag : Keyed.get? (d.fields.map fun f => (f.1, regained f.1 f.2)) "itemType" =
        some (Normal.wrapped (.string d.kind.tag)) := by
      rw [Keyed.get?_map d.fields regained, d.get?_itemType]
      rfl
    rw [unsorted] at again ⊢
    rw [if_neg isIndividual, item, read]
    simp only [kindOf?_of_get? tag, Option.any_some, if_neg isIndividual, Normal.fields_map again]
    rfl

end JsonLd
end ProductGraph
