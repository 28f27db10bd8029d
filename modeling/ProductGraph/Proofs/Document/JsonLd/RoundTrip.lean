import ProductGraph.Proofs.Document.JsonLd.Items
import ProductGraph.Proofs.Json.Text

namespace ProductGraph

/-!
# Linked data read back

A package that came from a document is written as linked data and read back: the header and the contents are the same,
the fragments of individuals in the order of their classes, and the namespaces are those that were declared.  Written
once more it gives the same text.
-/

namespace JsonLd

open Json (Legible)
open ItemData

/-! ## What is written can be read as text -/

theorem legible_ofFields {depth : Nat} {pairs : List (String × Json)} (each : ∀ f ∈ pairs, Legible depth f.2) :
    Legible (depth + 1) (.ofFields pairs) :=
  .object (Keyed.sorted_ofList pairs) fun f member => each f (Keyed.mem_ofList member)

/-- Other names do not change what can be read. -/
theorem legible_toLinked {depth : Nat} {v : Json} (legible : Legible depth v) : Legible depth (toLinked.run v) := by
  induction legible with
  | null => exact .null
  | bool b => exact .bool b
  | number back => exact .number back
  | string s => exact .string s
  | array _ ih =>
      rw [Walk.run_array]
      exact .array (List.forall_mem_map.mpr ih)
  | object _ _ ih =>
      rw [toLinked_object]
      exact legible_ofFields (List.forall_mem_map.mpr ih)

theorem legible_strings (depth : Nat) (pairs : List (String × Json)) (each : ∀ f ∈ pairs, ∃ s, f.2 = .string s) :
    Legible (depth + 1) (.ofFields pairs) := by
  refine legible_ofFields fun f member => ?_
  rcases each f member with ⟨s, value⟩
  rw [value]
  exact .string s

theorem legible_wrapped (s : String) : Legible 1 (Normal.wrapped (.string s)) := by
  rw [Normal.wrapped]
  split
  · have sorted : Keyed.Sorted [("id", Json.string s)] := List.pairwise_singleton _ _
    refine .object sorted fun f member => ?_
    cases List.mem_singleton.mp member
    exact .string s
  · exact .string s

theorem legible_languageText (t : LanguageText) : Legible 1 (Writing.languageText t) := by
  refine .object (Writing.sorted_fieldsOf _) fun f member => ?_
  have inEntries := Writing.mem_fieldsOf member
  simp only [List.mem_cons, Prod.mk.injEq, List.not_mem_nil, or_false] at inEntries
  rcases inEntries with ⟨_, value⟩ | ⟨_, value⟩
  · rw [Option.some.inj value]
    exact .string _
  · rcases Option.map_eq_some_iff.mp value.symm with ⟨lang, _, value⟩
    rw [← value]
    exact .string lang

theorem legible_entry (q : Piece) : Legible 2 q.entry := by
  have link : ∀ (l : LinkValue) (kind : Kind), kind ≠ .propertyValue →
      Legible 2 (entry kind (Writing.embeddedLink l)) := by
    intro l kind isLink
    rw [entry, if_neg isLink, Writing.embeddedLink_eq]
    refine legible_ofFields ?_
    simp only [List.forall_mem_cons]
    refine ⟨.string _, legible_strings 0 [("@id", .string kind.tag)] ?_, List.forall_mem_nil _⟩
    simp only [List.forall_mem_cons]
    exact ⟨⟨_, rfl⟩, List.forall_mem_nil _⟩
  cases q with
  | property p =>
      rw [Piece.entry, entry, if_pos rfl, Writing.embeddedProperty_eq]
      rcases p with ⟨hasClass, value, _ | lang⟩
      · refine legible_strings 1 [("@value", .string value)] ?_
        simp only [List.forall_mem_cons]
        exact ⟨⟨_, rfl⟩, List.forall_mem_nil _⟩
      · refine legible_strings 1 [("@value", .string value), ("@language", .string lang)] ?_
        simp only [List.forall_mem_cons]
        exact ⟨⟨_, rfl⟩, ⟨_, rfl⟩, List.forall_mem_nil _⟩
  | source l => exact link l .sourceLinkValue (by decide)
  | target l => exact link l .targetLinkValue (by decide)

theorem legible_texts (list : List String) : Legible 2 (Writing.texts list) := by
  refine .array fun v member => ?_
  rcases List.mem_map.mp member with ⟨s, _, rfl⟩
  exact .string s

theorem unbounded_lt_significandLimit : unbounded < Json.significandLimit := by decide

theorem legible_wrapping_texts (list : List String) : Legible 2 (Normal.wrapping.run (Writing.texts list)) := by
  rw [wrapping_texts]
  refine .array fun v member => ?_
  rcases List.mem_map.mp member with ⟨s, _, rfl⟩
  exact legible_wrapped s

/-- What is written for a field other than fragments can be read, if its real numbers are read back. -/
theorem legible_spelled {name : String} {shape : Shape} {v : Json} (fits : Normal.suits name shape = true)
    (written : shape.Written v) (back : ∀ x, v = .number (.real x) → (Numeral.real x).ReadsBack)
    (noFragments : isFragmentField name = false) : Legible 3 (spelled name v) := by
  simp only [Normal.suits, Bool.and_eq_true, beq_iff_eq] at fits
  rcases fits with ⟨⟨⟨⟨⟨_, isText⟩, shapes⟩, _⟩, _⟩, _⟩
  rw [show (Vocabulary.fragmentFields.map (·.1)).contains name = false from noFragments, eq_comm,
    Bool.or_eq_false_iff, beq_eq_false_iff_ne, beq_eq_false_iff_ne] at shapes
  rw [spelled]
  cases written with
  | identifier | text | exactly =>
      split
      · exact (legible_wrapped _).mono (by decide)
      · exact .string _
  | identifiers | textList =>
      split
      · exact (legible_wrapping_texts _).mono (by decide)
      · exact (legible_texts _).mono (by decide)
  | @texts list _ =>
      have notWrapped : isWrapped name = false := by
        rw [isWrapped, isText]
        simp
      rw [notWrapped, if_neg Bool.false_ne_true]
      have each : ∀ v ∈ list.map Writing.languageText, Legible 1 v :=
        List.forall_mem_map.mpr fun t _ => legible_languageText t
      exact (Legible.array each).mono (by decide)
  | count le =>
      have number := Numeral.readsBack_nat (Nat.lt_of_le_of_lt le unbounded_lt_significandLimit)
      split <;> exact .number number
  | number x => split <;> exact .number (back x rfl)
  | properties => exact absurd rfl shapes.1
  | links => exact absurd rfl shapes.2

/-- Fields can be read once they are written, if each of their values can. -/
theorem legible_spelledFields {depth : Nat} {fields : Fields} (sorted : Keyed.Sorted fields)
    (each : ∀ f ∈ fields, Legible depth (spelled f.1 f.2)) : Legible (depth + 1) (ofFields fields) := by
  refine legible_toLinked (.object (sorted.map fun f => spelled f.1 f.2) ?_)
  exact List.forall_mem_map.mpr each

variable {d : ItemData}

theorem legible_field (sound : d.Sound) (back : ∀ x ∈ d.bounds, (Numeral.real x).ReadsBack) {name : String} {v : Json}
    (there : d.fields.get? name = some v) (noFragments : isFragmentField name = false) :
    Legible 3 (spelled name v) := by
  have member := Keyed.mem_of_get? there
  rcases written_fields sound.conforms sound.known _ member with ⟨shape, named, written⟩
  refine legible_spelled (Normal.suits_of_get?_shapes named) written ?_ noFragments
  rintro x rfl
  exact back x (mem_bounds_of_mem_fields sound member)

theorem legible_ofItem (sound : d.Sound) (spreads : d.Spreads) (back : ∀ x ∈ d.bounds, (Numeral.real x).ReadsBack) :
    Legible 4 (ofItem d.toJson) := by
  have sorted : Keyed.Sorted d.fields := Writing.sorted_fieldsOf _
  rw [ofItem_toJson]
  split
  · refine legible_spelledFields (sorted_spread _ sorted) fun f member => ?_
    have found := Keyed.get?_of_mem (sorted_spread _ sorted).nodup member
    rw [get?_spread] at found
    by_cases absent : ofClass d.pieces f.1 = []
    · rw [absent] at found
      change (if isFragmentField f.1 then none else d.fields.get? f.1) = some f.2 at found
      split at found
      · cases found
      · rename_i noFragments
        exact legible_field sound back found (Bool.not_eq_true _ ▸ noFragments)
    · rcases List.exists_mem_of_ne_nil _ absent with ⟨q, inClass⟩
      rcases List.mem_filter.mp inClass with ⟨inPieces, named⟩
      have noField := isField_of_isIdentifier (spreads q inPieces).1
      have notWrapped : isWrapped f.1 = false := by
        rw [isWrapped, ← beq_iff_eq.mp named, noField, Bool.and_false]
      rw [Writing.unlessEmpty, if_neg (by rwa [List.isEmpty_iff]), Option.some_or] at found
      rw [spelled, notWrapped, if_neg Bool.false_ne_true, ← Option.some.inj found]
      exact .array (List.forall_mem_map.mpr fun q _ => legible_entry q)
  · rename_i noIndividual
    refine legible_spelledFields sorted fun f member => ?_
    have there := Keyed.get?_of_mem sorted.nodup member
    exact legible_field sound back there (isFragmentField_of_not_isIndividual sound noIndividual member)

/-! ## Headers -/

variable {h : PackageHeader}

theorem isField_of_mem_fullFields (sound : h.Sound) {f : String × Json} (member : f ∈ h.fullFields) :
    Vocabulary.isField f.1 = true ∧ isFragmentField f.1 = false := by
  have noFragments : ∀ s ∈ Kind.package.shapes, isFragmentField s.1 = false := by decide
  rcases PackageHeader.written_fullFields sound.conforms f member with ⟨shape, named, _⟩
  exact ⟨isField_of_get?_shapes named, noFragments _ (Keyed.mem_of_get? named)⟩

/-- The fields of a header as they stand beside the context and the graph. -/
def headerFields (h : PackageHeader) : Fields := ((ofFields h.fullFields).fields?).getD []

theorem ofFields_fullFields (h : PackageHeader) : ofFields h.fullFields = .object (headerFields h) := by
  have written : ofFields h.fullFields =
      toLinked.run (.object (h.fullFields.map fun f => (f.1, spelled f.1 f.2))) := rfl
  rw [headerFields, written, toLinked_object]
  rfl

theorem sorted_headerFields (h : PackageHeader) : Keyed.Sorted (headerFields h) := by
  have written : ofFields h.fullFields =
      toLinked.run (.object (h.fullFields.map fun f => (f.1, spelled f.1 f.2))) := rfl
  rw [headerFields, written, toLinked_object]
  exact Keyed.sorted_ofList _

/-- No field of a header is written under the name of the context or of the graph. -/
theorem get?_headerFields (sound : h.Sound) {name : String} (reserved : name = "@context" ∨ name = "@graph") :
    Keyed.get? (headerFields h) name = none := by
  have written : ofFields h.fullFields =
      toLinked.run (.object (h.fullFields.map fun f => (f.1, spelled f.1 f.2))) := rfl
  have apart : ∀ t ∈ Vocabulary.terms, linkedName t.field ≠ "@context" ∧ linkedName t.field ≠ "@graph" := by decide
  rw [Keyed.get?_eq_none_iff]
  intro member
  rcases List.mem_map.mp member with ⟨f, inFields, named⟩
  rw [headerFields, written, toLinked_object] at inFields
  rcases List.mem_map.mp (Keyed.mem_ofList inFields) with ⟨g, inSpelled, rfl⟩
  rcases List.mem_map.mp inSpelled with ⟨own, inHeader, rfl⟩
  rcases Option.isSome_iff_exists.mp (isField_of_mem_fullFields sound inHeader).1 with ⟨t, found⟩
  have same : t.field = own.1 := by simpa using List.find?_some found
  have different := apart t (List.mem_of_find?_eq_some found)
  rw [same] at different
  rcases reserved with rfl | rfl
  · exact different.1 named
  · exact different.2 named

/-- A header is read as it was written. -/
theorem header_headerFields (options : ReadingOptions) (sound : h.Sound) (settled : h.Settled) :
    (match toFields.run (.object (headerFields h)) with
      | .object fields => Normal.fields options (some .package) fields
      | _ => []) = h.fullFields := by
  have sorted : Keyed.Sorted h.fullFields := Writing.sorted_fieldsOf _
  have each : ∀ f ∈ h.fullFields, Stays (spelled f.1 f.2) ∧
      Normal.field? options (some .package) f.1 (spelled f.1 f.2) = some f.2 := by
    intro f member
    rcases PackageHeader.written_fullFields sound.conforms f member with ⟨shape, named, written⟩
    exact spelled_written _ _ (Normal.suits_of_get?_shapes named) written
      (settled.fullFields f.1 f.2 (Keyed.get?_of_mem sorted.nodup member)) (isField_of_mem_fullFields sound member).2
  have read : toFields.run (.object (headerFields h)) = .object (h.fullFields.map fun f => (f.1, spelled f.1 f.2)) := by
    rw [← ofFields_fullFields, toFields_ofFields sorted]
    · exact congrArg Json.object (List.map_congr_left fun f member => Prod.ext rfl (each f member).1)
    · intro name member
      rcases List.mem_map.mp member with ⟨f, inHeader, rfl⟩
      exact comesBack_of_isField (isField_of_mem_fullFields sound inHeader).1
  rw [read]
  exact Normal.fields_map fun f member => (each f member).2

theorem legible_headerFields (sound : h.Sound) : Legible 4 (.object (headerFields h)) := by
  rw [← ofFields_fullFields]
  refine legible_spelledFields (Writing.sorted_fieldsOf _) fun f member => ?_
  have noNumber : ∀ s ∈ Kind.package.shapes, s.2 ≠ .number := by decide
  rcases PackageHeader.written_fullFields sound.conforms f member with ⟨shape, named, written⟩
  refine legible_spelled (Normal.suits_of_get?_shapes named) written ?_ (isField_of_mem_fullFields sound member).2
  intro x value
  rw [value] at written
  cases written
  exact absurd rfl (noNumber _ (Keyed.mem_of_get? named))

/-! ## Documents -/

/-- Namespaces that were declared are all declared again. -/
theorem declaredNamespaces_declaredNamespaces (own : Namespaces) :
    Document.declaredNamespaces (Document.declaredNamespaces own) = Document.declaredNamespaces own := by
  have sorted : ∀ namespaces, Keyed.Sorted (Document.declaredNamespaces namespaces) :=
    fun namespaces => (Keyed.sorted_ofList _).insertAll namespaces
  apply (sorted _).ext (sorted own)
  intro name
  rw [Document.declaredNamespaces, Keyed.get?_insertAll_of_nodup _ (sorted own).nodup]
  cases found : Keyed.get? (Document.declaredNamespaces own) name with
  | some iri => rfl
  | none =>
      rw [Document.declaredNamespaces, Keyed.get?_insertAll, Option.or_eq_none_iff] at found
      rw [found.2]
      rfl

theorem namespaces_map (declared : Namespaces) :
    namespaces (some (.object (declared.map fun n => (n.1, .string n.2)))) = declared := by
  rw [namespaces, List.filterMap_map]
  exact (List.filterMap_eq_map_iff_forall_eq_some.mpr fun n _ => rfl).trans (List.map_id declared)

/-- What a document with a header and contents is written as. -/
theorem ofDocument_eq (namespaces : Namespaces) (h : PackageHeader) (contents : List ItemData) :
    ofDocument ⟨namespaces, h.toFields, contents.map fun d => .ofJson d.toJson⟩ =
      .object (((Keyed.ofList [("@context", Json.object ((Document.declaredNamespaces namespaces).map fun n =>
        (n.1, .string n.2)))]).insertAll (headerFields h)).insert "@graph"
        (.array (contents.map fun d => ofItem d.toJson))) := by
  have full : withPackageKind h.toFields = h.fullFields := h.withKind_toFields
  rw [ofDocument]
  simp only [full, List.map_map]
  rfl

/-- The outermost fields of a document: the context, the header and the graph. -/
def outermost (context : Json) (h : PackageHeader) (graph : Json) : Fields :=
  ((Keyed.ofList [("@context", context)]).insertAll (headerFields h)).insert "@graph" graph

section Outermost

variable {context graph : Json}

theorem sorted_outermost (context : Json) (h : PackageHeader) (graph : Json) :
    Keyed.Sorted (outermost context h graph) :=
  ((Keyed.sorted_ofList _).insertAll _).insert _ _

theorem get?_outermost (context : Json) (h : PackageHeader) (graph : Json) (name : String) :
    Keyed.get? (outermost context h graph) name =
      if "@graph" = name then some graph
      else (Keyed.get? (headerFields h) name).or (if "@context" = name then some context else none) := by
  rw [outermost, Keyed.get?_insert, Keyed.get?_insertAll_of_nodup _ (sorted_headerFields h).nodup]
  rfl

theorem erase_outermost (sound : h.Sound) :
    (Keyed.erase (outermost context h graph) "@context").erase "@graph" = headerFields h := by
  apply (((sorted_outermost context h graph).filter _).filter _).ext (sorted_headerFields h)
  intro name
  change Keyed.get? ((Keyed.erase (outermost context h graph) "@context").erase "@graph") name = _
  rw [Keyed.get?_erase, Keyed.get?_erase, get?_outermost]
  by_cases isGraph : name = "@graph"
  · rw [if_pos isGraph, get?_headerFields sound (.inr isGraph)]
  · by_cases isContext : name = "@context"
    · rw [if_neg isGraph, if_pos isContext, get?_headerFields sound (.inl isContext)]
    · rw [if_neg isGraph, if_neg isContext, if_neg (Ne.symm isGraph), if_neg (Ne.symm isContext), Option.or_none]

theorem legible_outermost (sound : h.Sound) (legibleContext : Legible 5 context) (legibleGraph : Legible 5 graph) :
    Legible 6 (.object (outermost context h graph)) := by
  refine .object (sorted_outermost context h graph) fun f member => ?_
  have found := Keyed.get?_of_mem (sorted_outermost context h graph).nodup member
  rw [get?_outermost] at found
  split at found
  · exact Option.some.inj found ▸ legibleGraph
  · rcases Option.or_eq_some_iff.mp found with inHeader | ⟨_, isContext⟩
    · have legible := legible_headerFields sound
      cases legible with
      | object _ each => exact (each f (Keyed.mem_of_get? inHeader)).mono (by decide)
    · split at isContext
      · exact Option.some.inj isContext ▸ legibleContext
      · cases isContext

end Outermost

/-- A document that was written as linked data is read with its header and its items, their fragments sorted. -/
theorem read_ofDocument (options : ReadingOptions) {p : Package} (package : p.Read)
    (spreads : ∀ d ∈ p.contents, d.Spreads) (back : ∀ d ∈ p.contents, ∀ x ∈ d.bounds, (Numeral.real x).ReadsBack) :
    read options (ofDocument p.toDocument).pretty =
      .ok ⟨Document.declaredNamespaces p.namespaces, p.header.fullFields,
        (p.contents.map sortedFragments).map fun d => .ofJson d.toJson⟩ := by
  rcases package.header with ⟨sound, settled⟩
  let context := Json.object ((Document.declaredNamespaces p.namespaces).map fun n => (n.1, Json.string n.2))
  let graphValue := Json.array (p.contents.map fun d => ofItem d.toJson)
  have written : ofDocument p.toDocument = .object (outermost context p.header graphValue) := ofDocument_eq _ _ _
  have legibleContext : Legible 5 context := by
    have sorted : Keyed.Sorted (Document.declaredNamespaces p.namespaces) := (Keyed.sorted_ofList _).insertAll _
    refine .object (sorted.map fun n => Json.string n.2) (List.forall_mem_map.mpr fun n _ => .string n.2)
  have legible : Legible 5 graphValue := by
    refine .array (List.forall_mem_map.mpr fun d member => ?_)
    exact legible_ofItem (package.contents d member).1 (spreads d member) (back d member)
  have text : Json.ofText? (ofDocument p.toDocument).pretty = some (.object (outermost context p.header graphValue)) := by
    rw [written]
    exact Json.ofText?_pretty ((legible_outermost sound legibleContext legible).mono (by decide))
  have inGraph : Keyed.get? (outermost context p.header graphValue) "@graph" = some graphValue := by
    rw [get?_outermost, if_pos rfl]
  have inContext : Keyed.get? (outermost context p.header graphValue) "@context" = some context := by
    rw [get?_outermost, if_neg (by decide), get?_headerFields sound (.inl rfl), if_pos rfl]
    rfl
  have readsHeader : header options (outermost context p.header graphValue) = p.header.fullFields := by
    rw [header, erase_outermost sound]
    exact header_headerFields options sound settled
  have items : (p.contents.map fun d => ofItem d.toJson).map (item options) =
      (p.contents.map sortedFragments).map fun d => .ofJson d.toJson := by
    rw [List.map_map, List.map_map]
    refine List.map_congr_left fun d member => ?_
    rcases package.contents d member with ⟨sound, settled⟩
    exact item_ofItem options sound settled (spreads d member)
  rw [read, text]
  simp only [inGraph, inContext, graph, readsHeader, Except.map, context, namespaces_map, graphValue, items]

/-- Sorting the fragments keeps those of each class. -/
theorem ofClass_sortedFragments (d : ItemData) (name : String) :
    ofClass d.sortedFragments.pieces name = ofClass d.pieces name := by
  have kept : ∀ {α : Type} (piece : α → Piece) (hasClass : α → String) (list : List α),
      (∀ a, (piece a).hasClass = hasClass a) →
      ((byName hasClass list).map piece).filter (fun q => q.hasClass == name) =
        (list.map piece).filter fun q => q.hasClass == name := by
    intro α piece hasClass list classes
    rw [← byName_map classes, filter_byName]
  simp only [ofClass, pieces, List.filter_append, properties_sortedFragments, sourceLinks_sortedFragments,
    targetLinks_sortedFragments]
  rw [kept .property (·.hasClass) _ fun _ => rfl, kept .source (·.hasClass) _ fun _ => rfl,
    kept .target (·.hasClass) _ fun _ => rfl]

theorem mem_pieces_of_sortedFragments {d : ItemData} {q : Piece} (member : q ∈ d.sortedFragments.pieces) :
    q ∈ d.pieces := by
  have own : q ∈ ofClass d.sortedFragments.pieces q.hasClass := List.mem_filter.mpr ⟨member, beq_self_eq_true _⟩
  rw [ofClass_sortedFragments] at own
  exact (List.mem_filter.mp own).1

/-- Sorting the fragments does not change what is written. -/
theorem ofItem_sortedFragments (d : ItemData) : ofItem d.sortedFragments.toJson = ofItem d.toJson := by
  rw [ofItem_toJson, ofItem_toJson, d.rearranged_sortedFragments.resembles.kind_eq]
  split
  · have same : spread d.sortedFragments.fields = spread d.fields := by
      apply (sorted_spread _ (Writing.sorted_fieldsOf _)).ext (sorted_spread _ (Writing.sorted_fieldsOf _))
      intro name
      change Keyed.get? (spread d.sortedFragments.fields) name = Keyed.get? (spread d.fields) name
      rw [get?_spread, get?_spread, ofClass_sortedFragments]
      split
      · rfl
      · rename_i noFragments
        rw [get?_sortedFragments d (Bool.not_eq_true _ ▸ noFragments)]
    rw [same]
  · rename_i other
    have unsorted : d.sortedFragments = d := by
      cases d with
      | entity | relationship => exact absurd rfl other
      | _ => rfl
    rw [unsorted]

end JsonLd

namespace ItemData

/-- What is to be seen of a content by itself and suffices for it to be written and read: all names are identifiers and
stand for no field, the rules for single items are obeyed, texts and points in time are settled, and no value is
bounded. -/
def Plain (d : ItemData) : Prop :=
  ((∀ s ∈ d.names, Identifies s) ∧ d.CountsKnown ∧ (Validation.item d).isOk = true) ∧
    ((∀ i ∈ d.identifiable, ∀ t ∈ i.description, Markup.asMarkup t.value = t.value) ∧
      ∀ i ∈ d.individual, ∀ s ∈ i.modified, Time.canonical s = s) ∧ d.bounds = [] ∧
    ∀ q ∈ d.pieces, isIdentifier q.hasClass = true ∧ Vocabulary.fieldOfLinked? q.hasClass = none

instance : DecidablePred Plain := fun _ => inferInstanceAs (Decidable (_ ∧ _))

namespace Plain

variable {d : ItemData}

theorem sound (plain : d.Plain) : d.Sound := by
  rcases plain.1 with ⟨names, known, valid⟩
  exact ⟨conforms_of_identifies known names, known, Outcome.isOk_iff.mp valid⟩

theorem settled (plain : d.Plain) : d.Settled := ⟨plain.2.1.1, plain.2.1.2⟩

theorem noBounds (plain : d.Plain) : d.bounds = [] := plain.2.2.1

theorem spreads (plain : d.Plain) : d.Spreads := plain.2.2.2

end Plain

end ItemData

namespace Package

/-- A package whose namespaces are all declared and whose fragments are sorted. -/
def sorted (p : Package) : Package :=
  ⟨p.header, Document.declaredNamespaces p.namespaces, (p.contents.map ItemData.sortedFragments).map ItemData.restored⟩

/-- Linked data that a package was written as gives the package again, with its fragments sorted and its namespaces
declared, and nothing is refused. -/
theorem ofText_pretty {schemas : Validator} (standard : schemas.Standard) {p : Package} (read : p.Read)
    (spreads : ∀ d ∈ p.contents, d.Spreads) (back : ∀ d ∈ p.contents, ∀ x ∈ d.bounds, (Numeral.real x).ReadsBack)
    (checks : CheckSet) (options : ReadingOptions) :
    Package.ofText schemas checks options .jsonLd (JsonLd.ofDocument p.toDocument).pretty =
      .ok (p.sorted, ⟨p.contents.length, [], p.sorted.check checks options.defaultLanguage⟩) := by
  have asRead : ∀ text, Document.ofText .jsonLd options text = JsonLd.read options text := fun _ => rfl
  have document := (asRead _).trans (JsonLd.read_ofDocument options read spreads back)
  have sound : ∀ d ∈ p.contents.map ItemData.sortedFragments, d.Sound :=
    List.forall_mem_map.mpr fun d member => (read.contents d member).1.rearranged d.rearranged_sortedFragments
  refine Outcome.bind_eq_ok.mpr ⟨_, Outcome.mapError_eq_ok.mpr document, ?_⟩
  have made := ofDocument_sound standard read.header.1 sound (Document.declaredNamespaces p.namespaces) checks
    options.defaultLanguage
  rw [List.length_map] at made
  exact made

/-- A package whose header is written and read, and whose contents are plain, comes from the linked data that it is
written as. -/
theorem ofText_pretty_of_plain {p : Package} (header : p.header.Sound ∧ p.header.Settled)
    (plain : ∀ d ∈ p.contents, d.Plain) (checks : CheckSet) (options : ReadingOptions) :
    Package.ofText Schemas.library.validator checks options .jsonLd (JsonLd.ofDocument p.toDocument).pretty =
      .ok (p.sorted, ⟨p.contents.length, [], p.sorted.check checks options.defaultLanguage⟩) := by
  refine ofText_pretty Schemas.library_standard ⟨header, fun d member => ?_⟩ (fun d member => ?_)
    (fun d member x bound => ?_) checks options
  · exact ⟨(plain d member).sound, (plain d member).settled⟩
  · exact (plain d member).spreads
  · rw [(plain d member).noBounds] at bound
    cases bound

theorem contents_sorted (p : Package) : p.sorted.contents = p.contents.map ItemData.sortedFragments :=
  contents_restored _ _ _

/-- A package with its fragments sorted and its namespaces declared is written in the same way. -/
theorem ofDocument_sorted (p : Package) : JsonLd.ofDocument p.sorted.toDocument = JsonLd.ofDocument p.toDocument := by
  have items : p.contents.map (fun d => JsonLd.ofItem d.sortedFragments.toJson) =
      p.contents.map fun d => JsonLd.ofItem d.toJson :=
    List.map_congr_left fun d _ => JsonLd.ofItem_sortedFragments d
  rw [toDocument, toDocument, JsonLd.ofDocument_eq, JsonLd.ofDocument_eq, contents_sorted, List.map_map,
    ← items]
  simp only [sorted, JsonLd.declaredNamespaces_declaredNamespaces]
  rfl

/-- A package that came from a document in either format is written as linked data and read back under any options:
nothing is refused, the header is the same, the namespaces are those declared, and the items with content are the same
in the same order, each with its fragments stably sorted by class.  Written once more it gives the same text.  The
classes of fragments must be no names of linked data, and such that the schemas take them for identifiers only if they
are, and bounds on values must be read back as they are printed. -/
theorem ofText_text_jsonLd {checks : CheckSet} {options : ReadingOptions} {format : Format} {text : String}
    {p : Package} {report : ImportReport}
    (made : Package.ofText Schemas.library.validator checks options format text = .ok (p, report))
    (notLinked : ∀ d ∈ p.contents, ∀ q ∈ d.pieces, Vocabulary.fieldOfLinked? q.hasClass = none)
    (identifies : ∀ d ∈ p.contents, ∀ q ∈ d.pieces,
      SchemaDocument.identifierForm.matchesText q.hasClass = isIdentifier q.hasClass)
    (back : ∀ d ∈ p.contents, ∀ x ∈ d.bounds, (Numeral.real x).ReadsBack)
    (nextChecks : CheckSet) (nextOptions : ReadingOptions) :
    ∃ written next nextReport, p.text .jsonLd = .ok written ∧
      Package.ofText Schemas.library.validator nextChecks nextOptions .jsonLd written = .ok (next, nextReport) ∧
      nextReport.failures = [] ∧ next.header = p.header ∧
      next.namespaces = Document.declaredNamespaces p.namespaces ∧
      next.items.map (·.data) = p.contents.map (fun d => some d.sortedFragments) ∧
      next.text .jsonLd = .ok written := by
  have read := read_of_ofText Schemas.library_standard made
  have spreads : ∀ d ∈ p.contents, d.Spreads := by
    intro d member q inPieces
    refine ⟨?_, notLinked d member q inPieces⟩
    rw [← identifies d member q inPieces]
    exact (read.contents d member).1.identifies q inPieces
  refine ⟨_, p.sorted, _, rfl,
    ofText_pretty Schemas.library_standard read spreads back nextChecks nextOptions, rfl, rfl,
    rfl, ?_, ?_⟩
  · rw [sorted, List.map_map, List.map_map]
    rfl
  · exact congrArg (fun v => Except.ok (Json.pretty v)) p.ofDocument_sorted

theorem ofText_text_jsonLd_car :
    ∃ text p report, Package.ofText Schemas.library.validator .all .standard .jsonLd text = .ok (p, report) ∧
      p.contents = carContents.map ItemData.sortedFragments ∧
      ∃ written next nextReport, p.text .jsonLd = .ok written ∧
        Package.ofText Schemas.library.validator .none ⟨"o", "d", "de"⟩ .jsonLd written = .ok (next, nextReport) ∧
        nextReport.failures = [] ∧ next.header = carPackage.header ∧
        next.items.map (·.data) = p.contents.map (fun d => some d.sortedFragments) ∧
        next.text .jsonLd = .ok written := by
  have ordinary : ∀ d ∈ carContents, ∀ q ∈ d.pieces, Vocabulary.fieldOfLinked? q.hasClass = none ∧
      SchemaDocument.identifierForm.matchesText q.hasClass = isIdentifier q.hasClass ∧
      isIdentifier q.hasClass = true := by
    decide +kernel
  have spreads : ∀ d ∈ carContents, d.Spreads := by
    intro d member q inPieces
    rcases ordinary d member q inPieces with ⟨notLinked, -, isIdentifier⟩
    exact ⟨isIdentifier, notLinked⟩
  have bounded : ∀ d ∈ carContents, ∀ x ∈ d.bounds,
      Json.readNumber (Numeral.real x).text.toList = some (.real x, []) := by
    decide +kernel
  have made := ofText_pretty Schemas.library_standard read_carPackage (contents_carPackage ▸ spreads)
    (contents_carPackage ▸ bounded) .all .standard
  have sorted : carPackage.sorted.contents = carContents.map ItemData.sortedFragments :=
    contents_carPackage ▸ contents_sorted carPackage
  -- what holds of the fragments and bounds of an item holds when its fragments are sorted
  have ofSorted : ∀ {P : ItemData → Prop}, (∀ d ∈ carContents, P d.sortedFragments) →
      ∀ d ∈ carPackage.sorted.contents, P d := by
    intro P each
    rw [sorted]
    exact List.forall_mem_map.mpr each
  have bounds : ∀ d : ItemData, d.sortedFragments.bounds = d.bounds := by
    intro d
    cases d <;> rfl
  refine ⟨_, _, _, made, sorted, ?_⟩
  rcases ofText_text_jsonLd made
    (ofSorted fun d member q inPieces => (ordinary d member q (JsonLd.mem_pieces_of_sortedFragments inPieces)).1)
    (ofSorted fun d member q inPieces => (ordinary d member q (JsonLd.mem_pieces_of_sortedFragments inPieces)).2.1)
    (ofSorted fun d member x inBounds => bounded d member x (bounds d ▸ inBounds))
    .none ⟨"o", "d", "de"⟩ with ⟨written, next, report, first, second, fine, header, _, same, again⟩
  exact ⟨written, next, report, first, second, fine, header, same, again⟩

end Package
end ProductGraph
