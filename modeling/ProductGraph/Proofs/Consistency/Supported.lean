import Mathlib.Data.List.Find
import ProductGraph.Item.Validation
import ProductGraph.Proofs.Consistency.Mirror
import ProductGraph.Proofs.Graph.Supported
import ProductGraph.Proofs.Outcome

namespace ProductGraph

/-!
# What the checks make of unsupported datatypes

The values of a datatype that is not supported are opaque text.  Whether the class may declare a facet, and whether a
value is admitted, is decided in this sense: with the datatype of text instead, the same items are accepted and seven of
the eight checks report the same violation or none.

The check of cardinality is the exception.  It counts text by language and takes a datatype that is not supported for
one that is not text, so it counts the values of all languages together.  The verdict is the same where no individual
has values of such a class in two languages.
-/

/-! ## Single items -/

namespace Validation

/-- Facets are right where the datatype is textual if text is bounded, and numeric if numbers are. -/
theorem facets_eq_ok_iff {p : PropertyClass} : facets p = .ok () ↔ ∀ datatype, p.declaredDatatype = some datatype →
    (datatype.isTextual = false → p.maxLength = none ∧ p.pattern = none) ∧
      (datatype.isNumeric = false → p.minInclusive = none ∧ p.maxInclusive = none) := by
  rw [facets, PropertyClass.declaredDatatype]
  cases p.datatype with
  | none => simp
  | some term =>
      simp only [Option.map_some, Option.some.injEq, forall_eq', refuseIf, Outcome.unit_bind_eq_ok]
      cases (Datatype.ofTerm term).isTextual <;> cases (Datatype.ofTerm term).isNumeric <;>
        cases p.maxLength <;> cases p.pattern <;> cases p.minInclusive <;> cases p.maxInclusive <;> simp

theorem facets_withSupportedDatatype {p : PropertyClass} :
    facets p.withSupportedDatatype = .ok () ↔ facets p = .ok () := by
  rw [facets_eq_ok_iff, facets_eq_ok_iff, p.declaredDatatype_withSupportedDatatype]
  cases p.declaredDatatype with
  | none => simp
  | some datatype =>
      simp only [Option.map_some, Option.some.injEq, forall_eq', datatype.isTextual_orText, datatype.isNumeric_orText]
      rfl

/-- An item obeys the rules for single items with the datatype of text exactly if it obeys them with one that is not
supported. -/
theorem item_withSupportedDatatype (d : ItemData) : item d.withSupportedDatatype = .ok () ↔ item d = .ok () := by
  cases d with
  | propertyClass p =>
      have rules : ∀ q, propertyClass q = .ok () ↔ countRange q = .ok () ∧ inclusiveRange q = .ok () ∧
          pattern q = .ok () ∧ facets q = .ok () ∧
            noRepetition q.identifiable.id "composedProperty" q.composedProperty = .ok () := by
        intro q
        simp only [propertyClass, Outcome.unit_bind_eq_ok]
      simp only [ItemData.withSupportedDatatype, item, Outcome.unit_bind_eq_ok, rules, facets_withSupportedDatatype]
      exact Iff.rfl
  | _ => exact Iff.rfl

end Validation

/-! ## Checks -/

namespace Datatype

theorem admits_orText (datatype : Datatype) (text : String) : datatype.orText.admits text = datatype.admits text := by
  cases datatype <;> rfl

/-- Opaque text is never refused. -/
theorem orText_of_not_admits {datatype : Datatype} {text : String} (refused : datatype.admits text = false) :
    datatype.orText = datatype := by
  cases datatype with
  | other => cases refused
  | _ => rfl

end Datatype

open ItemData Consistency

namespace Consistency

variable (d : ItemData)

theorem references_withSupportedDatatype : references d.withSupportedDatatype = references d := by
  simp only [references, kind_withSupportedDatatype, parent?_withSupportedDatatype, hasClass_withSupportedDatatype,
    properties_withSupportedDatatype, sourceLinks_withSupportedDatatype, targetLinks_withSupportedDatatype]

theorem linksOf_withSupportedDatatype : linksOf d.withSupportedDatatype = linksOf d := by
  cases d <;> rfl

theorem classAtEnd_withSupportedDatatype : classAtEnd d.withSupportedDatatype = classAtEnd d := by
  simp only [classAtEnd, kind_withSupportedDatatype, label_withSupportedDatatype, hasClass_withSupportedDatatype]

theorem valuesOf_withSupportedDatatype : valuesOf d.withSupportedDatatype = valuesOf d := by
  cases d <;> rfl

end Consistency

namespace Graph

variable {g : Graph}

theorem referenceCause?_withSupportedDatatypes (r : Reference) :
    referenceCause? g.withSupportedDatatypes r = referenceCause? g r := by
  rw [referenceCause?, referenceCause?, get?_withSupportedDatatypes]
  cases g.get? r.target with
  | none => rfl
  | some d => simp only [Option.map_some, kind_withSupportedDatatype]

theorem targetCause?_withSupportedDatatypes (link : LinkValue) :
    targetCause? g.withSupportedDatatypes link = targetCause? g link := by
  rw [targetCause?, targetCause?, get?_withSupportedDatatypes, endpoints?_withSupportedDatatypes]
  cases g.get? link.idRef with
  | none => rfl
  | some d => simp only [Option.map_some, classAtEnd_withSupportedDatatype, isA_withSupportedDatatypes]

theorem foreign?_withSupportedDatatypes (allowed classes : List String) :
    foreign? g.withSupportedDatatypes allowed classes = foreign? g allowed classes := by
  simp only [foreign?, isA_withSupportedDatatypes]

theorem allowedLinks_withSupportedDatatypes (d : ItemData) :
    allowedLinks g.withSupportedDatatypes d.withSupportedDatatype = allowedLinks g d := by
  cases d with
  | entity => simp only [withSupportedDatatype, allowedLinks, targetLinks?_withSupportedDatatypes]
  | relationship =>
      simp only [withSupportedDatatype, allowedLinks, sourceLink?_withSupportedDatatypes,
        targetLink?_withSupportedDatatypes]
  | _ => rfl

/-- A value is as right as it was: opaque text is admitted like any text, and neither is a number. -/
theorem valueCause?_withSupportedDatatypes (value : PropertyValue) :
    valueCause? g.withSupportedDatatypes value = valueCause? g value := by
  have datatype : (g.withSupportedDatatypes.datatype? value.hasClass).getD .string =
      ((g.datatype? value.hasClass).getD .string).orText := by
    rw [datatype?_withSupportedDatatypes]
    cases g.datatype? value.hasClass <;> rfl
  simp only [valueCause?, lengthCause?, patternCause?, boundCause?, datatype, Datatype.admits_orText,
    Datatype.isNumeric_orText, propertyClass?_withSupportedDatatypes, Option.isNone_map,
    facet?_withSupportedDatatypes PropertyClass.maxLength fun _ => rfl,
    facet?_withSupportedDatatypes PropertyClass.pattern fun _ => rfl,
    facet?_withSupportedDatatypes PropertyClass.minInclusive fun _ => rfl,
    facet?_withSupportedDatatypes PropertyClass.maxInclusive fun _ => rfl]
  split
  · rfl
  · cases admitted : ((g.datatype? value.hasClass).getD .string).admits value.value with
    | true => rfl
    | false => rw [Datatype.orText_of_not_admits admitted]

/-- Seven of the eight checks report what they reported. -/
theorem violation?_withSupportedDatatypes {c : Check} (other : c ≠ .cardinality) (lang : String) :
    g.withSupportedDatatypes.violation? lang c = g.violation? lang c := by
  cases c with
  | duplicateIds =>
      rw [violation?, violation?, duplicateIds, duplicateIds, duplicates, duplicates, items_withSupportedDatatypes,
        duplicatesFrom_withSupportedDatatype]
  | classReferences =>
      simp only [violation?, classReferences, items_withSupportedDatatypes, List.findSome?_map, Function.comp_def,
        references_withSupportedDatatype, label_withSupportedDatatype, referenceCause?_withSupportedDatatypes]
  | specializationCycles =>
      simp only [violation?, specializationCycles, items_withSupportedDatatypes, List.findSome?_map,
        Function.comp_def, id?_withSupportedDatatype, parent?_withSupportedDatatype, cycle?_withSupportedDatatypes]
  | cardinality => exact absurd rfl other
  | linkTargets =>
      simp only [violation?, linkTargets, items_withSupportedDatatypes, List.findSome?_map, Function.comp_def,
        linksOf_withSupportedDatatype, label_withSupportedDatatype, targetCause?_withSupportedDatatypes]
  | eligibleProperties =>
      simp only [violation?, eligibleProperties, individuals_withSupportedDatatypes, List.findSome?_map,
        Function.comp_def, hasClass_withSupportedDatatype, properties_withSupportedDatatype,
        label_withSupportedDatatype, properties?_withSupportedDatatypes, foreign?_withSupportedDatatypes]
  | eligibleLinks =>
      simp only [violation?, eligibleLinks, individuals_withSupportedDatatypes, List.findSome?_map, Function.comp_def,
        hasClass_withSupportedDatatype, label_withSupportedDatatype, allowedLinks_withSupportedDatatypes,
        foreign?_withSupportedDatatypes]
  | valueConstraints =>
      simp only [violation?, valueConstraints, items_withSupportedDatatypes, List.findSome?_map, Function.comp_def,
        valuesOf_withSupportedDatatype, label_withSupportedDatatype, valueCause?_withSupportedDatatypes]

/-! ## Cardinality -/

/-- The nearest datatype that is declared upward is not supported. -/
def Unsupported (g : Graph) (id : String) : Prop :=
  ∃ term, g.Nearest (ItemData.declared PropertyClass.datatype) term id ∧ (Datatype.ofTerm term).isSupported = false

/-- The values of an individual are of one language under each class whose datatype is not supported, those without
a language being of a given one. -/
def OneLanguage (g : Graph) (lang : String) (d : ItemData) : Prop :=
  ∀ v ∈ d.properties, ∀ w ∈ d.properties, w.hasClass = v.hasClass → g.Unsupported v.hasClass →
    w.lang.getD lang = v.lang.getD lang

variable {id lang : String}

theorem unsupported_iff : g.Unsupported id ↔ ∃ datatype, g.datatype? id = some datatype ∧
    datatype.isSupported = false := by
  simp only [Unsupported, ← inherited_eq_some_iff, datatype?_eq, Option.map_eq_some_iff]
  constructor
  · rintro ⟨term, nearest, unsupported⟩
    exact ⟨_, ⟨term, nearest, rfl⟩, unsupported⟩
  · rintro ⟨_, ⟨term, nearest, rfl⟩, unsupported⟩
    exact ⟨term, nearest, unsupported⟩

/-- A datatype that is not supported is not that of text. -/
theorem not_textual_of_unsupported (unsupported : g.Unsupported id) : ¬ g.Textual id := by
  rintro textual
  rcases unsupported with ⟨term, nearest, unsupported⟩
  rw [textual term nearest] at unsupported
  cases unsupported

theorem textual_withSupportedDatatypes_iff :
    g.withSupportedDatatypes.Textual id ↔ g.Textual id ∨ g.Unsupported id := by
  rw [← isText_iff, ← isText_iff, unsupported_iff, isText, isText, datatype?_withSupportedDatatypes]
  cases g.datatype? id with
  | none => simp
  | some datatype => cases datatype <;> simp [Datatype.orText, Datatype.isSupported]

theorem within_withSupportedDatatypes_iff {count : Nat} :
    g.withSupportedDatatypes.Within id count ↔ g.Within id count := by
  rw [within_iff, within_iff, minCount_withSupportedDatatypes, maxCount_withSupportedDatatypes]

theorem forall_propertyClass_withSupportedDatatypes {q : Prop} :
    (∀ p, g.withSupportedDatatypes.get? id = some (.propertyClass p) → q) ↔
      ∀ p, g.get? id = some (.propertyClass p) → q := by
  simp only [← propertyClass?_eq_some_iff, propertyClass?_withSupportedDatatypes]
  cases g.propertyClass? id <;> simp

/-- Values of one language are counted alike by language and all together. -/
theorem isSome_occurrenceCause?_withSupportedDatatypes {property : String} {values : List PropertyValue}
    {v : PropertyValue} (member : v ∈ values)
    (oneLanguage : g.Unsupported property → ∀ v ∈ values, ∀ w ∈ values, w.lang.getD lang = v.lang.getD lang) :
    (occurrenceCause? g.withSupportedDatatypes lang property values).isSome =
      (occurrenceCause? g lang property values).isSome := by
  have none_iff : occurrenceCause? g.withSupportedDatatypes lang property values = none ↔
      occurrenceCause? g lang property values = none := by
    simp only [occurrenceCause?_eq_none_iff, forall_propertyClass_withSupportedDatatypes,
      textual_withSupportedDatatypes_iff, within_withSupportedDatatypes_iff]
    refine forall_congr' fun p => imp_congr_right fun _ => ?_
    by_cases unsupported : g.Unsupported property
    · have total : ∀ v ∈ values,
          (values.countP fun w => w.lang.getD lang == v.lang.getD lang) = values.length := fun v inValues =>
        List.countP_eq_length.mpr fun w inside => beq_iff_eq.mpr (oneLanguage unsupported v inValues w inside)
      simp only [unsupported, not_textual_of_unsupported unsupported, or_true, true_imp_iff, not_true_eq_false,
        false_imp_iff, and_true, true_and, not_false_eq_true]
      exact ⟨fun each => total v member ▸ each v member, fun all w inside => (total w inside).symm ▸ all⟩
    · simp only [unsupported, or_false]
  rw [Bool.eq_iff_iff, ← Option.ne_none_iff_isSome, ← Option.ne_none_iff_isSome]
  exact not_congr none_iff

theorem isSome_absenceCause?_withSupportedDatatypes (property : String) :
    (absenceCause? g.withSupportedDatatypes lang property).isSome = (absenceCause? g lang property).isSome := by
  simp only [absenceCause?, propertyClass?_withSupportedDatatypes, Option.isNone_map, minCount_withSupportedDatatypes]
  split
  · rfl
  · split <;> split <;> rfl

/-- An individual whose values are of one language has too many or too few of them as before. -/
theorem isSome_individualCardinality_withSupportedDatatypes {d : ItemData} (oneLanguage : g.OneLanguage lang d) :
    (individualCardinality g.withSupportedDatatypes lang d.withSupportedDatatype).isSome =
      (individualCardinality g lang d).isSome := by
  have lists : g.withSupportedDatatypes.properties? = g.properties? :=
    funext fun _ => properties?_withSupportedDatatypes
  rw [isSome_individualCardinality, isSome_individualCardinality, properties_withSupportedDatatype,
    hasClass_withSupportedDatatype, lists]
  simp only [isA_withSupportedDatatypes, isSome_absenceCause?_withSupportedDatatypes]
  congr 1
  refine any_eq_of_mem fun v member => ?_
  refine isSome_occurrenceCause?_withSupportedDatatypes (mem_named_self member) fun unsupported w inGroup x alsoIn => ?_
  rcases List.mem_filter.mp inGroup with ⟨inValues, same⟩
  rcases List.mem_filter.mp alsoIn with ⟨alsoInValues, alsoSame⟩
  have same : w.hasClass = v.hasClass := beq_iff_eq.mp same
  exact oneLanguage w inValues x alsoInValues ((beq_iff_eq.mp alsoSame).trans same.symm) (same ▸ unsupported)

/-- With the datatype of text instead of those that are not supported, the same items are accepted, and the verdict
names the same check or none, provided that values of such datatypes are of one language in each individual where
cardinality is looked at. -/
theorem check_withSupportedDatatypes (g : Graph) (requested : CheckSet) (lang : String)
    (oneLanguage : requested.contains .cardinality = true → ∀ d ∈ g.individuals, g.OneLanguage lang d) :
    (∀ d ∈ g.items, Validation.item d.withSupportedDatatype = .ok () ↔ Validation.item d = .ok ()) ∧
      (g.withSupportedDatatypes.check requested lang).map Violation.check =
        (g.check requested lang).map Violation.check := by
  refine ⟨fun d _ => Validation.item_withSupportedDatatype d, ?_⟩
  rw [map_check_check, map_check_check]
  refine List.find?_congr fun c asked => ?_
  by_cases other : c = .cardinality
  · subst other
    have alike := oneLanguage (List.mem_filter.mp asked).2
    simp only [violation?, isSome_cardinality, individuals_withSupportedDatatypes, List.any_map]
    exact any_eq_of_mem fun d member => isSome_individualCardinality_withSupportedDatatypes (alike d member)
  · rw [violation?_withSupportedDatatypes other]

/-- A page with two notes in the given languages, where its class allows one, of a datatype that is not supported. -/
def notedPage (first second : Option String) : Graph :=
  ⟨[.propertyClass ⟨⟨"ex:note", none, [⟨"Note", none⟩], []⟩, some "pig:Property", some "xs:token", none, some 1,
      none, none, none, none, none⟩,
    .entityClass ⟨⟨"ex:Page", none, [⟨"Page", none⟩], []⟩, ⟨some ["ex:note"], none⟩, some "pig:Entity", none⟩,
    .entity ⟨⟨"ex:page", none, [], []⟩,
      ⟨none, [], some "2025-01-01T00:00:00Z", none, [⟨"ex:note", "Pump", first⟩, ⟨"ex:note", "Pumpe", second⟩]⟩,
      "ex:Page", []⟩]⟩

/-- One note too many in English, which the second note is in by default. -/
theorem check_withSupportedDatatypes_page :
    ((∀ d ∈ (notedPage (some "en") none).items,
        Validation.item d.withSupportedDatatype = .ok () ↔ Validation.item d = .ok ()) ∧
      ((notedPage (some "en") none).withSupportedDatatypes.check .all "en").map Violation.check =
        ((notedPage (some "en") none).check .all "en").map Violation.check) ∧
      ((notedPage (some "en") none).check .all "en").map Violation.check = some .cardinality :=
  have english : ∀ d ∈ (notedPage (some "en") none).individuals, ∀ v ∈ d.properties, ∀ w ∈ d.properties,
      w.lang.getD "en" = v.lang.getD "en" := by decide
  ⟨check_withSupportedDatatypes _ .all "en" fun _ d member v inValues w alsoIn _ _ =>
    english d member v inValues w alsoIn, by decide⟩

/-- One note in each of two languages is one note too many, but not if the notes are said to be text. -/
theorem exists_check_withSupportedDatatypes_ne :
    ∃ g : Graph, (g.check .all "en").map Violation.cause = some (.tooMany 2 1) ∧
      g.withSupportedDatatypes.check .all "en" = none :=
  ⟨notedPage (some "en") (some "de"), by decide⟩

end Graph
end ProductGraph
