import ProductGraph.Proofs.Consistency.Mirror
import ProductGraph.Proofs.Document.JsonLd.RoundTrip

namespace ProductGraph

/-!
# Bounds that can be met

How often a property may occur is bounded from below and from above, and each bound is taken from the nearest class
upwards that declares it, or is standard if no class does.  A class is accepted for what it declares itself, so two
bounds contradict one another only if they come from different places.  No check of the graph compares such bounds.

They are compared by being used: a number of values that respects both bounds lies between them.  So in a clean package
the bounds of a property class can be met if one class declares both of them or if some individual has a value of it.
Nothing is promised of a property class whose bounds come from different places and that nothing uses.
-/

namespace Graph

variable {α : Type} {g : Graph} {id : String}

/-- The class that says something for a property class: itself, or the nearest above it that does. -/
def declarer? (g : Graph) (id : String) (declares : PropertyClass → Option α) : Option PropertyClass :=
  g.inherited id fun
    | .propertyClass p => (declares p).map fun _ => p
    | _ => none

/-- Whether the class that says how often a property occurs at least says also how often it occurs at most. -/
def DeclaredTogether (g : Graph) (id : String) : Prop :=
  ∀ p, g.declarer? id PropertyClass.minCount = some p → g.declarer? id PropertyClass.maxCount = some p

/-- Whether some individual has a value of a property. -/
def Used (g : Graph) (id : String) : Prop := ∃ d ∈ g.individuals, ∃ v ∈ d.properties, v.hasClass = id

/-- What a property class declares is what its declarer declares. -/
theorem facet?_eq_bind_declarer? (declares : PropertyClass → Option α) :
    g.facet? id declares = (g.declarer? id declares).bind declares := by
  rw [facet?, declarer?, inherited, inherited]
  induction g.line id with
  | nil => rfl
  | cons d rest ih =>
      cases d with
      | propertyClass p =>
          cases declared : declares p with
          | none => simp only [List.findSome?_cons, declared, Option.map_none, ih]
          | some a => simp only [List.findSome?_cons, declared, Option.map_some, Option.bind_some]
      | _ => simpa only [List.findSome?_cons] using ih

theorem mem_items_of_declarer? {declares : PropertyClass → Option α} {p : PropertyClass}
    (found : g.declarer? id declares = some p) : .propertyClass p ∈ g.items ∧ (declares p).isSome := by
  rcases List.exists_of_findSome?_eq_some found with ⟨d, inLine, spoken⟩
  cases d with
  | propertyClass q =>
      rcases Option.map_eq_some_iff.mp spoken with ⟨a, declared, rfl⟩
      exact ⟨mem_items_of_mem_line inLine, Option.isSome_of_eq_some declared⟩
  | _ => cases spoken

end Graph

/-! ## Bounds that one class declares -/

namespace Validation

/-- The bounds that an accepted property class declares itself are in order. -/
theorem minCount_le_maxCount {p : PropertyClass} (valid : item (.propertyClass p) = .ok ()) {least greatest : Nat}
    (atLeast : p.minCount = some least) (atMost : p.maxCount = some greatest) : least ≤ greatest := by
  rcases Outcome.unit_bind_eq_ok.mp valid with ⟨_, valid⟩
  rcases Outcome.unit_bind_eq_ok.mp valid with ⟨_, valid⟩
  rcases Outcome.unit_bind_eq_ok.mp valid with ⟨inOrder, _⟩
  by_contra apart
  simp [countRange, atLeast, atMost, refuseIf, Nat.lt_of_not_le apart] at inOrder

end Validation

namespace Graph

open Consistency

variable {g : Graph} {id : String}

theorem minCount_le_maxCount_of_declaredTogether (valid : ∀ d ∈ g.items, Validation.item d = .ok ())
    (together : g.DeclaredTogether id) : g.minCount id ≤ g.maxCount id := by
  rw [minCount, maxCount, facet?_eq_bind_declarer?, facet?_eq_bind_declarer?]
  cases least : g.declarer? id PropertyClass.minCount with
  | none => exact Nat.zero_le _
  | some p =>
      rw [together p least, Option.bind_some, Option.bind_some]
      rcases mem_items_of_declarer? least with ⟨member, atLeast⟩
      rcases Option.isSome_iff_exists.mp atLeast with ⟨m, minCount⟩
      rcases Option.isSome_iff_exists.mp (mem_items_of_declarer? (together p least)).2 with ⟨n, maxCount⟩
      rw [minCount, maxCount]
      exact Validation.minCount_le_maxCount (valid _ member) minCount maxCount

/-! ## Bounds of a property that is used -/

/-- An individual that keeps the counts and has a value of a property shows that its bounds can be met. -/
theorem minCount_le_maxCount_of_used {lang : String} (clean : cardinality g lang = none) {p : PropertyClass}
    (known : g.get? id = some (.propertyClass p)) (used : g.Used id) : g.minCount id ≤ g.maxCount id := by
  rcases used with ⟨d, individual, v, member, rfl⟩
  have silent := Option.map_eq_none_iff.mp (List.findSome?_eq_none_iff.mp clean d individual)
  have keeps := individualCardinality_eq_none_iff.mp silent
  have between : ∃ count, g.Within v.hasClass count := by
    by_cases textual : g.Textual v.hasClass
    · exact ⟨_, keeps.text v member p known textual⟩
    · exact ⟨_, keeps.other v member p known textual⟩
  rcases between with ⟨count, within⟩
  rcases within_iff.mp within with ⟨above, below⟩
  exact Nat.le_trans above below

end Graph

/-! ## Doors and their widths -/

namespace Package

/-- A width, which is a size and has at least two values. -/
def width : PropertyClass :=
  ⟨⟨"ex:width", some "ex:size", [], []⟩, none, none, some 2, none, none, none, none, none, none⟩

/-- A size, which has so many values at most, a width, and doors, which have a width. -/
def doorClasses (greatest : Nat) : List ItemData :=
  [.propertyClass ⟨⟨"ex:size", none, [], []⟩, some "pig:Property", some "xs:integer", none, some greatest, none, none,
      none, none, none⟩,
    .propertyClass width,
    .entityClass ⟨⟨"ex:Door", none, [], []⟩, ⟨some ["ex:width"], none⟩, some "pig:Entity", none⟩]

def door (widths : List String) : ItemData :=
  .entity ⟨⟨"ex:door", none, [], []⟩,
    ⟨none, [], some "2025-01-01T00:00:00Z", none, widths.map fun w => ⟨"ex:width", w, none⟩⟩, "ex:Door", []⟩

/-- Doors that have one width at most and are missing, and a door that has two widths and may have three. -/
def doorContents : List (List ItemData) := [doorClasses 1, doorClasses 3 ++ [door ["80", "90"]]]

def doorPackage (contents : List ItemData) : Package :=
  ⟨⟨some "ex:doors", [], [], none, none⟩, [], contents.map ItemData.restored⟩

theorem sortedFragments_door (widths : List String) : (door widths).sortedFragments = door widths := by
  have alike : (widths.map fun w => (⟨"ex:width", w, none⟩ : PropertyValue)).Pairwise
      fun v w => decide (v.hasClass ≤ w.hasClass) = true := by
    rw [List.pairwise_map]
    exact List.pairwise_of_forall fun _ _ => decide_eq_true (le_refl "ex:width")
  have sorted := List.mergeSort_of_pairwise alike
  simp only [door, ItemData.sortedFragments, byName, sorted, List.mergeSort_nil]

theorem contents_sorted_doorPackage {contents : List ItemData} (known : contents ∈ doorContents) :
    (doorPackage contents).sorted.contents = contents := by
  rw [contents_sorted, doorPackage, contents_restored]
  simp only [doorContents, List.mem_cons, List.not_mem_nil, or_false] at known
  rcases known with rfl | rfl
  · rfl
  · rw [List.map_append, List.map_singleton, sortedFragments_door]
    rfl

theorem ofText_doorPackage {contents : List ItemData} (known : contents ∈ doorContents) :
    Package.ofText Schemas.library.validator .all .standard .jsonLd
        (JsonLd.ofDocument (doorPackage contents).toDocument).pretty =
      .ok ((doorPackage contents).sorted, ⟨contents.length, [], none⟩) := by
  have contents_eq : (doorPackage contents).contents = contents := contents_restored _ _ _
  have header : ∀ s ∈ (doorPackage contents).header.id.toList, Identifies s := by
    have named : Identifies "ex:doors" := by decide +kernel
    exact fun s member => List.mem_singleton.mp member ▸ named
  have each : ∀ contents ∈ doorContents, (⟨contents⟩ : Graph).check .all "en" = none ∧ ∀ d ∈ contents, d.Plain := by
    decide +kernel
  rcases each contents known with ⟨clean, plain⟩
  have consistent : (doorPackage contents).sorted.check .all "en" = none := by
    rw [Package.check, Package.graph, contents_sorted_doorPackage known]
    exact clean
  have made := ofText_pretty_of_plain (p := doorPackage contents)
    ⟨⟨PackageHeader.conforms_of_identifies header, rfl, rfl⟩, nofun, nofun⟩ (contents_eq.symm ▸ plain) .all .standard
  have lang : ReadingOptions.standard.defaultLanguage = "en" := rfl
  rw [made, lang, consistent, contents_eq]

/-! ## Clean packages -/

/-- In a package from a text that was read without a failure and passes all checks, the bounds of a property class can
be met if some individual has a value of it, or if one class declares both bounds. -/
theorem minCount_le_maxCount_of_isClean {schemas : Validator} {options : ReadingOptions} {format : Format}
    {text : String} {p : Package} {report : ImportReport}
    (made : Package.ofText schemas .all options format text = .ok (p, report))
    (clean : report.isClean = true) {c : PropertyClass} (member : .propertyClass c ∈ p.contents)
    (shown : p.graph.Used c.identifiable.id ∨ p.graph.DeclaredTogether c.identifiable.id) :
    p.graph.minCount c.identifiable.id ≤ p.graph.maxCount c.identifiable.id := by
  have built : p.Built schemas := .ofText made
  rcases Outcome.bind_eq_ok.mp made with ⟨document, _, instantiated⟩
  have violation := (ofDocument_eq_ok.mp instantiated).2.2.2.2
  have consistent : p.check .all options.defaultLanguage = none := by
    rw [ImportReport.isClean, Bool.and_eq_true, Option.isNone_iff_eq_none, violation] at clean
    exact clean.2
  have silent := (Graph.check_eq_none_iff p.graph .all options.defaultLanguage).mp consistent
  rcases shown with used | together
  · have distinct : p.graph.ids.Nodup := by
      by_contra repeated
      have reported := (Graph.isSome_duplicateIds p.graph options.defaultLanguage).mpr repeated
      rw [silent .duplicateIds rfl] at reported
      cases reported
    have found : p.graph.get? c.identifiable.id = some (.propertyClass c) :=
      Graph.get?_of_mem distinct member rfl
    exact Graph.minCount_le_maxCount_of_used (silent .cardinality rfl) found used
  · exact Graph.minCount_le_maxCount_of_declaredTogether (fun d member => built.valid member) together

theorem minCount_le_maxCount_of_isClean_door :
    ∃ text p report, Package.ofText Schemas.library.validator .all .standard .jsonLd text = .ok (p, report) ∧
      report.isClean = true ∧ .propertyClass width ∈ p.contents ∧ p.graph.Used width.identifiable.id ∧
        (p.graph.minCount width.identifiable.id, p.graph.maxCount width.identifiable.id) = (2, 3) ∧
        p.graph.minCount width.identifiable.id ≤ p.graph.maxCount width.identifiable.id := by
  have known : doorClasses 3 ++ [door ["80", "90"]] ∈ doorContents := List.mem_cons_of_mem _ List.mem_cons_self
  have contents := contents_sorted_doorPackage known
  have made := ofText_doorPackage known
  have member : .propertyClass width ∈ (doorPackage (doorClasses 3 ++ [door ["80", "90"]])).sorted.contents := by
    rw [contents]
    exact List.mem_cons_of_mem _ List.mem_cons_self
  have used : (doorPackage (doorClasses 3 ++ [door ["80", "90"]])).sorted.graph.Used width.identifiable.id := by
    rw [Package.graph, contents]
    exact ⟨door ["80", "90"], by decide, ⟨"ex:width", "80", none⟩, by decide, rfl⟩
  have bounds := minCount_le_maxCount_of_isClean made rfl member (.inl used)
  refine ⟨_, _, _, made, rfl, member, used, ?_, bounds⟩
  rw [Package.graph, contents]
  decide +kernel

/-- The bounds of a property class in a clean package may contradict one another: two values at least by what the class
declares itself, one at most by what it takes over. -/
theorem exists_isClean_maxCount_lt_minCount :
    ∃ text p report, Package.ofText Schemas.library.validator .all .standard .jsonLd text = .ok (p, report) ∧
      report.isClean = true ∧ .propertyClass width ∈ p.contents ∧
        ¬ p.graph.minCount width.identifiable.id ≤ p.graph.maxCount width.identifiable.id := by
  have known : doorClasses 1 ∈ doorContents := List.mem_cons_self
  have contents := contents_sorted_doorPackage known
  refine ⟨_, _, _, ofText_doorPackage known, rfl, ?_, ?_⟩
  · rw [contents]
    exact List.mem_cons_of_mem _ List.mem_cons_self
  · rw [Package.graph, contents]
    decide +kernel

end Package
end ProductGraph
