import ProductGraph.Proofs.Consistency.Grouping
import ProductGraph.Proofs.Consistency.Verdict
import ProductGraph.Proofs.Graph.Inheritance

namespace ProductGraph

/-!
# What the check of cardinality decides

The check groups the values of an individual by their classes and text once more by language, and looks at one group
after the other.  What it decides names no group: a value of a property class asks for a number of values like it that
lies within the bounds of the class, and a property that has to occur asks for a value whose class is the property or
specializes it.

The bounds and the datatype come from the nearest class upward that declares them, each by itself, and what has to
occur comes from the lists of all classes upward.  A class of values that is no property class asks for nothing.
-/

open Relation (ReflTransGen)

/-- Only one term names the datatype of text. -/
theorem Datatype.ofTerm_eq_string_iff {term : String} : Datatype.ofTerm term = .string ↔ term = "xs:string" := by
  constructor
  · unfold ofTerm
    split <;> simp
  · rintro rfl
    rfl

namespace Graph

variable {g : Graph} {id : String}

theorem propertyClass?_eq_some_iff {p : PropertyClass} :
    g.propertyClass? id = some p ↔ g.get? id = some (.propertyClass p) := by
  rw [propertyClass?]
  split
  · rename_i q found
    simp [found]
  · rename_i other
    exact iff_of_false nofun (other p)

/-! ## Text and bounds -/

/-- The values of a property class are text: no datatype is declared, or the nearest that is declared is that of
text. -/
def Textual (g : Graph) (id : String) : Prop :=
  ∀ term, g.Nearest (ItemData.declared PropertyClass.datatype) term id → term = "xs:string"

/-- The datatype that counts is the one that the nearest term names. -/
theorem datatype?_eq : g.datatype? id =
    (g.inherited id (ItemData.declared PropertyClass.datatype)).map Datatype.ofTerm := by
  rw [datatype?, facet?, inherited, inherited, List.map_findSome?]
  congr 1
  funext d
  cases d <;> rfl

theorem isText_iff : g.isText id = true ↔ g.Textual id := by
  simp only [isText, datatype?_eq, Textual, ← inherited_eq_some_iff]
  cases g.inherited id (ItemData.declared PropertyClass.datatype) with
  | none => simp
  | some term =>
      simp only [Option.map_some, Option.some.injEq, forall_eq', ← Datatype.ofTerm_eq_string_iff]
      cases Datatype.ofTerm term <;> simp

/-- A number of values lies within the bounds of a property class: none at least and one at most if nothing is
declared. -/
def Within (g : Graph) (id : String) (count : Nat) : Prop :=
  ∀ least greatest, g.Effective (ItemData.declared PropertyClass.minCount) 0 id least →
    g.Effective (ItemData.declared PropertyClass.maxCount) 1 id greatest → least ≤ count ∧ count ≤ greatest

theorem within_iff {count : Nat} : g.Within id count ↔ g.minCount id ≤ count ∧ count ≤ g.maxCount id := by
  simp only [Within, effective_iff]
  constructor
  · exact fun within => within _ _ rfl rfl
  · rintro within least greatest rfl rfl
    exact within

/-- A property class has to occur if the nearest least number that is declared is not zero. -/
theorem minCount_pos_iff : 0 < g.minCount id ↔
    ∃ least, g.Nearest (ItemData.declared PropertyClass.minCount) least id ∧ 0 < least := by
  simp only [minCount, ← facet?_eq_some_iff]
  cases g.facet? id PropertyClass.minCount <;> simp

/-- An individual has no property too often or not often enough: as many values of each property class as the class
admits, for each language apart if they are text, and some value of each property that its class lists and that has to
occur. -/
structure KeepsCounts (g : Graph) (lang : String) (d : ItemData) : Prop where
  text : ∀ v ∈ d.properties, ∀ p, g.get? v.hasClass = some (.propertyClass p) → g.Textual v.hasClass →
    g.Within v.hasClass
      (d.properties.countP fun w => w.hasClass == v.hasClass && w.lang.getD lang == v.lang.getD lang)
  other : ∀ v ∈ d.properties, ∀ p, g.get? v.hasClass = some (.propertyClass p) → ¬ g.Textual v.hasClass →
    g.Within v.hasClass (d.properties.countP fun w => w.hasClass == v.hasClass)
  required : ∀ c, d.hasClass = some c → ∀ property, g.Lists ItemData.listedProperties c property →
    ∀ p, g.get? property = some (.propertyClass p) →
      ∀ least, g.Nearest (ItemData.declared PropertyClass.minCount) least property → 0 < least →
        ∃ v ∈ d.properties, ReflTransGen g.Specializes v.hasClass property

/-- The properties that an individual is asked for are those that its class lists or takes over. -/
theorem mem_listed_iff {d : ItemData} {property : String} : property ∈ (d.hasClass.bind g.properties?).getD [] ↔
    ∃ c, d.hasClass = some c ∧ g.Lists ItemData.listedProperties c property := by
  cases d.hasClass with
  | none => simp
  | some c => simp [mem_properties?_iff]

end Graph

namespace Consistency

open ProductGraph.Graph

variable {g : Graph} {lang : String}

/-! ## Groups in which nothing is wrong -/

/-- Nothing is wrong with a count exactly if it lies between the bounds. -/
theorem countCause?_eq_none_iff {least greatest count : Nat} :
    countCause? least greatest count = none ↔ least ≤ count ∧ count ≤ greatest := by
  rw [countCause?]
  split_ifs <;> simp only [false_iff, true_iff] <;> omega

/-- The same holds of a count in one language. -/
theorem languageCause?_eq_none_iff {least greatest count : Nat} :
    languageCause? least greatest lang count = none ↔ least ≤ count ∧ count ≤ greatest := by
  rw [languageCause?]
  split_ifs <;> simp only [false_iff, true_iff] <;> omega

theorem length_named {α : Type} (name : α → String) (key : String) (things : List α) :
    (named name key things).length = things.countP fun thing => name thing == key :=
  List.countP_eq_length_filter.symm

/-- The values of a property class are as many as they may be: in each language that occurs if they are text, and all
together otherwise. -/
theorem occurrenceCause?_eq_none_iff {property : String} {values : List PropertyValue} :
    occurrenceCause? g lang property values = none ↔ ∀ p, g.get? property = some (.propertyClass p) →
      (g.Textual property → ∀ v ∈ values,
        g.Within property (values.countP fun w => w.lang.getD lang == v.lang.getD lang)) ∧
      (¬ g.Textual property → g.Within property values.length) := by
  simp only [within_iff, ← isText_iff, ← propertyClass?_eq_some_iff]
  rw [occurrenceCause?]
  cases g.propertyClass? property with
  | none => simp
  | some p =>
      cases g.isText property with
      | true =>
          simp only [Option.isNone_some, Bool.false_eq_true, if_false, if_true, findSome?_groupedBy_eq_none_iff,
            languageCause?_eq_none_iff, length_named]
          simp
      | false => simp [countCause?_eq_none_iff]

theorem absenceCause?_eq_none_iff {property : String} : absenceCause? g lang property = none ↔
    ∀ p, g.get? property = some (.propertyClass p) → g.minCount property = 0 := by
  simp only [← propertyClass?_eq_some_iff]
  rw [absenceCause?]
  cases g.propertyClass? property with
  | none => simp
  | some p => split_ifs <;> simp_all

/-- Values like one of a group are those of its class that are like it. -/
theorem countP_named {α : Type} (name : α → String) (key : String) (things : List α) (like : α → Bool) :
    (named name key things).countP like = things.countP fun thing => name thing == key && like thing := by
  simp only [named, List.countP_filter, Bool.and_comm]

/-- The values of each class are as many as they may be if those like each of the values are. -/
theorem forall_occurrenceCause?_eq_none_iff {values : List PropertyValue} :
    (∀ v ∈ values,
        occurrenceCause? g lang v.hasClass (named PropertyValue.hasClass v.hasClass values) = none) ↔
      ∀ v ∈ values, ∀ p, g.get? v.hasClass = some (.propertyClass p) →
        (g.Textual v.hasClass → g.Within v.hasClass
          (values.countP fun w => w.hasClass == v.hasClass && w.lang.getD lang == v.lang.getD lang)) ∧
        (¬ g.Textual v.hasClass → g.Within v.hasClass (values.countP fun w => w.hasClass == v.hasClass)) := by
  simp only [occurrenceCause?_eq_none_iff, countP_named, length_named]
  constructor
  · intro counted v member p found
    exact ⟨fun textual => (counted v member p found).1 textual v (mem_named_self member), (counted v member p found).2⟩
  · intro counted v member p found
    refine ⟨fun textual w inGroup => ?_, (counted v member p found).2⟩
    -- A value of the group speaks for its language, and for the class because it is of that class.
    rcases List.mem_filter.mp inGroup with ⟨inValues, same⟩
    have same : w.hasClass = v.hasClass := beq_iff_eq.mp same
    rw [← same] at found textual ⊢
    exact (counted w inValues p found).1 textual

/-- Nothing is wrong with the properties that are absent exactly if none of them has to occur. -/
theorem forall_absenceCause?_eq_none_iff {d : ItemData} {absent : String → Prop} :
    (∀ property, property ∈ (d.hasClass.bind g.properties?).getD [] ∧ absent property →
        absenceCause? g lang property = none) ↔
      ∀ c, d.hasClass = some c → ∀ property, g.Lists ItemData.listedProperties c property →
        ∀ p, g.get? property = some (.propertyClass p) →
          ∀ least, g.Nearest (ItemData.declared PropertyClass.minCount) least property → 0 < least →
            ¬ absent property := by
  simp only [absenceCause?_eq_none_iff, mem_listed_iff]
  constructor
  · intro silent c isClass property listed p found least nearest positive isAbsent
    have notNeeded := silent property ⟨⟨c, isClass, listed⟩, isAbsent⟩ p found
    exact absurd notNeeded (Nat.ne_of_gt (minCount_pos_iff.mpr ⟨least, nearest, positive⟩))
  · rintro present property ⟨⟨c, isClass, listed⟩, isAbsent⟩ p found
    by_contra needed
    rcases minCount_pos_iff.mp (Nat.pos_of_ne_zero needed) with ⟨least, nearest, positive⟩
    exact present c isClass property listed p found least nearest positive isAbsent

/-- A class of values is another class or specializes it exactly if the class of some value does. -/
theorem any_groups_isA (g : Graph) (values : List PropertyValue) (property : String) :
    ((groupedBy PropertyValue.hasClass values).any fun group => g.isA group.1 property) =
      values.any fun v => g.isA v.hasClass property :=
  any_groupedBy _ _ fun c => g.isA c property

/-- Nothing is wrong with the values of an individual exactly if it keeps the counts. -/
theorem individualCardinality_eq_none_iff {d : ItemData} :
    individualCardinality g lang d = none ↔ g.KeepsCounts lang d := by
  rw [individualCardinality, Option.or_eq_none_iff, findSome?_groupedBy_eq_none_iff, List.findSome?_eq_none_iff]
  simp only [Option.map_eq_none_iff, any_groups_isA, List.mem_filter, Bool.not_eq_true', List.any_eq_false,
    isA_iff_reflTransGen]
  rw [forall_occurrenceCause?_eq_none_iff, forall_absenceCause?_eq_none_iff]
  simp only [not_forall, not_not, exists_prop]
  constructor
  · rintro ⟨counted, required⟩
    exact ⟨fun v member p found => (counted v member p found).1, fun v member p found => (counted v member p found).2,
      required⟩
  · rintro ⟨text, other, required⟩
    exact ⟨fun v member p found => ⟨text v member p found, other v member p found⟩, required⟩

end Consistency

namespace Graph

/-- The check of cardinality alone finds nothing exactly if every individual keeps the counts. -/
theorem check_cardinality_eq_none_iff (g : Graph) (lang : String) :
    g.check (.only [.cardinality]) lang = none ↔ ∀ d ∈ g.individuals, g.KeepsCounts lang d := by
  rw [check_only, violation?, Consistency.cardinality, List.findSome?_eq_none_iff]
  simp only [Option.map_eq_none_iff, Consistency.individualCardinality_eq_none_iff]

end Graph
end ProductGraph
