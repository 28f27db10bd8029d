import ProductGraph.Package.Import
import ProductGraph.Proofs.Item.Accepted

namespace ProductGraph
namespace Package

open Outcome

/-!
# Packages that can be built

A package starts with a header alone or with a document, gets items one by one, and its items get new values at
their places.  Whatever the order of these steps, each content in the package comes from a value that was accepted
for an item of its kind.
-/

/-- Packages that come about by any sequence of steps under the same schemas. -/
inductive Built (schemas : Validator) : Package → Prop
  | ofHeader (header : PackageHeader) : Built schemas (.ofHeader header)
  | ofDocument {checks : CheckSet} {lang : String} {document : Document} {p : Package} {report : ImportReport}
      (made : Package.ofDocument schemas checks lang document = .ok (p, report)) : Built schemas p
  | ofText {checks : CheckSet} {options : ReadingOptions} {format : Format} {text : String} {p : Package}
      {report : ImportReport}
      (made : Package.ofText schemas checks options format text = .ok (p, report)) : Built schemas p
  | add {p : Package} (before : Built schemas p) (kind : Kind) (value : Json) :
      Built schemas (p.add schemas kind value).1
  | setAt {p after : Package} (before : Built schemas p) {place : Nat} {value : Json} {outcome : SetOutcome}
      (given : p.setAt? schemas place value = some (after, outcome)) : Built schemas after

/-- A content that some value of some kind was accepted as. -/
def Accepted (schemas : Validator) (d : ItemData) : Prop :=
  ∃ kind fields, Item.Accepts schemas kind fields d

variable {schemas : Validator}

theorem mem_contents_iff {p : Package} {d : ItemData} :
    d ∈ p.contents ↔ ∃ item ∈ p.items, item.data = some d :=
  List.mem_filterMap

/-! ## Packages from documents -/

/-- An item of a document that has content has it from its own value. -/
theorem accepts_of_instantiate {source : DocumentItem} {item : Item} {error : Option ItemError}
    (made : instantiate schemas source = .ok (some item, error)) {d : ItemData} (has : item.data = some d) :
    ∃ kind fields, source.kind = some kind ∧ source.value = .object fields ∧
      Item.Accepts schemas kind (Item.withKind kind fields) d := by
  cases known : source.kind with
  | none => simp [instantiate, known] at made
  | some kind =>
      -- Whether the value was accepted or not, the item is the one that it was given to.
      have same : ((Item.empty kind).set schemas source.value).1 = item := by
        cases given : (Item.empty kind).set schemas source.value with
        | mk after outcome => cases outcome <;> simp_all [instantiate]
      cases given : (Item.empty kind).set schemas source.value with
      | mk after outcome =>
          rw [given] at same
          rcases Item.data_of_set given (same ▸ has) with before | ⟨fields, value, accepted⟩
          · cases before
          · exact ⟨kind, fields, rfl, value, accepted⟩

/-- The items made of the items of a document come each from one of them. -/
theorem exists_source_of_instantiateFrom {index : Nat} {sources : List DocumentItem} {items : List Item}
    {failures : List ItemFailure} (made : instantiateFrom schemas index sources = .ok (items, failures))
    {item : Item} (member : item ∈ items) :
    ∃ source ∈ sources, ∃ error, instantiate schemas source = .ok (some item, error) := by
  induction sources generalizing index items failures with
  | nil =>
      rw [instantiateFrom] at made
      cases made
      cases member
  | cons source rest ih =>
      rw [instantiateFrom] at made
      rcases bind_eq_ok.mp made with ⟨⟨here, error⟩, first, made⟩
      rcases bind_eq_ok.mp made with ⟨⟨others, later⟩, behind, made⟩
      cases made
      rcases List.mem_append.mp member with atHead | inRest
      · rw [Option.mem_toList] at atHead
        cases atHead
        exact ⟨source, List.mem_cons_self .., error, first⟩
      · rcases ih behind inRest with ⟨origin, member, instantiates⟩
        exact ⟨origin, List.mem_cons_of_mem _ member, instantiates⟩

/-- The parts of a package that a document became. -/
theorem ofDocument_eq_ok {checks : CheckSet} {lang : String} {document : Document} {p : Package}
    {report : ImportReport} :
    Package.ofDocument schemas checks lang document = .ok (p, report) ↔
      headerOf schemas document.header = .ok p.header ∧ p.namespaces = document.namespaces ∧
        instantiateFrom schemas 0 document.items = .ok (p.items, report.failures) ∧
        report.total = document.items.length ∧ report.violation = p.check checks lang := by
  constructor
  · intro made
    rcases bind_eq_ok.mp made with ⟨header, headed, made⟩
    rcases bind_eq_ok.mp made with ⟨⟨items, failures⟩, instantiated, made⟩
    cases made
    exact ⟨mapError_eq_ok.mp headed, rfl, instantiated, rfl, rfl⟩
  · rintro ⟨headed, declared, instantiated, total, found⟩
    refine bind_eq_ok.mpr ⟨p.header, mapError_eq_ok.mpr headed, bind_eq_ok.mpr ⟨_, instantiated, ?_⟩⟩
    rcases p with ⟨header, namespaces, items⟩
    rcases report with ⟨count, failures, violation⟩
    simp only at declared total found
    subst declared total found
    rfl

/-- Each content of a package from a document is the content that one of the document's values was accepted as. -/
theorem exists_source_of_ofDocument {checks : CheckSet} {lang : String} {document : Document} {p : Package}
    {report : ImportReport} (made : Package.ofDocument schemas checks lang document = .ok (p, report))
    {d : ItemData} (member : d ∈ p.contents) :
    ∃ source ∈ document.items, ∃ kind fields, source.kind = some kind ∧ source.value = .object fields ∧
      Item.Accepts schemas kind (Item.withKind kind fields) d := by
  rcases ofDocument_eq_ok.mp made with ⟨_, _, instantiated, _, _⟩
  rcases mem_contents_iff.mp member with ⟨item, inItems, has⟩
  rcases exists_source_of_instantiateFrom instantiated inItems with ⟨source, inSources, error, instantiates⟩
  exact ⟨source, inSources, accepts_of_instantiate instantiates has⟩

/-! ## What one step adds -/

/-- Each content of a package from a document was accepted. -/
theorem accepted_of_ofDocument {checks : CheckSet} {lang : String} {document : Document} {p : Package}
    {report : ImportReport} (made : Package.ofDocument schemas checks lang document = .ok (p, report))
    {d : ItemData} (member : d ∈ p.contents) : Accepted schemas d := by
  rcases exists_source_of_ofDocument made member with ⟨_, _, kind, fields, _, _, accepted⟩
  exact ⟨kind, _, accepted⟩

/-- A content of a package that got an item is an old one, or it was accepted. -/
theorem accepted_of_add {p : Package} {kind : Kind} {value : Json} {d : ItemData}
    (member : d ∈ (p.add schemas kind value).1.contents) : d ∈ p.contents ∨ Accepted schemas d := by
  rcases mem_contents_iff.mp member with ⟨item, inItems, has⟩
  cases given : (Item.empty kind).set schemas value with
  | mk after outcome =>
      cases outcome with
      | foreignKind other declared =>
          simp only [Package.add, given] at inItems
          exact .inl (mem_contents_iff.mpr ⟨item, inItems, has⟩)
      | accepted | refused =>
          simp only [Package.add, given, List.mem_append, List.mem_singleton] at inItems
          rcases inItems with old | rfl
          · exact .inl (mem_contents_iff.mpr ⟨item, old, has⟩)
          · rcases Item.data_of_set given has with none | ⟨fields, _, accepted⟩
            · cases none
            · exact .inr ⟨kind, _, accepted⟩

/-- A content of a package with a new value at some place is an old one, or it was accepted. -/
theorem accepted_of_setAt {p after : Package} {place : Nat} {value : Json} {outcome : SetOutcome}
    (given : p.setAt? schemas place value = some (after, outcome)) {d : ItemData} (member : d ∈ after.contents) :
    d ∈ p.contents ∨ Accepted schemas d := by
  rcases mem_contents_iff.mp member with ⟨item, inItems, has⟩
  rcases Option.map_eq_some_iff.mp given with ⟨target, there, made⟩
  cases set : target.set schemas value with
  | mk next result =>
      simp only [set, Prod.mk.injEq] at made
      rcases made with ⟨rfl, rfl⟩
      rcases List.mem_or_eq_of_mem_set inItems with old | rfl
      · exact .inl (mem_contents_iff.mpr ⟨item, old, has⟩)
      · rcases Item.data_of_set set has with old | ⟨fields, _, accepted⟩
        · exact .inl (mem_contents_iff.mpr ⟨target, List.mem_of_getElem? there, old⟩)
        · exact .inr ⟨target.kind, _, accepted⟩

/-! ## Packages from any sequence of steps -/

/-- Every content of a package that can be built was accepted. -/
theorem Built.accepted {p : Package} (built : Built schemas p) :
    ∀ d ∈ p.contents, Accepted schemas d := by
  induction built with
  | ofHeader header => simp [Package.ofHeader, contents]
  | ofDocument made => exact fun d member => accepted_of_ofDocument made member
  | ofText made =>
      intro d member
      rcases bind_eq_ok.mp made with ⟨document, _, made⟩
      exact accepted_of_ofDocument made member
  | add _ kind value ih => exact fun d member => (accepted_of_add member).elim (ih d) id
  | setAt _ given ih => exact fun d member => (accepted_of_setAt given member).elim (ih d) id

/-- Every content of a package that can be built obeys the rules for single items. -/
theorem Built.valid {p : Package} (built : Built schemas p) {d : ItemData} (member : d ∈ p.contents) :
    Validation.item d = .ok () := by
  rcases built.accepted d member with ⟨_, _, accepted⟩
  exact accepted.valid

end Package
end ProductGraph
