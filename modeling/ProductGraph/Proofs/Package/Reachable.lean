import ProductGraph.Proofs.Package.Sound

namespace ProductGraph
namespace Package

/-!
# A package from its own document

A package that starts empty or with a document has a header that was accepted, because no later step touches the
header.  Its contents were accepted too.  So the document of the package becomes the package again, as far as its
items have content: what was refused on the way leaves no trace in the document.
-/

variable {schemas : Validator}

/-- Packages that come about by any sequence of steps from nothing or from a document. -/
inductive Reachable (schemas : Validator) : Package → Prop
  | empty : Reachable schemas .empty
  | ofDocument {checks : CheckSet} {lang : String} {document : Document} {p : Package} {report : ImportReport}
      (made : Package.ofDocument schemas checks lang document = .ok (p, report)) : Reachable schemas p
  | ofText {checks : CheckSet} {options : ReadingOptions} {format : Format} {text : String} {p : Package}
      {report : ImportReport}
      (made : Package.ofText schemas checks options format text = .ok (p, report)) : Reachable schemas p
  | add {p : Package} (before : Reachable schemas p) (kind : Kind) (value : Json) :
      Reachable schemas (p.add schemas kind value).1
  | setAt {p after : Package} (before : Reachable schemas p) {place : Nat} {value : Json} {outcome : SetOutcome}
      (given : p.setAt? schemas place value = some (after, outcome)) : Reachable schemas after

theorem Reachable.built {p : Package} (reachable : Reachable schemas p) : Built schemas p := by
  induction reachable with
  | empty => exact .ofHeader .empty
  | ofDocument made => exact .ofDocument made
  | ofText made => exact .ofText made
  | add _ kind value ih => exact .add ih kind value
  | setAt _ given ih => exact .setAt ih given

/-! ## Headers -/

theorem sound_emptyHeader : PackageHeader.empty.Sound :=
  ⟨PackageHeader.conforms_of_identifies nofun, rfl, rfl⟩

theorem header_add (p : Package) (kind : Kind) (value : Json) : (p.add schemas kind value).1.header = p.header := by
  rw [add]
  split <;> rfl

theorem header_setAt {p after : Package} {place : Nat} {value : Json} {outcome : SetOutcome}
    (given : p.setAt? schemas place value = some (after, outcome)) : after.header = p.header := by
  rcases Option.map_eq_some_iff.mp given with ⟨item, _, made⟩
  cases made
  rfl

/-- The header of a package that can be reached is sound. -/
theorem Reachable.header_sound (standard : schemas.Standard) {p : Package} (reachable : Reachable schemas p) :
    p.header.Sound := by
  induction reachable with
  | empty => exact sound_emptyHeader
  | ofDocument made => exact sound_of_headerOf standard (ofDocument_eq_ok.mp made).1
  | ofText made =>
      rcases Outcome.bind_eq_ok.mp made with ⟨document, _, made⟩
      exact sound_of_headerOf standard (ofDocument_eq_ok.mp made).1
  | add _ kind value ih => exact (header_add _ kind value).symm ▸ ih
  | setAt _ given ih => exact (header_setAt given).symm ▸ ih

/-- The contents of a package that can be reached are sound. -/
theorem Reachable.contents_sound (standard : schemas.Standard) {p : Package} (reachable : Reachable schemas p) :
    ∀ d ∈ p.contents, d.Sound := by
  intro d member
  rcases reachable.built.accepted d member with ⟨kind, fields, accepted⟩
  exact (ItemData.sound_of_accepts standard accepted).2

/-! ## The document of a package -/

/-- The checks look at contents only, so a package with the same contents passes them likewise. -/
theorem check_restored (p : Package) (checks : CheckSet) (lang : String) :
    (⟨p.header, p.namespaces, p.contents.map ItemData.restored⟩ : Package).check checks lang = p.check checks lang := by
  rw [check, check, graph, graph, contents_restored]

/-- The document of a package that can be reached becomes a package with the same header, the same namespaces and the
same contents in the same order.  Nothing is refused, and the checks find what they find in the package. -/
theorem ofDocument_toDocument {p : Package} (reachable : Reachable Schemas.library.validator p) (checks : CheckSet)
    (lang : String) :
    ∃ next report, Package.ofDocument Schemas.library.validator checks lang p.toDocument = .ok (next, report) ∧
      next.header = p.header ∧ next.namespaces = p.namespaces ∧ next.items.map (·.data) = p.contents.map some ∧
      report.failures = [] ∧ report.total = p.contents.length ∧ report.instantiated = p.contents.length ∧
      report.violation = p.check checks lang := by
  have standard := Schemas.library_standard
  have made := ofDocument_of_headerOf standard (headerOf_toFields standard (reachable.header_sound standard))
    (reachable.contents_sound standard) p.namespaces checks lang
  refine ⟨_, _, made, rfl, rfl, ?_, rfl, rfl, rfl, p.check_restored checks lang⟩
  rw [List.map_map]
  rfl

def carWithRefused : Package := (carPackage.add Schemas.library.validator .entityInstance .null).1

theorem reachable_carWithRefused : Reachable Schemas.library.validator carWithRefused :=
  .add (.ofDocument (ofDocument_sound Schemas.library_standard sound_carPackage.1 sound_carPackage.2 _ .all "en")) _ _

theorem contents_carWithRefused : carWithRefused.contents = carContents := by
  have items : carWithRefused.items = carPackage.items ++ [Item.empty .entityInstance] := rfl
  rw [contents, items, List.filterMap_append]
  exact (List.append_nil _).trans (contents_restored _ _ _)

theorem ofDocument_toDocument_car :
    carWithRefused.items.length = 9 ∧ ∃ next report,
      Package.ofDocument Schemas.library.validator .all "en" carWithRefused.toDocument = .ok (next, report) ∧
        next.header = carPackage.header ∧ next.items.map (·.data) = carContents.map some ∧ report.failures = [] ∧
        report.instantiated = 8 := by
  rcases ofDocument_toDocument reachable_carWithRefused .all "en" with
    ⟨next, report, made, header, _, contents, fine, _, count, _⟩
  rw [contents_carWithRefused] at contents count
  exact ⟨rfl, next, report, made, header, contents, fine, count⟩

end Package
end ProductGraph
