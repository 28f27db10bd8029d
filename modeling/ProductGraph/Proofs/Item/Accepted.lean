import ProductGraph.Item.Basic
import ProductGraph.Proofs.Outcome

namespace ProductGraph

open Outcome

namespace Item

/-!
# What an accepted value says

An item has content only because a value was accepted at some time, and a value is accepted only if it conforms to
the schema, can be read, and gives a content that obeys the rules for single items.  An item with a past asks for more:
the identifier and the parent that it keeps.  What becomes of these over many values is not said here.
-/

/-- The fields of a value, the kind filled in, are accepted as a content. -/
structure Accepts (schemas : Validator) (kind : Kind) (fields : Fields) (d : ItemData) : Prop where
  conforms : schemas kind (.object fields) = none
  reads : ItemData.ofJson kind (.object fields) = .ok d
  valid : Validation.item d = .ok ()

variable {schemas : Validator} {item : Item} {fields : Fields} {d : ItemData}

/-- A value gives a content exactly if it is accepted and keeps what is fixed. -/
theorem contentOf_eq_ok : item.contentOf schemas fields = .ok d ↔
    Accepts schemas item.kind (withKind item.kind fields) d ∧
      keeps "id" item.fixedId ((Json.object (withKind item.kind fields)).textField? "id") = .ok () ∧
      keeps "specializes" item.fixedParent ((Json.object (withKind item.kind fields)).textField? "specializes") =
        .ok () := by
  unfold contentOf
  constructor
  · intro given
    cases conforms : schemas item.kind (.object (withKind item.kind fields)) with
    | some diagnostics => simp [conforms] at given
    | none =>
        simp only [conforms] at given
        rcases unit_bind_eq_ok.mp given with ⟨id, given⟩
        rcases unit_bind_eq_ok.mp given with ⟨parent, given⟩
        cases reads : ItemData.ofJson item.kind (.object (withKind item.kind fields)) with
        | error reason => simp [reads] at given
        | ok data =>
            simp only [reads] at given
            rcases map_eq_ok.mp given with ⟨_, valid, rfl⟩
            exact ⟨⟨conforms, reads, valid⟩, id, parent⟩
  · rintro ⟨accepted, id, parent⟩
    simp only [accepted.conforms, accepted.reads]
    refine unit_bind_eq_ok.mpr ⟨id, unit_bind_eq_ok.mpr ⟨parent, ?_⟩⟩
    rw [accepted.valid]
    rfl

/-- A value gives a content only if it is accepted. -/
theorem accepts_of_contentOf (given : item.contentOf schemas fields = .ok d) :
    Accepts schemas item.kind (withKind item.kind fields) d :=
  (contentOf_eq_ok.mp given).1

/-- For an item without a past, acceptance is all that is asked. -/
theorem contentOf_empty {kind : Kind} (accepted : Accepts schemas kind (withKind kind fields) d) :
    (empty kind).contentOf schemas fields = .ok d :=
  contentOf_eq_ok.mpr ⟨accepted, rfl, rfl⟩

/-- The ways in which an attempt to give an item a value ends, and the item then. -/
inductive Step (item : Item) (schemas : Validator) (value : Json) : Item → SetOutcome → Prop
  | foreign {kind : Kind} {declared : String} : Step item schemas value item (.foreignKind kind declared)
  | refused {error : ItemError} : Step item schemas value { item with data := none } (.refused error)
  | accepted {fields : Fields} {d : ItemData} (object : value = .object fields)
      (content : item.contentOf schemas fields = .ok d) : Step item schemas value (item.withContent d) .accepted

theorem step_set (item : Item) (schemas : Validator) (value : Json) :
    Step item schemas value (item.set schemas value).1 (item.set schemas value).2 := by
  cases value with
  | object fields =>
      cases foreign : foreignKind? item.kind fields with
      | some declared =>
          simp only [set, foreign]
          exact .foreign
      | none =>
          cases content : item.contentOf schemas fields with
          | error e =>
              simp only [set, foreign, content]
              exact .refused
          | ok data =>
              simp only [set, foreign, content]
              exact .accepted rfl content
  | _ => exact .refused

/-- The content after a value was given is one that the value gave. -/
theorem data_of_set {value : Json} {after : Item} {outcome : SetOutcome}
    (given : item.set schemas value = (after, outcome)) (has : after.data = some d) :
    item.data = some d ∨
      ∃ fields, value = .object fields ∧ Accepts schemas item.kind (withKind item.kind fields) d := by
  have step := step_set item schemas value
  rw [given] at step
  cases step with
  | foreign => exact .inl has
  | refused => cases has
  | @accepted fields data object content =>
      cases has
      exact .inr ⟨fields, object, accepts_of_contentOf content⟩

end Item

namespace Reading

/-! ## What readers share

A reader of a kind with an identity reads the identity with the reader of identities, and one of individuals reads
their common part with the reader of that. -/

variable {fields : Fields}

theorem identifiable_of_propertyClass {p : PropertyClass} (read : propertyClass fields = .ok p) :
    identifiable fields = .ok p.identifiable := by
  rcases bind_eq_ok.mp read with ⟨_, _, read⟩
  rcases bind_eq_ok.mp read with ⟨_, _, read⟩
  rcases bind_eq_ok.mp read with ⟨_, _, read⟩
  rcases bind_eq_ok.mp read with ⟨_, _, read⟩
  rcases bind_eq_ok.mp read with ⟨_, _, read⟩
  rcases bind_eq_ok.mp read with ⟨_, _, read⟩
  rcases bind_eq_ok.mp read with ⟨_, _, read⟩
  rcases bind_eq_ok.mp read with ⟨_, _, read⟩
  rcases bind_eq_ok.mp read with ⟨_, _, read⟩
  rcases bind_eq_ok.mp read with ⟨_, shared, read⟩
  cases read
  exact shared

theorem identifiable_of_linkClass {l : LinkClass} (read : linkClass fields = .ok l) :
    identifiable fields = .ok l.identifiable := by
  rcases bind_eq_ok.mp read with ⟨_, _, read⟩
  rcases bind_eq_ok.mp read with ⟨_, _, read⟩
  rcases bind_eq_ok.mp read with ⟨_, shared, read⟩
  cases read
  exact shared

theorem identifiable_of_entityClass {e : EntityClass} (read : entityClass fields = .ok e) :
    identifiable fields = .ok e.identifiable := by
  rcases bind_eq_ok.mp read with ⟨_, _, read⟩
  rcases bind_eq_ok.mp read with ⟨_, _, read⟩
  rcases bind_eq_ok.mp read with ⟨_, shared, read⟩
  rcases bind_eq_ok.mp read with ⟨_, _, read⟩
  cases read
  exact shared

theorem identifiable_of_relationshipClass {r : RelationshipClass} (read : relationshipClass fields = .ok r) :
    identifiable fields = .ok r.identifiable := by
  rcases bind_eq_ok.mp read with ⟨_, _, read⟩
  rcases bind_eq_ok.mp read with ⟨_, _, read⟩
  rcases bind_eq_ok.mp read with ⟨_, _, read⟩
  rcases bind_eq_ok.mp read with ⟨_, shared, read⟩
  rcases bind_eq_ok.mp read with ⟨_, _, read⟩
  cases read
  exact shared

theorem shared_of_entity {e : Entity} (read : entity fields = .ok e) :
    identifiable fields = .ok e.identifiable ∧ individual fields = .ok e.individual := by
  rcases bind_eq_ok.mp read with ⟨_, _, read⟩
  rcases bind_eq_ok.mp read with ⟨_, _, read⟩
  rcases bind_eq_ok.mp read with ⟨_, _, read⟩
  rcases bind_eq_ok.mp read with ⟨_, shared, read⟩
  rcases bind_eq_ok.mp read with ⟨_, own, read⟩
  cases read
  exact ⟨shared, own⟩

theorem shared_of_relationship {r : Relationship} (read : relationship fields = .ok r) :
    identifiable fields = .ok r.identifiable ∧ individual fields = .ok r.individual := by
  rcases bind_eq_ok.mp read with ⟨_, _, read⟩
  rcases bind_eq_ok.mp read with ⟨_, _, read⟩
  rcases bind_eq_ok.mp read with ⟨_, _, read⟩
  rcases bind_eq_ok.mp read with ⟨_, _, read⟩
  rcases bind_eq_ok.mp read with ⟨_, shared, read⟩
  rcases bind_eq_ok.mp read with ⟨_, own, read⟩
  cases read
  exact ⟨shared, own⟩

end Reading

namespace ItemData

open Reading

/-- The identity and the common part of individuals are read from the same fields as the whole content. -/
theorem parts_of_ofJson {kind : Kind} {fields : Fields} {d : ItemData} (given : ofJson kind (.object fields) = .ok d) :
    (∀ i, d.identifiable = some i → Reading.identifiable fields = .ok i) ∧
      ∀ i, d.individual = some i → Reading.individual fields = .ok i := by
  have noIndividual : ∀ i : Individual, (none : Option Individual) = some i → Reading.individual fields = .ok i :=
    fun i has => absurd has (Option.some_ne_none i).symm
  cases kind with
  | propertyClass =>
      rcases map_eq_ok.mp given with ⟨p, read, rfl⟩
      exact ⟨fun _ has => Option.some.inj has ▸ identifiable_of_propertyClass read, noIndividual⟩
  | linkClass =>
      rcases map_eq_ok.mp given with ⟨l, read, rfl⟩
      exact ⟨fun _ has => Option.some.inj has ▸ identifiable_of_linkClass read, noIndividual⟩
  | entityClass =>
      rcases map_eq_ok.mp given with ⟨e, read, rfl⟩
      exact ⟨fun _ has => Option.some.inj has ▸ identifiable_of_entityClass read, noIndividual⟩
  | relationshipClass =>
      rcases map_eq_ok.mp given with ⟨r, read, rfl⟩
      exact ⟨fun _ has => Option.some.inj has ▸ identifiable_of_relationshipClass read, noIndividual⟩
  | entityInstance =>
      rcases map_eq_ok.mp given with ⟨e, read, rfl⟩
      rcases shared_of_entity read with ⟨identity, own⟩
      exact ⟨fun _ has => Option.some.inj has ▸ identity, fun _ has => Option.some.inj has ▸ own⟩
  | relationshipInstance =>
      rcases map_eq_ok.mp given with ⟨r, read, rfl⟩
      rcases shared_of_relationship read with ⟨identity, own⟩
      exact ⟨fun _ has => Option.some.inj has ▸ identity, fun _ has => Option.some.inj has ▸ own⟩
  | propertyValue | sourceLinkValue | targetLinkValue =>
      rcases map_eq_ok.mp given with ⟨_, _, rfl⟩
      exact ⟨fun i has => absurd has (Option.some_ne_none i).symm, noIndividual⟩
  | package => cases given

end ItemData
end ProductGraph
