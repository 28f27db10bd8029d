import ProductGraph.Proofs.Item.Accepted
import ProductGraph.Proofs.Item.Conformity

namespace ProductGraph

open Outcome

/-!
# The identity of an item over many values

An item is given values one after another.  Some are accepted, some are refused, and some are of another kind and not
looked at.  Whatever the order, the item keeps its kind, and it keeps the first identifier and the first parent that
it was accepted with, also while it has no content.

Identity is compared on the value and taken over from the content.  The two agree because the content is read from the
same fields.

Each attempt may come with schemas of its own, so nothing here depends on schemas that stay the same.
-/

namespace Reading

/-- An optional text that was read is the text in the field. -/
theorem textField?_of_optional {fields : Fields} {name : String} {s : Option String}
    (given : optional fields name text = .ok s) : (Json.object fields).textField? name = s := by
  rcases map_eq_ok.mp given with ⟨found, read, rfl⟩
  have field : (Json.object fields).textField? name = (fields.get? name).bind Json.text? := rfl
  rw [field]
  rw [field?] at read
  cases there : fields.get? name with
  | none =>
      rw [there] at read
      cases read
      rfl
  | some v =>
      rw [there] at read
      cases v with
      | null =>
          cases read
          rfl
      | string t =>
          cases read
          rfl
      | _ => cases read

/-- The identity that was read is in the fields as it is compared. -/
theorem textField?_of_identifiable {fields : Fields} {i : Identifiable} (given : identifiable fields = .ok i) :
    (Json.object fields).textField? "id" = some i.id ∧
      (Json.object fields).textField? "specializes" = i.specializes := by
  rcases bind_eq_ok.mp given with ⟨description, _, given⟩
  rcases bind_eq_ok.mp given with ⟨id, named, given⟩
  rcases bind_eq_ok.mp given with ⟨parent, specializes, given⟩
  rcases bind_eq_ok.mp given with ⟨title, _, given⟩
  rcases bind_eq_ok.mp given with ⟨s, there, given⟩
  cases given
  refine ⟨?_, textField?_of_optional specializes⟩
  rcases exists_of_present named there with ⟨v, found, read⟩
  have field : (Json.object fields).textField? "id" = (fields.get? "id").bind Json.text? := rfl
  rw [field, found, eq_of_text read]
  rfl

end Reading

namespace SetOutcome

/-- Whether an attempt was made with a value of another kind. -/
def isForeign : SetOutcome → Bool
  | foreignKind .. => true
  | _ => false

/-- Whether an attempt gave the item its content. -/
def isAccepted : SetOutcome → Bool
  | accepted => true
  | _ => false

theorem isAccepted_iff {outcome : SetOutcome} : outcome.isAccepted = true ↔ outcome = .accepted := by
  cases outcome <;> simp [isAccepted]

end SetOutcome

namespace Item

/-- An attempt to give an item a value under some schemas. -/
structure Attempt where
  schemas : Validator
  value : Json

/-- The item after an attempt. -/
def next (item : Item) (a : Attempt) : Item := (item.set a.schemas a.value).1

/-- What came of an attempt. -/
def outcome (item : Item) (a : Attempt) : SetOutcome := (item.set a.schemas a.value).2

/-- The item after attempts one after another. -/
def after (item : Item) : List Attempt → Item
  | [] => item
  | a :: rest => (item.next a).after rest

def outcomes (item : Item) : List Attempt → List SetOutcome
  | [] => []
  | a :: rest => item.outcome a :: (item.next a).outcomes rest

theorem step_next (item : Item) (a : Attempt) : Step item a.schemas a.value (item.next a) (item.outcome a) :=
  step_set item a.schemas a.value

theorem keeps_eq_ok {field : String} {fixed now : Option String} :
    keeps field fixed now = .ok () ↔ ∀ was, fixed = some was → now = some was := by
  cases fixed with
  | none => simp [keeps]
  | some was => simp [keeps]

/-! ## What one attempt keeps -/

/-- What an item of a kind keeps: its kind, a content of this kind, and the identity of this content. -/
structure Remembers (kind : Kind) (item : Item) : Prop where
  ofKind : item.kind = kind
  content : ∀ d, item.data = some d → d.kind = kind
  identity : ∀ d, item.data = some d → ∀ i, d.identifiable = some i →
    item.fixedId = some i.id ∧ ∀ parent, item.fixedParent = some parent → i.specializes = some parent

variable {kind : Kind} {item : Item}

/-- An item without content has only its kind to keep. -/
theorem remembers_of_data (ofKind : item.kind = kind) (nothing : item.data = none) : Remembers kind item where
  ofKind := ofKind
  content d has := absurd (nothing.symm.trans has) (Option.some_ne_none d).symm
  identity d has := absurd (nothing.symm.trans has) (Option.some_ne_none d).symm

/-- A content that is accepted has the identity that the item keeps. -/
theorem remembers_withContent {schemas : Validator} {fields : Fields} {d : ItemData} (isKind : item.kind = kind)
    (content : item.contentOf schemas fields = .ok d) : Remembers kind (item.withContent d) := by
  rcases contentOf_eq_ok.mp content with ⟨accepted, sameId, sameParent⟩
  refine ⟨isKind, ?_, ?_⟩
  · rintro _ ⟨⟩
    exact (ItemData.keepsAll_of_ofJson accepted.reads).1.trans isKind
  · rintro _ ⟨⟩ i identified
    have given := (ItemData.parts_of_ofJson accepted.reads).1 i identified
    rcases Reading.textField?_of_identifiable given with ⟨id, parent⟩
    rw [id] at sameId
    rw [parent] at sameParent
    have ownId : d.id? = some i.id := by rw [ItemData.id?, identified]; rfl
    have ownParent : d.parent? = i.specializes := by rw [ItemData.parent?, identified]; rfl
    constructor
    · change item.fixedId.or d.id? = some i.id
      cases fixed : item.fixedId with
      | none => exact ownId
      | some was => exact (keeps_eq_ok.mp sameId was fixed).symm
    · intro p
      change item.fixedParent.or d.parent? = some p → _
      cases fixed : item.fixedParent with
      | none => exact fun now => ownParent ▸ now
      | some was => exact fun now => (keeps_eq_ok.mp sameParent was fixed).trans now

theorem Remembers.next (remembers : Remembers kind item) (a : Attempt) : Remembers kind (item.next a) := by
  have step := step_next item a
  generalize item.next a = following, item.outcome a = outcome at step
  cases step with
  | foreign => exact remembers
  | refused => exact remembers_of_data remembers.ofKind rfl
  | accepted _ content => exact remembers_withContent remembers.ofKind content

/-- What is fixed changes only where nothing was fixed, and only by an attempt that is accepted. -/
theorem fixed_next (item : Item) (a : Attempt) :
    ((item.next a).fixedId = item.fixedId ∨ item.fixedId = none ∧ item.outcome a = .accepted) ∧
      ((item.next a).fixedParent = item.fixedParent ∨ item.fixedParent = none ∧ item.outcome a = .accepted) := by
  have step := step_next item a
  generalize item.next a = following, item.outcome a = outcome at step
  cases step with
  | foreign => exact ⟨.inl rfl, .inl rfl⟩
  | refused => exact ⟨.inl rfl, .inl rfl⟩
  | @accepted _ d =>
      have kept : ∀ fixed now : Option String, fixed.or now = fixed ∨ fixed = none := by
        intro fixed now
        cases fixed with
        | none => exact .inr rfl
        | some was => exact .inl rfl
      exact ⟨(kept item.fixedId d.id?).imp_right fun nothing => ⟨nothing, rfl⟩,
        (kept item.fixedParent d.parent?).imp_right fun nothing => ⟨nothing, rfl⟩⟩

theorem fixedId_next {id : String} (fixed : item.fixedId = some id) (a : Attempt) :
    (item.next a).fixedId = some id := by
  rcases (fixed_next item a).1 with same | ⟨nothing, _⟩
  · exact same.trans fixed
  · cases nothing.symm.trans fixed

theorem fixedParent_next {parent : String} (fixed : item.fixedParent = some parent) (a : Attempt) :
    (item.next a).fixedParent = some parent := by
  rcases (fixed_next item a).2 with same | ⟨nothing, _⟩
  · exact same.trans fixed
  · cases nothing.symm.trans fixed

/-- An attempt that is not looked at leaves the item as it was; any other decides whether it has content. -/
theorem isValid_next (item : Item) (a : Attempt) :
    (item.outcome a).isForeign = true ∧ item.next a = item ∨
      (item.outcome a).isForeign = false ∧ (item.next a).isValid = (item.outcome a).isAccepted := by
  have step := step_next item a
  generalize item.next a = following, item.outcome a = outcome at step
  cases step with
  | foreign => exact .inl ⟨rfl, rfl⟩
  | refused => exact .inr ⟨rfl, rfl⟩
  | accepted => exact .inr ⟨rfl, rfl⟩

/-! ## What a run keeps -/

/-- What every attempt keeps is kept by attempts one after another. -/
theorem after_of_next {P : Item → Prop} (kept : ∀ item a, P item → P (item.next a)) (start : P item)
    (attempts : List Attempt) : P (item.after attempts) := by
  induction attempts generalizing item with
  | nil => exact start
  | cons a rest ih => exact ih (kept item a start)

theorem Remembers.after (remembers : Remembers kind item) (attempts : List Attempt) :
    Remembers kind (item.after attempts) :=
  after_of_next (fun _ a before => before.next a) remembers attempts

theorem fixedId_after {id : String} (fixed : item.fixedId = some id) (attempts : List Attempt) :
    (item.after attempts).fixedId = some id :=
  after_of_next (P := fun item => item.fixedId = some id) (fun _ a before => fixedId_next before a) fixed attempts

theorem fixedParent_after {parent : String} (fixed : item.fixedParent = some parent) (attempts : List Attempt) :
    (item.after attempts).fixedParent = some parent :=
  after_of_next (P := fun item => item.fixedParent = some parent) (fun _ a before => fixedParent_next before a) fixed
    attempts

def lastOutcome? (item : Item) (attempts : List Attempt) : Option SetOutcome :=
  ((item.outcomes attempts).filter fun o => !o.isForeign).getLast?

theorem isValid_after (item : Item) (attempts : List Attempt) :
    (item.after attempts).isValid = ((item.lastOutcome? attempts).map SetOutcome.isAccepted).getD item.isValid := by
  induction attempts generalizing item with
  | nil => rfl
  | cons a rest ih =>
      rw [after, ih (item.next a), lastOutcome?, lastOutcome?, outcomes]
      rcases isValid_next item a with ⟨foreign, same⟩ | ⟨looked, valid⟩
      · rw [same, List.filter_cons_of_neg (by rw [foreign]; exact Bool.false_ne_true)]
      · rw [valid, List.filter_cons_of_pos (by rw [looked]; rfl), List.getLast?_cons]
        cases ((item.next a).outcomes rest |>.filter fun o => !o.isForeign).getLast? <;> rfl

theorem identifiable_of_kind {d : ItemData} (identified : d.kind.isClass = true ∨ d.kind.isIndividual = true) :
    ∃ i, d.identifiable = some i := by
  cases d with
  | property | sourceLink | targetLink => simp [ItemData.kind, Kind.isClass, Kind.isIndividual] at identified
  | _ => exact ⟨_, rfl⟩

/-- An item that starts empty keeps its identity over any run of attempts.  Its kind is the one it started with, and so
is that of its content.  It has content exactly if the last attempt that was looked at was accepted.  An identifier or a
parent that is fixed stays so over every further run, and only an attempt that is accepted fixes one.  The content of a
class or an individual has the identifier that is fixed, and the parent if one is fixed. -/
theorem identity_after (kind : Kind) (attempts : List Attempt) :
    let item := (empty kind).after attempts
    (item.kind = kind ∧ ∀ d, item.data = some d → d.kind = kind) ∧
      (item.isValid = true ↔ (empty kind).lastOutcome? attempts = some .accepted) ∧
      (∀ more id, item.fixedId = some id → (item.after more).fixedId = some id) ∧
      (∀ more parent, item.fixedParent = some parent → (item.after more).fixedParent = some parent) ∧
      (∀ a, (item.next a).fixedId ≠ item.fixedId ∨ (item.next a).fixedParent ≠ item.fixedParent →
        item.outcome a = .accepted) ∧
      (kind.isClass = true ∨ kind.isIndividual = true → item.isValid = true →
        item.fixedId.isSome = true ∧ item.id? = item.fixedId ∧
          ∀ parent, item.fixedParent = some parent → item.parent? = some parent) := by
  intro item
  have start : Remembers kind (empty kind) := remembers_of_data rfl rfl
  have remembers : Remembers kind item := start.after attempts
  refine ⟨⟨remembers.ofKind, remembers.content⟩, ?_, fun more id fixed => fixedId_after fixed more,
    fun more parent fixed => fixedParent_after fixed more, ?_, ?_⟩
  · rw [isValid_after]
    cases last : (empty kind).lastOutcome? attempts with
    | none => simp [empty, isValid]
    | some outcome => simp [SetOutcome.isAccepted_iff]
  · rintro a (changed | changed)
    · exact ((fixed_next item a).1.resolve_left changed).2
    · exact ((fixed_next item a).2.resolve_left changed).2
  · intro identified valid
    rcases Option.isSome_iff_exists.mp valid with ⟨d, has⟩
    have sameKind := remembers.content d has
    rcases identifiable_of_kind (sameKind.symm ▸ identified) with ⟨i, known⟩
    rcases remembers.identity d has i known with ⟨id, parent⟩
    have ownId : item.id? = some i.id := by rw [Item.id?, has, Option.bind_some, ItemData.id?, known]; rfl
    have ownParent : item.parent? = i.specializes := by
      rw [Item.parent?, has, Option.bind_some, ItemData.parent?, known]
      rfl
    refine ⟨by rw [id]; rfl, ownId.trans id.symm, fun p fixed => ?_⟩
    rw [ownParent]
    exact parent p fixed

/-- A value with another identifier is refused, and the identifier stays. -/
example :
    let named (id : String) : Attempt :=
      ⟨fun _ _ => none, .ofFields [("hasClass", .string "pig:Entity"), ("id", .string id)]⟩
    let item := (empty .entityClass).after [named "ex:Thing", named "ex:Other"]
    item.isValid = false ∧ item.fixedId = some "ex:Thing" := by decide +kernel

end Item
end ProductGraph
