import ProductGraph.Package.Import
import ProductGraph.Proofs.Document.Kind
import ProductGraph.Proofs.Item.Accepted
import ProductGraph.Proofs.Package.Built

namespace ProductGraph

open Outcome

/-!
# What becomes of the items of a document

Every item of a document that was read from a text has the kind that its value declares, whatever the value is.  So no
such item is ever given a value of another kind, and each of them ends in one of three ways: it is left out and noted
because its kind is unknown, it is kept without content and noted because it was refused, or it is kept with content and
not noted.

Nothing is asked of the schemas: they may accept and refuse what they like.
-/

/-! ## Statuses of what is wrong -/

theorem ItemError.status_ne_ok (error : ItemError) : error.status ≠ .ok := by
  cases error <;> exact nofun

theorem Violation.status_ne_ok (v : Violation) : v.status ≠ .ok := by
  rcases v with ⟨check, item, field, cause⟩
  cases cause <;> exact nofun

/-- A report has the status of success exactly if it is clean. -/
theorem ImportReport.status_eq_ok_iff (r : ImportReport) : r.status = .ok ↔ r.isClean = true := by
  rcases r with ⟨total, failures, _ | v⟩
  · cases failures with
    | nil => exact ⟨fun _ => rfl, fun _ => rfl⟩
    | cons f rest => exact ⟨fun fine => absurd fine f.error.status_ne_ok, nofun⟩
  · refine ⟨fun fine => absurd fine v.status_ne_ok, fun clean => ?_⟩
    rw [isClean, Option.isNone_some, Bool.and_false] at clean
    cases clean

/-! ## Items as they are read -/

namespace Document

/-- The items of a document that was read are the items that their values are. -/
theorem exists_value_of_ofText {format : Format} {options : ReadingOptions} {text : String} {document : Document}
    (read : ofText format options text = .ok document) :
    ∀ source ∈ document.items, ∃ value, source = .ofJson value := by
  rw [items_of_ofText read]
  exact List.forall_mem_map.mpr fun source _ => ⟨source.shaped options source.kind?, rfl⟩

end Document

namespace DocumentItem

/-- The kind of an item is that which its value declares, so the value is looked at. -/
theorem set_ne_foreignKind (schemas : Validator) {value : Json} {kind : Kind}
    (known : (ofJson value).kind = some kind) (other : Kind) (declared : String) :
    ((Item.empty kind).set schemas value).2 ≠ .foreignKind other declared := by
  cases value with
  | object fields =>
      have own : Item.foreignKind? (Item.empty kind).kind fields = none := by
        rcases Option.bind_eq_some_iff.mp known with ⟨tag, there, named⟩
        rcases Option.bind_eq_some_iff.mp there with ⟨v, found, isText⟩
        have inFields : Keyed.get? fields "itemType" = some v := found
        cases v with
        | string s =>
            cases isText
            rw [Item.foreignKind?, inFields]
            exact if_pos (Kind.ofTag?_eq_some_iff.mp named).symm
        | _ => cases isText
      simp only [Item.set, own]
      rintro same
      cases content : (Item.empty kind).contentOf schemas fields <;> rw [content] at same <;> cases same
  | _ =>
      intro same
      cases same

/-- The item that an item of a document becomes, with or without content. -/
def made? (schemas : Validator) (source : DocumentItem) : Option Item :=
  source.kind.map fun kind => ((Item.empty kind).set schemas source.value).1

def fault? (schemas : Validator) (source : DocumentItem) : Option ItemError :=
  match source.kind with
  | none => some (.unknownKind source.declared)
  | some kind =>
    match ((Item.empty kind).set schemas source.value).2 with
    | .refused error => some error
    | _ => none

/-- What is noted of an item at a place. -/
def failure? (schemas : Validator) (source : DocumentItem × Nat) : Option ItemFailure :=
  (source.1.fault? schemas).map fun error => ⟨source.2, source.1.id?, error⟩

/-- An item of a document that is what its value is becomes what is made of it, and what is wrong with it is noted. -/
theorem instantiate_ofJson (schemas : Validator) (value : Json) :
    Package.instantiate schemas (ofJson value) = .ok ((ofJson value).made? schemas, (ofJson value).fault? schemas) := by
  have same : (ofJson value).value = value := rfl
  cases known : (ofJson value).kind with
  | none => simp [fault?, made?, Package.instantiate, known]
  | some kind =>
      have looked := set_ne_foreignKind schemas known
      cases given : (Item.empty kind).set schemas value with
      | mk item outcome =>
          rw [given] at looked
          cases outcome with
          | foreignKind other declared => exact absurd rfl (looked other declared)
          | accepted | refused => simp [fault?, made?, Package.instantiate, known, same, given]

/-- Either there is content, or something is wrong. -/
theorem isSome_fault? (schemas : Validator) (value : Json) :
    ((ofJson value).fault? schemas).isSome = !(((ofJson value).made? schemas).bind (·.data)).isSome := by
  have same : (ofJson value).value = value := rfl
  cases known : (ofJson value).kind with
  | none => simp [fault?, made?, known]
  | some kind =>
      have looked := set_ne_foreignKind schemas known
      have step := Item.step_set (Item.empty kind) schemas value
      simp only [fault?, made?, known, same, Option.map_some, Option.bind_some]
      generalize (Item.empty kind).set schemas value = given at step looked
      rcases given with ⟨item, outcome⟩
      cases step with
      | foreign => exact absurd rfl (looked _ _)
      | refused => rfl
      | accepted => rfl

theorem isSome_made? (schemas : Validator) (source : DocumentItem) :
    (source.made? schemas).isSome = source.kind.isSome := Option.isSome_map

end DocumentItem

namespace Package

variable {schemas : Validator} {sources : List DocumentItem}

/-! ## Whole documents -/

theorem toList_append_filterMap {α β : Type} (f : α → Option β) (a : α) (rest : List α) :
    (f a).toList ++ rest.filterMap f = (a :: rest).filterMap f := by
  rw [List.filterMap_cons]
  cases f a <;> rfl

/-- The items of a document become what is made of each of them, and what is wrong with any is noted with its place. -/
theorem instantiateFrom_eq (ofJson : ∀ source ∈ sources, ∃ value, source = .ofJson value) (index : Nat) :
    instantiateFrom schemas index sources = .ok (sources.filterMap (·.made? schemas),
      (sources.zipIdx index).filterMap (DocumentItem.failure? schemas)) := by
  induction sources generalizing index with
  | nil => rfl
  | cons source rest ih =>
      rcases ofJson source List.mem_cons_self with ⟨value, rfl⟩
      have behind := ih (fun later member => ofJson later (List.mem_cons_of_mem _ member)) (index + 1)
      rw [instantiateFrom]
      refine bind_eq_ok.mpr ⟨_, DocumentItem.instantiate_ofJson schemas value, bind_eq_ok.mpr ⟨_, behind, ?_⟩⟩
      exact pure_eq_ok.mpr (Prod.ext (toList_append_filterMap _ _ rest)
        (toList_append_filterMap (DocumentItem.failure? schemas) (.ofJson value, index) (rest.zipIdx (index + 1))))

/-- What is noted is in the order of the items. -/
theorem pairwise_failures (schemas : Validator) (sources : List DocumentItem) :
    (((sources.zipIdx.filterMap (DocumentItem.failure? schemas)).map (·.index))).Pairwise (· < ·) := by
  have places : sources.zipIdx.Pairwise fun a b => a.2 < b.2 := by
    rw [← List.pairwise_map, List.zipIdx_map_snd]
    exact List.pairwise_lt_range'
  rw [List.pairwise_map]
  refine places.filterMap _ fun a b below f found g alsoFound => ?_
  rcases Option.map_eq_some_iff.mp found with ⟨_, _, rfl⟩
  rcases Option.map_eq_some_iff.mp alsoFound with ⟨_, _, rfl⟩
  exact below

/-- What is noted of an item is noted with its place, and of every item with a fault something is noted. -/
theorem mem_failures_iff {f : ItemFailure} : f ∈ sources.zipIdx.filterMap (DocumentItem.failure? schemas) ↔
    ∃ source, sources[f.index]? = some source ∧ f.id = source.id? ∧ source.fault? schemas = some f.error := by
  rw [List.mem_filterMap]
  constructor
  · rintro ⟨⟨source, place⟩, member, made⟩
    rcases Option.map_eq_some_iff.mp made with ⟨error, fault, rfl⟩
    exact ⟨source, List.mem_zipIdx_iff_getElem?.mp member, rfl, fault⟩
  · rintro ⟨source, there, id, fault⟩
    refine ⟨(source, f.index), List.mem_zipIdx_iff_getElem?.mpr there, ?_⟩
    rw [DocumentItem.failure?, fault, ← id]
    rfl

/-- What is picked out of a list goes along with the items that it is picked out of. -/
theorem forall₂_filterMap {α β : Type} {R : β → α → Prop} {f : α → Option β} {list : List α}
    (each : ∀ a ∈ list, ∀ b, f a = some b → R b a) :
    List.Forall₂ R (list.filterMap f) (list.filter fun a => (f a).isSome) := by
  induction list with
  | nil => exact .nil
  | cons a rest ih =>
      have behind := ih fun later member => each later (List.mem_cons_of_mem _ member)
      rw [List.filterMap_cons, List.filter_cons]
      cases picked : f a with
      | none => exact behind
      | some b => exact .cons (each a List.mem_cons_self b picked) behind

/-- Every item of a document either has content or is noted. -/
theorem length_contents_add_failures (schemas : Validator)
    (ofJson : ∀ source ∈ sources, ∃ value, source = .ofJson value) :
    ((sources.filterMap (·.made? schemas)).filterMap (·.data)).length +
      (sources.zipIdx.filterMap (DocumentItem.failure? schemas)).length = sources.length := by
  have noted : (sources.zipIdx.filterMap (DocumentItem.failure? schemas)).length =
      sources.countP fun source => (source.fault? schemas).isSome := by
    have places := congrArg (List.countP fun source => (source.fault? schemas).isSome) (List.zipIdx_map_fst 0 sources)
    rw [List.countP_map] at places
    rw [List.length_filterMap_eq_countP, ← places]
    exact List.countP_congr fun p _ => by rw [DocumentItem.failure?, Option.isSome_map]; rfl
  rw [List.filterMap_filterMap, List.length_filterMap_eq_countP, noted,
    List.length_eq_countP_add_countP fun source => ((source.made? schemas).bind (·.data)).isSome]
  congr 1
  refine List.countP_congr fun source member => ?_
  rcases ofJson source member with ⟨value, rfl⟩
  rw [DocumentItem.isSome_fault?]
  simp

/-- An item of a package beside the item of a document that it comes from: it is what the value makes of an empty item,
and it has content exactly if nothing is noted at the place. -/
def ComesFrom (schemas : Validator) (failures : List ItemFailure) (item : Item) (source : DocumentItem × Nat) : Prop :=
  (∃ kind, source.1.kind = some kind ∧ item = ((Item.empty kind).set schemas source.1.value).1) ∧
    (item.isValid = true ↔ ∀ f ∈ failures, f.index ≠ source.2)

/-- A package and a report account for every item of a document. -/
structure Accounts (schemas : Validator) (document : Document) (p : Package) (report : ImportReport) : Prop where
  total : report.total = document.items.length
  sum : report.instantiated + report.failures.length = report.total
  /-- The failures come in the order of the items. -/
  ordered : (report.failures.map (·.index)).Pairwise (· < ·)
  places : ∀ f ∈ report.failures, f.index < report.total
  /-- The items of the package are those of the document whose kind is known, in their order. -/
  items : List.Forall₂ (ComesFrom schemas report.failures) p.items
    (document.items.zipIdx.filter fun source => source.1.kind.isSome)
  unknown : ∀ index source, document.items[index]? = some source → source.kind = none →
    ∃ f ∈ report.failures, f.index = index ∧ f.error = .unknownKind source.declared
  instantiated : report.instantiated = (p.items.filter (·.isValid)).length

theorem comesFrom_of_made? {source : DocumentItem × Nat} (ofJson : ∃ value, source.1 = .ofJson value)
    (member : source ∈ sources.zipIdx) {item : Item} (made : source.1.made? schemas = some item) :
    ComesFrom schemas (sources.zipIdx.filterMap (DocumentItem.failure? schemas)) item source := by
  rcases source with ⟨source, place⟩
  have there : sources[place]? = some source := List.mem_zipIdx_iff_getElem?.mp member
  rcases ofJson with ⟨value, rfl⟩
  have either := DocumentItem.isSome_fault? schemas value
  rw [made, Option.bind_some] at either
  rcases Option.map_eq_some_iff.mp made with ⟨kind, known, same⟩
  refine ⟨⟨kind, known, same.symm⟩, ?_⟩
  rw [Item.isValid]
  constructor
  · intro valid f noted atPlace
    rcases mem_failures_iff.mp noted with ⟨other, alsoThere, _, fault⟩
    rw [atPlace, there] at alsoThere
    cases alsoThere
    rw [fault, valid] at either
    cases either
  · intro nothing
    by_contra invalid
    rw [Bool.not_eq_true] at invalid
    rw [invalid, Bool.not_false] at either
    rcases Option.isSome_iff_exists.mp either with ⟨error, fault⟩
    exact nothing ⟨place, _, error⟩ (mem_failures_iff.mpr ⟨_, there, rfl, fault⟩) rfl

theorem accounts_of_values {document : Document} (ofJson : ∀ source ∈ document.items, ∃ value, source = .ofJson value)
    (header : PackageHeader) (violation : Option Violation) :
    Accounts schemas document ⟨header, document.namespaces, document.items.filterMap (·.made? schemas)⟩
      ⟨document.items.length, document.items.zipIdx.filterMap (DocumentItem.failure? schemas), violation⟩ := by
  have together := length_contents_add_failures schemas ofJson
  constructor
  case total => rfl
  case sum => simp only [ImportReport.instantiated]; omega
  case ordered => exact pairwise_failures schemas document.items
  case places =>
    intro f noted
    rcases mem_failures_iff.mp noted with ⟨source, there, _⟩
    exact (List.getElem?_eq_some_iff.mp there).1
  case items =>
    have known : document.items.zipIdx.filter (fun source => source.1.kind.isSome) =
        document.items.zipIdx.filter fun source => (source.1.made? schemas).isSome :=
      List.filter_congr fun source _ => (DocumentItem.isSome_made? schemas source.1).symm
    have atPlaces : document.items.filterMap (·.made? schemas) =
        document.items.zipIdx.filterMap fun source => source.1.made? schemas := by
      conv_lhs => rw [← List.zipIdx_map_fst 0 document.items, List.filterMap_map]
      rfl
    rw [known, atPlaces]
    refine forall₂_filterMap fun source member item made => comesFrom_of_made? ?_ member made
    exact ofJson source.1 (List.mem_of_getElem? (List.mem_zipIdx_iff_getElem?.mp member))
  case unknown =>
    intro index source there unknown
    have fault : source.fault? schemas = some (.unknownKind source.declared) := by rw [DocumentItem.fault?, unknown]
    exact ⟨⟨index, _, _⟩, mem_failures_iff.mpr ⟨source, there, rfl, fault⟩, rfl, rfl⟩
  case instantiated =>
    rw [List.length_filterMap_eq_countP, List.countP_eq_length_filter] at together
    exact (Nat.eq_sub_of_add_eq together).symm

/-- A document whose items are what their values are becomes a package as soon as its header is accepted. -/
theorem ofDocument_of_values {document : Document} (ofJson : ∀ source ∈ document.items, ∃ value, source = .ofJson value)
    (checks : CheckSet) (lang : String) {header : PackageHeader}
    (headed : headerOf schemas document.header = .ok header) :
    let p : Package := ⟨header, document.namespaces, document.items.filterMap (·.made? schemas)⟩
    ofDocument schemas checks lang document = .ok (p, ⟨document.items.length,
      document.items.zipIdx.filterMap (DocumentItem.failure? schemas), p.check checks lang⟩) :=
  ofDocument_eq_ok.mpr ⟨headed, rfl, instantiateFrom_eq ofJson 0, rfl, rfl⟩

/-- Reading a text never fails for a value of another kind, whatever the schemas are.  If the text is a document and its
header is accepted, it becomes a package with this header and a report that account for every item of the document.
The report says of consistency what the checks find in the package, and it has the status of success exactly if it is
clean. -/
theorem ofText_accounts (schemas : Validator) (checks : CheckSet) (options : ReadingOptions) (format : Format)
    (text : String) :
    (∀ kind declared, Package.ofText schemas checks options format text ≠ .error (.foreignKind kind declared)) ∧
      ∀ document header, Document.ofText format options text = .ok document →
        headerOf schemas document.header = .ok header →
        ∃ p report, Package.ofText schemas checks options format text = .ok (p, report) ∧ p.header = header ∧
          Accounts schemas document p report ∧ report.violation = p.check checks options.defaultLanguage ∧
          (report.status = .ok ↔ report.isClean = true) := by
  constructor
  · intro kind declared
    rw [Package.ofText]
    cases read : Document.ofText format options text with
    | error reason => exact nofun
    | ok document =>
        change ofDocument schemas checks options.defaultLanguage document ≠ _
        cases headed : headerOf schemas document.header with
        | error reason =>
            rw [ofDocument, headed]
            exact nofun
        | ok header =>
            rw [ofDocument_of_values (Document.exists_value_of_ofText read) checks _ headed]
            exact nofun
  · intro document header read headed
    have ofJson := Document.exists_value_of_ofText read
    have made := ofDocument_of_values ofJson checks options.defaultLanguage headed
    exact ⟨_, _, bind_eq_ok.mpr ⟨document, mapError_eq_ok.mpr read, made⟩, rfl, accounts_of_values ofJson header _, rfl,
      ImportReport.status_eq_ok_iff _⟩

/-- A class, a thing of no kind and a class without an identifier. -/
def thingsText : String :=
  "<pig:aPackage><pig:graph><pig:Entity id='ex:Thing' hasClass='pig:Entity'/>" ++
    "<ex:thing/><pig:Entity/></pig:graph></pig:aPackage>"

def acceptsAll : Validator := fun _ _ => none

/-- Of the three things two are kept, and one of them has content. -/
theorem ofText_accounts_things :
    ∃ document header p report, Document.ofText .xml .standard thingsText = .ok document ∧
      headerOf acceptsAll document.header = .ok header ∧
      Package.ofText acceptsAll .none .standard .xml thingsText = .ok (p, report) ∧
      Accounts acceptsAll document p report ∧ report.total = 3 ∧ report.failures.map (·.index) = [1, 2] ∧
      p.items.map (·.isValid) = [true, false] := by
  have headers : (Document.ofText .xml .standard thingsText).toOption.map
      (fun document => (headerOf acceptsAll document.header).isOk) = some true := by decide +kernel
  have counts : (Package.ofText acceptsAll .none .standard .xml thingsText).toOption.map
      (fun made => (made.2.total, made.2.failures.map (·.index), made.1.items.map (·.isValid))) =
      some (3, [1, 2], [true, false]) := by decide +kernel
  cases read : Document.ofText .xml .standard thingsText with
  | error reason =>
      rw [read] at headers
      cases headers
  | ok document =>
      have accepted : (headerOf acceptsAll document.header).isOk = true := by
        rw [read] at headers
        exact Option.some.inj headers
      cases headed : headerOf acceptsAll document.header with
      | error reason =>
          rw [headed] at accepted
          cases accepted
      | ok header =>
          rcases (ofText_accounts acceptsAll .none .standard .xml thingsText).2 document header read headed with
            ⟨p, report, made, -, accounts, -⟩
          rw [made] at counts
          simp only [Except.toOption, Option.map_some, Option.some.injEq, Prod.mk.injEq] at counts
          exact ⟨document, header, p, report, rfl, headed, made, accounts, counts⟩

end Package
end ProductGraph
