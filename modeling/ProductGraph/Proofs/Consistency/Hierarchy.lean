import ProductGraph.Proofs.Consistency.Verdict
import ProductGraph.Proofs.Graph.Climb
import ProductGraph.Proofs.Package.Sound

namespace ProductGraph

/-!
# Hierarchies of classes

A package in which identifiers are unique, references to classes lead to classes of the right kind, and no class
specializes itself has a well-founded hierarchy.  Whatever names a class, the climb from that class stays among
classes of its kind and ends, after finitely many steps, in a root: a class without a parent that names its own kind
as its class.

That a class has either a parent or its kind as class is a rule for single items, and holds because every content of
the package was accepted.  That the climb ends is not a rule for any single item.  It follows from the number of
items, since a climb for ever would have to come back.
-/

namespace Graph

variable {g : Graph}

/-- The climb from an identifier passes only items of a kind and ends in a root of that kind. -/
inductive Rooted (g : Graph) (kind : Kind) : String → Prop
  | root {id : String} {d : ItemData} (found : g.get? id = some d) (ofKind : d.kind = kind)
      (top : d.parent? = none) (ownKind : d.hasClass = some kind.tag) : Rooted g kind id
  | step {id parent : String} {d : ItemData} (found : g.get? id = some d) (ofKind : d.kind = kind)
      (above : d.parent? = some parent) (rest : Rooted g kind parent) : Rooted g kind id

/-- A graph in which the check for cycles finds nothing has none. -/
theorem acyclic_of_specializationCycles (clean : Consistency.specializationCycles g = none) : g.Acyclic := by
  intro id n positive back
  have reported := cycle?_isSome_of_climb? positive back
  rcases Option.isSome_iff_exists.mp reported with ⟨path, path_eq⟩
  rcases exists_get?_of_climb? positive back with ⟨d, parent, found, above⟩
  have silent := List.findSome?_eq_none_iff.mp clean d (mem_of_get? found)
  simp [id?_of_get? found, above, path_eq] at silent

/-- What a clean check of references says about one of them. -/
theorem get?_of_classReferences (clean : Consistency.classReferences g = none) {d : ItemData}
    (member : d ∈ g.items) {r : Consistency.Reference} (refers : r ∈ Consistency.references d) :
    ∃ target, g.get? r.target = some target ∧ target.kind = r.expected := by
  have silent := List.findSome?_eq_none_iff.mp (List.findSome?_eq_none_iff.mp clean d member) r refers
  rw [Option.map_eq_none_iff, Consistency.referenceCause?] at silent
  cases found : g.get? r.target with
  | none => simp [found] at silent
  | some target =>
      by_cases same : target.kind = r.expected
      · exact ⟨target, rfl, same⟩
      · simp [found, same] at silent

/-- The parent of a class is a class of the same kind. -/
theorem get?_parent (clean : Consistency.classReferences g = none) {d : ItemData} (member : d ∈ g.items)
    (isClass : d.kind.isClass = true) {parent : String} (above : d.parent? = some parent) :
    ∃ target, g.get? parent = some target ∧ target.kind = d.kind := by
  apply get?_of_classReferences clean member (r := ⟨"specializes", parent, d.kind⟩)
  simp [Consistency.references, isClass, above]

end Graph

namespace Validation

/-- An accepted class without a parent names its own kind. -/
theorem hasClass_of_root {d : ItemData} (valid : item d = .ok ()) (isClass : d.kind.isClass = true)
    (top : d.parent? = none) : d.hasClass = some d.kind.tag := by
  have origin : ∃ i, d.identifiable = some i ∧ classOrigin d i = .ok () := by
    cases d with
    | propertyClass p | linkClass p | entityClass p | relationshipClass p =>
        rcases Outcome.unit_bind_eq_ok.mp valid with ⟨_, valid⟩
        rcases Outcome.unit_bind_eq_ok.mp valid with ⟨origin, _⟩
        exact ⟨_, rfl, origin⟩
    | _ => cases isClass
  rcases origin with ⟨i, named, origin⟩
  have noParent : i.specializes = none := by
    rw [ItemData.parent?, named] at top
    exact top
  rw [classOrigin, noParent] at origin
  cases own : d.hasClass with
  | none => simp [own] at origin
  | some c =>
      by_cases same : c = d.kind.tag
      · rw [same]
      · simp [own, same] at origin

end Validation

namespace Graph

variable {g : Graph}

/-- In a graph of accepted items with sound references and no cycle, every class is rooted. -/
theorem rooted_of_get? (valid : ∀ d ∈ g.items, Validation.item d = .ok ())
    (references : Consistency.classReferences g = none) (acyclic : g.Acyclic) {id : String} {d : ItemData}
    (found : g.get? id = some d) (isClass : d.kind.isClass = true) : g.Rooted d.kind id := by
  rcases exists_climb?_end acyclic id with ⟨n, top, reached, ends⟩
  -- The induction is on the steps that are left to the top, which exists because nothing comes back.
  induction n generalizing id d with
  | zero =>
      cases reached
      have noParent : d.parent? = none := by
        rw [parentOf?, found] at ends
        exact ends
      exact .root found rfl noParent (Validation.hasClass_of_root (valid d (mem_of_get? found)) isClass noParent)
  | succ n ih =>
      rw [climb?_succ] at reached
      rcases Option.bind_eq_some_iff.mp reached with ⟨parent, named, onward⟩
      have above : d.parent? = some parent := by
        rw [parentOf?, found] at named
        exact named
      rcases get?_parent references (mem_of_get? found) isClass above with ⟨target, there, sameKind⟩
      have rest := ih there (sameKind ▸ isClass) onward
      exact .step found rfl above (sameKind ▸ rest)

end Graph

namespace ItemData

/-- Classes have identifiers. -/
theorem exists_id?_of_isClass (d : ItemData) (isClass : d.kind.isClass = true) : ∃ id, d.id? = some id := by
  cases d <;> first | exact ⟨_, rfl⟩ | cases isClass

/-- An item names a class of a kind: an individual or a fragment its own, an individual those of the fragments in
it. -/
inductive NamesClass (d : ItemData) : String → Kind → Prop
  | own {c : String} {kind : Kind} (named : d.hasClass = some c) (expected : d.kind.classKind = some kind) :
      NamesClass d c kind
  | property {v : PropertyValue} (member : v ∈ d.properties) : NamesClass d v.hasClass .propertyClass
  | sourceLink {l : LinkValue} (member : l ∈ d.sourceLinks) : NamesClass d l.hasClass .linkClass
  | targetLink {l : LinkValue} (member : l ∈ d.targetLinks) : NamesClass d l.hasClass .linkClass

/-- Classes themselves name no class in this sense. -/
theorem NamesClass.not_isClass {d : ItemData} {c : String} {kind : Kind} (names : d.NamesClass c kind) :
    d.kind.isClass = false := by
  cases names with
  | own _ expected => cases d <;> first | rfl | cases expected
  | property member | sourceLink member | targetLink member => cases d <;> first | rfl | cases member

/-- The kind expected of a class that is named is a kind of classes. -/
theorem NamesClass.isClass {d : ItemData} {c : String} {kind : Kind} (names : d.NamesClass c kind) :
    kind.isClass = true := by
  cases names with
  | own _ expected => cases d <;> cases expected <;> rfl
  | property | sourceLink | targetLink => rfl

/-- The check of references looks at every class that is named. -/
theorem NamesClass.mem_references {d : ItemData} {c : String} {kind : Kind} (names : d.NamesClass c kind) :
    ∃ field, (⟨field, c, kind⟩ : Consistency.Reference) ∈ Consistency.references d := by
  have other := names.not_isClass
  cases names with
  | own named expected => exact ⟨"hasClass", by simp [Consistency.references, other, named, expected]⟩
  | @property v member =>
      refine ⟨v.hasClass, ?_⟩
      simp only [Consistency.references, other, Bool.false_eq_true, if_false, List.mem_append, List.mem_map]
      exact Or.inl (Or.inr ⟨v, member, rfl⟩)
  | @sourceLink l member =>
      refine ⟨l.hasClass, ?_⟩
      simp only [Consistency.references, other, Bool.false_eq_true, if_false, List.mem_append, List.mem_map]
      exact Or.inr ⟨l, Or.inl member, rfl⟩
  | @targetLink l member =>
      refine ⟨l.hasClass, ?_⟩
      simp only [Consistency.references, other, Bool.false_eq_true, if_false, List.mem_append, List.mem_map]
      exact Or.inr ⟨l, Or.inr member, rfl⟩

end ItemData

namespace Package

def hierarchyChecks : CheckSet := .only [.duplicateIds, .classReferences, .specializationCycles]

/-- In a package that passes these checks every class in it, and every class that an individual or a fragment names,
is rooted: an item of the kind that belongs there, below finitely many more of that kind and, at last, a root. -/
theorem rooted_of_check {schemas : Validator} {p : Package} (built : p.Built schemas) {lang : String}
    (clean : p.check hierarchyChecks lang = none) :
    (∀ d ∈ p.contents, d.kind.isClass = true →
        ∃ id, d.id? = some id ∧ p.graph.get? id = some d ∧ p.graph.Rooted d.kind id) ∧
      ∀ d ∈ p.contents, ∀ c kind, d.NamesClass c kind → p.graph.Rooted kind c := by
  have silent := (Graph.check_eq_none_iff p.graph hierarchyChecks lang).mp clean
  have distinct : p.graph.ids.Nodup := by
    rw [← Graph.duplicates_eq_nil_iff, ← List.head?_eq_none_iff]
    exact Option.map_eq_none_iff.mp (silent .duplicateIds rfl)
  have references : Consistency.classReferences p.graph = none := silent .classReferences rfl
  have acyclic := Graph.acyclic_of_specializationCycles (silent .specializationCycles rfl)
  have rooted : ∀ {id d}, p.graph.get? id = some d → d.kind.isClass = true → p.graph.Rooted d.kind id :=
    fun found isClass => Graph.rooted_of_get? (fun d member => built.valid member) references acyclic found isClass
  constructor
  · intro d member isClass
    rcases d.exists_id?_of_isClass isClass with ⟨id, named⟩
    have found : p.graph.get? id = some d := Graph.get?_of_mem distinct member named
    exact ⟨id, named, found, rooted found isClass⟩
  · intro d member c kind names
    rcases names.mem_references with ⟨field, refers⟩
    rcases Graph.get?_of_classReferences references member refers with ⟨target, found, expected⟩
    have ofKind : target.kind = kind := expected
    exact ofKind ▸ rooted found (ofKind ▸ names.isClass)

theorem rooted_of_check_car :
    carPackage.check hierarchyChecks "en" = none ∧ carPackage.graph.Rooted .entityClass "ex:Car" ∧
      carPackage.graph.Rooted .propertyClass "ex:weight" := by
  have clean : carPackage.check hierarchyChecks "en" = none := by decide +kernel
  have rooted := (rooted_of_check built_carPackage clean).2
  have car : carContents[7] ∈ carPackage.contents := by decide +kernel
  exact ⟨clean, rooted _ car _ _ (.own rfl rfl),
    rooted _ car _ _ (.property (v := ⟨"ex:weight", "1200", none⟩) (by decide))⟩

end Package
end ProductGraph
