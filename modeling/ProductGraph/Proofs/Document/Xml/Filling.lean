import ProductGraph.Document.Xml.Reader
import ProductGraph.Document.Xml.Writer
import ProductGraph.Proofs.Document.Normal
import ProductGraph.Proofs.Markup.Element

namespace ProductGraph
namespace Xml

/-!
# Fields filled in part by part

An item in markup is read part by part: its attributes, its children, its restriction and its fragments.  Each part
fills in fields of its own and leaves the others alone.  What the whole item says is put together from what its parts
say, in whatever order they come.

A part is told by its tokens.  It fills in some fields if it is read as elements that, taken one after another, put a
given value into each of these fields.
-/

open Markup (Element Token ReadAs)

/-- A change that puts given values into some fields, unless they are taken, and leaves the others alone. -/
def Fills (target : String → Option Json) (names : List String) (change : Fields → Fields) : Prop :=
  ∀ fields : Fields, Keyed.Sorted fields → (∀ name ∈ names, fields.get? name = none) →
    Keyed.Sorted (change fields) ∧
      ∀ name, (change fields).get? name = if name ∈ names then target name else fields.get? name

namespace Fills

variable {target : String → Option Json} {names others : List String} {change more : Fields → Fields}

theorem nothing (absent : ∀ name ∈ names, target name = none) : Fills target names id := by
  intro fields sorted free
  refine ⟨sorted, fun name => ?_⟩
  by_cases member : name ∈ names
  · rw [if_pos member, absent name member]
    exact free name member
  · rw [if_neg member]
    rfl

/-- Two changes of different fields, one after the other. -/
theorem comp (second : Fills target others more) (first : Fills target names change)
    (apart : ∀ name ∈ others, name ∉ names) : Fills target (names ++ others) (more ∘ change) := by
  intro fields sorted free
  rcases first fields sorted fun name member => free name (List.mem_append_left _ member) with ⟨sortedThen, found⟩
  have freeThen : ∀ name ∈ others, (change fields).get? name = none := by
    intro name member
    rw [found, if_neg (apart name member)]
    exact free name (List.mem_append_right _ member)
  rcases second (change fields) sortedThen freeThen with ⟨sortedLast, foundLast⟩
  refine ⟨sortedLast, fun name => ?_⟩
  rw [Function.comp_apply, foundLast, found]
  by_cases inOthers : name ∈ others
  · rw [if_pos inOthers, if_pos (List.mem_append_right _ inOthers)]
  · by_cases inNames : name ∈ names
    · rw [if_neg inOthers, if_pos inNames, if_pos (List.mem_append_left _ inNames)]
    · rw [if_neg inOthers, if_neg inNames, if_neg fun member => (List.mem_append.mp member).elim inNames inOthers]

theorem congr (fills : Fills target names change) {same : Fields → Fields}
    (eq : ∀ fields : Fields, (∀ name ∈ names, fields.get? name = none) → same fields = change fields) :
    Fills target names same := by
  intro fields sorted free
  rw [eq fields free]
  exact fills fields sorted free

/-- Which values are put elsewhere does not matter. -/
theorem retarget (fills : Fills target names change) {same : String → Option Json}
    (eq : ∀ name ∈ names, target name = same name) : Fills same names change := by
  intro fields sorted free
  rcases fills fields sorted free with ⟨sortedThen, found⟩
  refine ⟨sortedThen, fun name => ?_⟩
  rw [found name]
  split
  · rename_i member
    exact eq name member
  · rfl

end Fills

def given (target : String → Option Json) (names : List String) : Fields :=
  names.filterMap fun name => (target name).map fun v => (name, v)

/-- Of the names under which values may be given, those with a value are used. -/
theorem names_filterMap {α β : Type} (name : α → String) (value : α → Option β) (list : List α) :
    (Keyed.names (list.filterMap fun a => (value a).map fun v => (name a, v))).Sublist (list.map name) := by
  induction list with
  | nil => exact .slnil
  | cons a rest ih =>
      rw [List.filterMap_cons, List.map_cons]
      cases value a with
      | none => exact ih.cons _
      | some v => exact ih.cons_cons _

theorem get?_given {target : String → Option Json} {names : List String} (distinct : names.Nodup) (name : String) :
    Keyed.get? (given target names) name = if name ∈ names then target name else none := by
  induction names with
  | nil => rfl
  | cons first rest ih =>
      have parts := List.nodup_cons.mp distinct
      rw [given, List.filterMap_cons]
      by_cases same : first = name
      · subst same
        have absent := ih parts.2
        rw [if_neg parts.1, given] at absent
        cases value : target first with
        | none => simpa using absent
        | some v => simp
      · have behind := ih parts.2
        rw [given] at behind
        cases target first with
        | none => simpa [Ne.symm same] using behind
        | some v => simpa [same, Ne.symm same] using behind

/-- Putting given values in their places. -/
theorem fills_insertAll (target : String → Option Json) {names : List String} (distinct : names.Nodup) :
    Fills target names (Keyed.insertAll · (given target names)) := by
  intro fields sorted free
  refine ⟨sorted.insertAll _, fun name => ?_⟩
  change Keyed.get? (Keyed.insertAll fields (given target names)) name = _
  have distinctGiven : (Keyed.names (given target names)).Nodup := by
    have used := names_filterMap id target names
    rw [List.map_id] at used
    exact distinct.sublist used
  rw [Keyed.get?_insertAll_of_nodup _ distinctGiven, get?_given distinct]
  by_cases member : name ∈ names
  · have nothing : Keyed.get? fields name = none := free name member
    rw [if_pos member, if_pos member, nothing, Option.or_none]
  · rw [if_neg member, if_neg member, Option.none_or]

theorem fills_insert {target : String → Option Json} {name : String} {v : Json} (value : target name = some v) :
    Fills target [name] (Keyed.insert · name v) := by
  have put := fills_insertAll target (List.pairwise_singleton _ name)
  have one : given target [name] = [(name, v)] := by
    rw [given, List.filterMap_cons, value]
    rfl
  rw [one] at put
  exact put

/-! ## Tokens that tell fields -/

/-- Tokens that are read as elements which, taken by some rule, put given values into some fields.  The names of the
elements are such as the rule expects. -/
def Tells (read : Fields → Element → Fields) (expected : String → Prop) (target : String → Option Json)
    (names : List String) (tokens : List Token) : Prop :=
  ∃ elements, ReadAs Vocabulary.isRichElement tokens elements ∧ (∀ e ∈ elements, expected e.name) ∧
    Fills target names fun fields => elements.foldl read fields

namespace Tells

variable {read : Fields → Element → Fields} {expected : String → Prop} {target : String → Option Json}
  {names others : List String} {tokens more : List Token}

theorem nothing (absent : ∀ name ∈ names, target name = none) : Tells read expected target names [] :=
  ⟨[], .nil, nofun, Fills.nothing absent⟩

theorem append (first : Tells read expected target names tokens) (second : Tells read expected target others more)
    (apart : ∀ name ∈ others, name ∉ names) : Tells read expected target (names ++ others) (tokens ++ more) := by
  rcases first with ⟨elements, reads, fit, fills⟩
  rcases second with ⟨others, alsoReads, alsoFit, alsoFills⟩
  refine ⟨elements ++ others, reads.append alsoReads, ?_, ?_⟩
  · exact List.forall_mem_append.mpr ⟨fit, alsoFit⟩
  · refine (alsoFills.comp fills apart).congr fun fields _ => ?_
    rw [List.foldl_append]
    rfl

/-- Parts that each tell a field of their own tell all these fields together. -/
theorem flatMap {α : Type} {parts : List α} {name : α → String} {tokensOf : α → List Token}
    (each : ∀ a ∈ parts, Tells read expected target [name a] (tokensOf a)) (distinct : (parts.map name).Nodup) :
    Tells read expected target (parts.map name) (parts.flatMap tokensOf) := by
  induction parts with
  | nil => exact .nothing nofun
  | cons a rest ih =>
      have apart := List.nodup_cons.mp distinct
      refine append (each a List.mem_cons_self) (ih (fun b later => each b (List.mem_cons_of_mem _ later)) apart.2) ?_
      intro other member same
      cases List.mem_singleton.mp same
      exact apart.1 member

end Tells

end Xml
end ProductGraph
