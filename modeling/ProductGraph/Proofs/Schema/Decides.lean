import Mathlib.Data.List.Forall2
import ProductGraph.Proofs.Keyed
import ProductGraph.Schema.Check

namespace ProductGraph
namespace Schema

/-!
# What schemas decide

A schema decides a property of values if it finds no fault exactly in the values that have the property.  What a
schema decides follows from what its parts decide, rule by rule, as long as there are steps enough to reach the
parts; how many are enough is counted along.  The place of a fault never matters for whether there is one.
-/

/-- With so many steps or more, a schema finds no fault exactly in the values with a property. -/
def Decides (table : SchemaTable) (need : Nat) (schema : Schema) (P : Json → Prop) : Prop :=
  ∀ steps, need ≤ steps → ∀ place v, faults table steps schema place v = [] ↔ P v

variable {table : SchemaTable} {need : Nat} {schema : Schema} {P Q : Json → Prop}

theorem Decides.mono (decides : Decides table need schema P) {more : Nat} (le : need ≤ more) :
    Decides table more schema P :=
  fun steps enough => decides steps (Nat.le_trans le enough)

theorem Decides.congr (decides : Decides table need schema P) (same : ∀ v, P v ↔ Q v) :
    Decides table need schema Q :=
  fun steps enough place v => (decides steps enough place v).trans (same v)

/-- It is enough to look at one step, and at what is left after it. -/
theorem decides_of_step
    (step : ∀ steps, need ≤ steps → ∀ place v, faults table (steps + 1) schema place v = [] ↔ P v) :
    Decides table (need + 1) schema P := by
  intro steps enough place v
  rcases Nat.exists_eq_add_of_le' (Nat.le_trans (Nat.le_add_left 1 _) enough) with ⟨fewer, rfl⟩
  exact step fewer (Nat.le_of_succ_le_succ enough) place v

theorem faultUnless_eq_nil_iff {holds : Bool} {place message : String} :
    faultUnless holds place message = [] ↔ holds = true := by
  cases holds <;> simp [faultUnless]

/-! ## Rules for single values -/

theorem decides_anything : Decides table 1 .anything fun _ => True :=
  decides_of_step fun _ _ _ _ => iff_of_true rfl trivial

theorem decides_types (allowed : List JsonType) :
    Decides table 1 (.types allowed) fun v => allowed.any (·.has v) = true :=
  decides_of_step fun _ _ _ _ => faultUnless_eq_nil_iff

theorem decides_pattern (text : String) (p : Pattern) :
    Decides table 1 (.pattern text p) fun v => ∀ s, v = .string s → p.matchesText s = true :=
  decides_of_step fun _ _ _ v => by
    cases v with
    | string s => exact faultUnless_eq_nil_iff.trans (by simp)
    | _ => exact iff_of_true rfl (by rintro _ ⟨⟩)

theorem decides_bound (b : NumberBound) (limit : Numeral) :
    Decides table 1 (.bound b limit) fun v => ∀ n, v = .number n → b.allows limit n = true :=
  decides_of_step fun _ _ _ v => by
    cases v with
    | number n => exact faultUnless_eq_nil_iff.trans (by simp)
    | _ => exact iff_of_true rfl (by rintro _ ⟨⟩)

theorem equivalent_string {v : Json} {s : String} : v.equivalent (.string s) = true ↔ v = .string s := by
  cases v <;> simp [Json.equivalent]

theorem decides_const (s : String) : Decides table 1 (.const (.string s)) fun v => v = .string s :=
  decides_of_step fun _ _ _ _ => faultUnless_eq_nil_iff.trans equivalent_string

theorem decides_enumeration (texts : List String) :
    Decides table 1 (.enumeration (texts.map .string)) fun v => ∃ s ∈ texts, v = .string s :=
  decides_of_step fun _ _ _ _ => faultUnless_eq_nil_iff.trans (by simp [equivalent_string])

/-! ## Rules that lead to others -/

theorem Decides.reference {target : String} {entry : String × Schema}
    (found : table.find? (fun e => e.1 == target) = some entry) (decides : Decides table need entry.2 P) :
    Decides table (need + 1) (.reference target) P :=
  decides_of_step fun steps enough place v => by
    have one : faults table (steps + 1) (.reference target) place v = faults table steps entry.2 place v := by
      rw [faults]
      simp only [found]
    rw [one]
    exact decides steps enough place v

/-- Rules together decide all that they decide one by one. -/
theorem Decides.all {parts : List Schema} {Ps : List (Json → Prop)}
    (each : List.Forall₂ (Decides table need) parts Ps) :
    Decides table (need + 1) (.all parts) fun v => ∀ P ∈ Ps, P v :=
  decides_of_step fun steps enough place v => by
    change (parts.flatMap fun s => faults table steps s place v) = [] ↔ _
    induction each with
    | nil => simp
    | cons head _ ih =>
        rw [List.flatMap_cons, List.append_eq_nil_iff, head steps enough place v, ih, List.forall_mem_cons]

/-! ## Rules for lists and objects -/

/-- Every item of a list has a property; what is no list has none. -/
def Each (P : Json → Prop) (v : Json) : Prop := ∃ items, v = .array items ∧ ∀ item ∈ items, P item

/-- An object has the required fields, and every field it has is one of those that are allowed and has the property
that belongs to it. -/
def Closed (required : List String) (allowed : Keyed (Json → Prop)) (v : Json) : Prop :=
  ∃ fields, v = .object fields ∧ (∀ name ∈ required, Keyed.has fields name = true) ∧
    ∀ f ∈ fields, ∃ P, allowed.get? f.1 = some P ∧ P f.2

theorem Closed.exists_object {required : List String} {allowed : Keyed (Json → Prop)} {v : Json}
    (closed : Closed required allowed v) : ∃ fields, v = .object fields := by
  rcases closed with ⟨fields, is, _⟩
  exact ⟨fields, is⟩

theorem Closed.has {required : List String} {allowed : Keyed (Json → Prop)} {fields : Fields}
    (closed : Closed required allowed (.object fields)) : ∀ name ∈ required, fields.has name = true := by
  rcases closed with ⟨_, ⟨⟩, there, _⟩
  exact there

theorem mem_numbered {start : Nat} {list : List Json} {v : Json} :
    (∃ i, (i, v) ∈ numbered start list) ↔ v ∈ list := by
  induction list generalizing start with
  | nil => simp [numbered]
  | cons item rest ih =>
      simp only [numbered, List.mem_cons, Prod.mk.injEq, exists_or, ih]
      simp

theorem Decides.items (decides : Decides table need schema P) :
    Decides table (need + 1) (.items 0 schema) fun v => ∀ items, v = .array items → ∀ item ∈ items, P item :=
  decides_of_step fun steps enough place v => by
    cases v with
    | array list =>
        have one : faults table (steps + 1) (.items 0 schema) place (.array list) =
            (numbered 0 list).flatMap fun n => faults table steps schema (Fault.below place (toString n.1)) n.2 := rfl
        simp only [one, List.flatMap_eq_nil_iff, Prod.forall, Json.array.injEq, forall_eq']
        constructor
        · intro silent item member
          rcases mem_numbered.mpr member with ⟨i, inNumbered⟩
          exact (decides steps enough _ item).mp (silent i item inNumbered)
        · intro each i item inNumbered
          exact (decides steps enough _ item).mpr (each item (mem_numbered.mp ⟨i, inNumbered⟩))
    | _ => exact iff_of_true rfl (by rintro _ ⟨⟩)

theorem decides_required (names : List String) :
    Decides table 1 (.required names)
      fun v => ∀ fields, v = .object fields → ∀ name ∈ names, Keyed.has fields name = true :=
  decides_of_step fun steps _ place v => by
    cases v with
    | object fields =>
        have one : faults table (steps + 1) (.required names) place (.object fields) =
            (names.filter fun n => !Keyed.has fields n).map fun n =>
              ⟨place, (Json.string n).compact ++ " is a required property"⟩ := rfl
        simp [one, List.filter_eq_nil_iff]
    | _ => exact iff_of_true rfl (by rintro _ ⟨⟩)

/-- Schemas of named fields that decide properties of the same names. -/
def DecidesNamed (table : SchemaTable) (need : Nat) : List (String × Schema) → Keyed (Json → Prop) → Prop :=
  List.Forall₂ fun s p => s.1 = p.1 ∧ Decides table need s.2 p.2

/-- Under a name there is a schema exactly if there is a property, and the schema decides it. -/
theorem DecidesNamed.get? {named : List (String × Schema)} {allowed : Keyed (Json → Prop)}
    (each : DecidesNamed table need named allowed) (name : String) :
    (named? named name = none ∧ allowed.get? name = none) ∨
      ∃ s P, named? named name = some s ∧ allowed.get? name = some P ∧ Decides table need s P := by
  induction each with
  | nil => exact Or.inl ⟨rfl, rfl⟩
  | @cons s p _ _ head _ ih =>
      rcases head with ⟨same, decides⟩
      by_cases here : s.1 = name
      · right
        refine ⟨s.2, p.2, ?_, ?_, decides⟩
        · simp [named?, here]
        · simp [← same, here]
      · rw [named?, List.find?_cons_of_neg (by simpa using here), Keyed.get?_cons, if_neg (same ▸ here)]
        exact ih

/-- What is under a name passes the schema of this name exactly if it has the property of this name. -/
theorem DecidesNamed.faults_iff {named : List (String × Schema)} {allowed : Keyed (Json → Prop)}
    (each : DecidesNamed table need named allowed) {steps : Nat} (enough : need ≤ steps) (place name : String)
    (v : Json) :
    ((named? named name).isSome = true ∧ ∀ s ∈ named? named name, faults table steps s place v = []) ↔
      ∃ P, allowed.get? name = some P ∧ P v := by
  rcases each.get? name with ⟨noSchema, noProperty⟩ | ⟨s, P, schema, property, decides⟩
  · simp [noSchema, noProperty]
  · simp [schema, property, decides steps enough place v]

/-- Named rules find nothing in fields that have names and pass the rules of these names. -/
theorem faults_closedProperties_eq_nil_iff {named : List (String × Schema)} {steps : Nat} {place : String}
    {fields : Fields} :
    faults table (steps + 1) (.closedProperties named []) place (.object fields) = [] ↔
      ∀ f ∈ fields, (named? named f.1).isSome = true ∧
        ∀ s ∈ named? named f.1, faults table steps s (Fault.below place f.1) f.2 = [] := by
  have known : (Keyed.names fields).filter (fun name => (named? named name).isNone && (matching [] name).isEmpty) = [] ↔
      ∀ f ∈ fields, (named? named f.1).isSome = true := by
    rw [List.filter_eq_nil_iff, Keyed.names, List.forall_mem_map]
    simp [matching, Option.isSome_iff_ne_none]
  have one : faults table (steps + 1) (.closedProperties named []) place (.object fields) =
      let found := fields.flatMap fun f => ((named? named f.1).toList ++ matching [] f.1).flatMap fun s =>
        faults table steps s (Fault.below place f.1) f.2
      let foreign := (Keyed.names fields).filter fun name => (named? named name).isNone && (matching [] name).isEmpty
      if foreign.isEmpty then found else found ++ [⟨place, Fault.unexpected foreign⟩] := rfl
  rw [one, forall₂_and, ← known]
  dsimp only
  split
  · rename_i noForeign
    rw [List.isEmpty_iff] at noForeign
    rw [and_iff_right noForeign, List.flatMap_eq_nil_iff]
    simp [matching, List.flatMap_eq_nil_iff]
  · rename_i someForeign
    rw [List.isEmpty_iff] at someForeign
    exact iff_of_false (by simp) fun both => someForeign both.1

theorem Decides.closedProperties {named : List (String × Schema)} {allowed : Keyed (Json → Prop)}
    (each : DecidesNamed table need named allowed) :
    Decides table (need + 1) (.closedProperties named [])
      fun v => ∀ fields, v = .object fields → ∀ f ∈ fields, ∃ P, allowed.get? f.1 = some P ∧ P f.2 :=
  decides_of_step fun steps enough place v => by
    cases v with
    | object fields =>
        rw [faults_closedProperties_eq_nil_iff]
        simp only [Json.object.injEq, forall_eq', each.faults_iff enough]
    | _ => exact iff_of_true rfl (by rintro _ ⟨⟩)

end Schema
end ProductGraph
