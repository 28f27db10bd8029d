import Mathlib.Data.String.Basic
import ProductGraph.Proofs.Graph.Rearrangement
import ProductGraph.Proofs.Package.Sound

namespace ProductGraph

/-!
# Fragments in the order of their classes

The fragments of an individual may be brought into the order of their classes, those of one class staying in the order
in which they stand.  Such an order is determined by which fragments there are of each class, in which order.  An
individual with its fragments in another order is as sound as it was.
-/

/-! ## Sorting by name -/

section ByName

variable {α : Type} {name : α → String}

/-- Things in the order of their names, those of one name in the order in which they stand. -/
def byName (name : α → String) (things : List α) : List α := things.mergeSort fun a b => name a ≤ name b

theorem byName_nil (name : α → String) : byName name [] = [] := List.mergeSort_nil

theorem byName_perm (name : α → String) (things : List α) : (byName name things).Perm things :=
  List.mergeSort_perm _ _

theorem le_trans_of_decide {a b c : α} (first : decide (name a ≤ name b) = true)
    (second : decide (name b ≤ name c) = true) : decide (name a ≤ name c) = true :=
  decide_eq_true (le_trans (of_decide_eq_true first) (of_decide_eq_true second))

theorem le_total_decide (a b : α) : (decide (name a ≤ name b) || decide (name b ≤ name a)) = true := by
  rw [Bool.or_eq_true, decide_eq_true_eq, decide_eq_true_eq]
  exact le_total _ _

theorem pairwise_byName (name : α → String) (things : List α) :
    (byName name things).Pairwise fun a b => name a ≤ name b :=
  (List.pairwise_mergeSort (fun _ _ _ => le_trans_of_decide) le_total_decide things).imp of_decide_eq_true

/-- Sorting leaves the things of one name in their order. -/
theorem filter_byName (name : α → String) (things : List α) (key : String) :
    (byName name things).filter (fun a => name a == key) = things.filter fun a => name a == key := by
  have alike : (things.filter fun a => name a == key).Pairwise fun a b => decide (name a ≤ name b) = true := by
    apply List.pairwise_of_forall_mem_list
    intro a first b second
    rw [eq_of_beq (List.mem_filter.mp first).2, eq_of_beq (List.mem_filter.mp second).2]
    exact decide_eq_true (le_refl key)
  have inside : (things.filter fun a => name a == key).Sublist (byName name things) :=
    List.sublist_mergeSort (fun _ _ _ => le_trans_of_decide) le_total_decide alike List.filter_sublist
  have kept : ((things.filter fun a => name a == key).filter fun a => name a == key).Sublist
      ((byName name things).filter fun a => name a == key) := inside.filter _
  rw [List.filter_filter] at kept
  simp only [Bool.and_self] at kept
  exact (kept.eq_of_length ((byName_perm name things).filter _).length_eq.symm).symm

/-- Two lists in order of name are the same if they have the same things of each name in the same order. -/
theorem eq_of_filter_eq {first second : List α} (sorted : first.Pairwise fun a b => name a ≤ name b)
    (alsoSorted : second.Pairwise fun a b => name a ≤ name b)
    (same : ∀ key, first.filter (fun a => name a == key) = second.filter fun a => name a == key) : first = second := by
  have mem_of_mem : ∀ {l m : List α}, (∀ key, l.filter (fun a => name a == key) = m.filter fun a => name a == key) →
      ∀ a ∈ l, a ∈ m := by
    intro l m same a member
    have inFilter : a ∈ l.filter fun b => name b == name a := List.mem_filter.mpr ⟨member, beq_self_eq_true _⟩
    rw [same] at inFilter
    exact List.mem_of_mem_filter inFilter
  induction first generalizing second with
  | nil =>
      cases second with
      | nil => rfl
      | cons b rest => exact nomatch mem_of_mem (fun key => (same key).symm) b List.mem_cons_self
  | cons a rest ih =>
      cases second with
      | nil => exact nomatch mem_of_mem same a List.mem_cons_self
      | cons b others =>
          have parts := List.pairwise_cons.mp sorted
          have otherParts := List.pairwise_cons.mp alsoSorted
          -- Each of the two heads occurs in the other list, so neither name is above the other.
          have below : name a ≤ name b := by
            rcases List.mem_cons.mp (mem_of_mem (fun key => (same key).symm) b List.mem_cons_self) with rfl | later
            · exact le_refl _
            · exact parts.1 b later
          have above : name b ≤ name a := by
            rcases List.mem_cons.mp (mem_of_mem same a List.mem_cons_self) with rfl | later
            · exact le_refl _
            · exact otherParts.1 a later
          have named : name b = name a := le_antisymm above below
          have heads := same (name a)
          simp only [List.filter_cons, named, beq_self_eq_true, if_true] at heads
          cases (List.cons.inj heads).1
          refine congrArg (List.cons a) (ih parts.2 otherParts.2 fun key => ?_)
          have here := same key
          rw [List.filter_cons, List.filter_cons] at here
          split at here
          · exact (List.cons.inj here).2
          · exact here

/-- The things of each of some different names are those of one of them. -/
theorem flatMap_filter_filter (things : List α) {keys : List String} (distinct : keys.Nodup) (key : String) :
    (keys.flatMap fun k => (things.filter fun a => name a == k).filter fun a => name a == key) =
      if key ∈ keys then things.filter fun a => name a == key else [] := by
  induction keys with
  | nil => rfl
  | cons k rest ih =>
      have parts := List.nodup_cons.mp distinct
      rw [List.flatMap_cons, ih parts.2, List.filter_filter]
      by_cases here : key = k
      · subst here
        simp only [Bool.and_self, parts.1, if_false, List.append_nil, List.mem_cons_self, if_true]
      · have noneNamed : (things.filter fun a => name a == key && name a == k) = [] := by
          rw [List.filter_eq_nil_iff]
          intro a _ both
          rw [Bool.and_eq_true, beq_iff_eq, beq_iff_eq] at both
          exact here (both.1.symm.trans both.2)
        have same : key ∈ k :: rest ↔ key ∈ rest := by
          rw [List.mem_cons]
          exact ⟨fun either => either.resolve_left here, Or.inr⟩
        rw [noneNamed, List.nil_append]
        simp only [same]

/-- Taking the things name by name, the names in order, sorts them. -/
theorem flatMap_filter_eq_byName {things : List α} {keys : List String} (ordered : keys.Pairwise (· < ·))
    (covered : ∀ a ∈ things, name a ∈ keys) :
    (keys.flatMap fun key => things.filter fun a => name a == key) = byName name things := by
  have distinct : keys.Nodup := ordered.imp fun below => ne_of_lt below
  refine eq_of_filter_eq ?_ (pairwise_byName name things) fun key => ?_
  · rw [List.pairwise_flatMap]
    constructor
    · intro key _
      apply List.pairwise_of_forall_mem_list
      intro a first b second
      rw [eq_of_beq (List.mem_filter.mp first).2, eq_of_beq (List.mem_filter.mp second).2]
    · refine ordered.imp fun {k l} below a first b second => ?_
      rw [eq_of_beq (List.mem_filter.mp first).2, eq_of_beq (List.mem_filter.mp second).2]
      exact le_of_lt below
  · rw [filter_byName, List.filter_flatMap, flatMap_filter_filter things distinct]
    split
    · rfl
    · rename_i absent
      refine (List.filter_eq_nil_iff.mpr fun a member named => ?_).symm
      exact absent (beq_iff_eq.mp named ▸ covered a member)

/-- Sorting commutes with a change that keeps names. -/
theorem byName_map {β : Type} {other : β → String} {f : α → β} (same : ∀ a, other (f a) = name a) (things : List α) :
    byName other (things.map f) = (byName name things).map f := by
  rw [byName, byName, List.map_mergeSort]
  intro a _ b _
  rw [same, same]

end ByName

/-! ## Individuals with sorted fragments -/

namespace ItemData

/-- An item with the fragments of an individual in the order of their classes. -/
def sortedFragments : ItemData → ItemData
  | entity e =>
    entity { e with
      individual := { e.individual with hasProperty := byName (·.hasClass) e.individual.hasProperty }
      hasTargetLink := byName (·.hasClass) e.hasTargetLink }
  | relationship r =>
    relationship { r with
      individual := { r.individual with hasProperty := byName (·.hasClass) r.individual.hasProperty }
      hasSourceLink := byName (·.hasClass) r.hasSourceLink
      hasTargetLink := byName (·.hasClass) r.hasTargetLink }
  | d => d

theorem rearranged_sortedFragments (d : ItemData) : d.Rearranged d.sortedFragments := by
  cases d with
  | entity e => exact .entity e (byName_perm _ _).symm (byName_perm _ _).symm
  | relationship r => exact .relationship r (byName_perm _ _).symm (byName_perm _ _).symm (byName_perm _ _).symm
  | _ => exact .same _

theorem properties_sortedFragments (d : ItemData) :
    d.sortedFragments.properties = byName (·.hasClass) d.properties := by
  cases d <;> simp [sortedFragments, properties, individual, byName]

theorem sourceLinks_sortedFragments (d : ItemData) :
    d.sortedFragments.sourceLinks = byName (·.hasClass) d.sourceLinks := by
  cases d <;> simp [sortedFragments, sourceLinks, byName]

theorem targetLinks_sortedFragments (d : ItemData) :
    d.sortedFragments.targetLinks = byName (·.hasClass) d.targetLinks := by
  cases d <;> simp [sortedFragments, targetLinks, byName]

end ItemData

/-! ## Soundness in another order -/

/-- A value whose items, if it has any, may stand in another order. -/
inductive Json.Permuted : Option Json → Option Json → Prop
  | same (v : Option Json) : Permuted v v
  | items {first second : List Json} (permuted : first.Perm second) :
      Permuted (some (.array first)) (some (.array second))

theorem Writing.permuted_unlessEmpty {α : Type} (write : α → Json) {first second : List α}
    (permuted : first.Perm second) : Json.Permuted (unlessEmpty write first) (unlessEmpty write second) := by
  cases first with
  | nil =>
      cases List.nil_perm.mp permuted
      exact .same none
  | cons a rest =>
      cases second with
      | nil => exact nomatch List.perm_nil.mp permuted
      | cons b others => exact .items (permuted.map write)

/-- Whether an array has a shape does not depend on the order of its items. -/
theorem Shape.fits_of_permuted {shape : Shape} {v w : Json} (permuted : Json.Permuted (some v) (some w))
    (fits : shape.Fits v) : shape.Fits w := by
  cases permuted with
  | same => exact fits
  | items permuted =>
      cases shape with
      | identifiers | texts | textList | properties | links =>
          rcases fits with ⟨_, ⟨⟩, each⟩
          exact ⟨_, rfl, fun v member => each v (permuted.mem_iff.mpr member)⟩
      | identifier | count => exact nomatch fits.choose_spec.1
      | text | number => exact nomatch fits.choose_spec
      | exactly => cases fits

/-- The same entries up to the order of the items of arrays. -/
def Writing.Entries.Permuted (first second : Entries) : Prop :=
  List.Forall₂ (fun a b => a.1 = b.1 ∧ Json.Permuted a.2 b.2) first second

namespace Writing.Entries.Permuted

theorem refl (entries : Entries) : Permuted entries entries := List.forall₂_same.mpr fun e _ => ⟨rfl, .same e.2⟩

theorem append {first second others more : Entries} (front : Permuted first second) (back : Permuted others more) :
    Permuted (first ++ others) (second ++ more) := List.rel_append front back

theorem mem {first second : Entries} (permuted : Permuted first second) {e : String × Option Json}
    (member : e ∈ second) : ∃ written, (e.1, written) ∈ first ∧ Json.Permuted written e.2 := by
  induction permuted with
  | nil => cases member
  | @cons a b _ _ head _ ih =>
      rcases List.mem_cons.mp member with rfl | later
      · exact ⟨a.2, head.1 ▸ List.mem_cons_self, head.2⟩
      · rcases ih later with ⟨written, inFirst, same⟩
        exact ⟨written, List.mem_cons_of_mem _ inFirst, same⟩

theorem individual (i : Individual) {properties : List PropertyValue} (permuted : i.hasProperty.Perm properties) :
    Permuted (Writing.individual i) (Writing.individual { i with hasProperty := properties }) :=
  .cons ⟨rfl, .same _⟩ (.cons ⟨rfl, .same _⟩ (.cons ⟨rfl, .same _⟩ (.cons ⟨rfl, .same _⟩
    (.cons ⟨rfl, permuted_unlessEmpty embeddedProperty permuted⟩ .nil))))

end Writing.Entries.Permuted

namespace ItemData

/-- What is written of an item with its fragments in another order. -/
theorem permuted_entries {d e : ItemData} (rearranged : d.Rearranged e) :
    Writing.Entries.Permuted d.entries e.entries := by
  cases rearranged with
  | same => exact .refl _
  | entity e permuted targetsPermuted =>
      have targets := Writing.permuted_unlessEmpty Writing.embeddedLink targetsPermuted
      exact .append (.append (.append (.refl _) (.individual _ permuted))
        (.cons ⟨rfl, .same _⟩ (.cons ⟨rfl, targets⟩ .nil))) (.refl _)
  | relationship r permuted sourcesPermuted targetsPermuted =>
      have sources := Writing.permuted_unlessEmpty Writing.embeddedLink sourcesPermuted
      have targets := Writing.permuted_unlessEmpty Writing.embeddedLink targetsPermuted
      exact .append (.append (.append (.refl _) (.individual _ permuted))
        (.cons ⟨rfl, .same _⟩ (.cons ⟨rfl, sources⟩ (.cons ⟨rfl, targets⟩ .nil)))) (.refl _)

theorem conforms_of_rearranged {d e : ItemData} (rearranged : d.Rearranged e) (conforms : d.kind.Conforms d.toJson) :
    e.kind.Conforms e.toJson := by
  refine Shape.closed_fieldsOf e.nodup_names_entries e.exists_required ?_
  intro f member v made
  rcases (permuted_entries rearranged).mem member with ⟨written, inEntries, permuted⟩
  have there := d.holds_entries _ inEntries
  rw [made] at permuted
  cases written with
  | none => cases permuted
  | some w =>
      rcases conforms with ⟨_, ⟨⟩, _, known⟩
      rcases known _ (Keyed.mem_of_get? there) with ⟨P, named, fits⟩
      rw [← rearranged.resembles.kind_eq] at named
      refine ⟨P, named, ?_⟩
      rw [Keyed.get?_map _ fun _ shape => Shape.Fits shape] at named
      rcases Option.map_eq_some_iff.mp named with ⟨shape, _, rfl⟩
      exact Shape.fits_of_permuted permuted fits

theorem valid_of_rearranged {d e : ItemData} (rearranged : d.Rearranged e) :
    Validation.item e = Validation.item d := by
  cases rearranged with
  | same => rfl
  | entity => rfl
  | relationship r permuted sourcesPermuted targetsPermuted =>
      have sources := sourcesPermuted.isEmpty_eq
      have targets := targetsPermuted.isEmpty_eq
      simp only [Validation.item, Validation.edge, Validation.individual, sources, targets]

/-- An item is as sound with its fragments in another order. -/
theorem Sound.rearranged {d e : ItemData} (sound : d.Sound) (rearranged : d.Rearranged e) : e.Sound where
  conforms := conforms_of_rearranged rearranged sound.conforms
  known := by
    cases rearranged with
    | same => exact sound.known
    | entity => exact countsKnown_of_kind nofun
    | relationship => exact countsKnown_of_kind nofun
  valid := (valid_of_rearranged rearranged).trans sound.valid

end ItemData
end ProductGraph
