import ProductGraph.Proofs.Document.JsonLd.Renaming
import ProductGraph.Proofs.Document.Kind
import ProductGraph.Proofs.Json.Text

namespace ProductGraph
namespace JsonLd

/-!
# Nulls in linked data

A field that holds null says nothing, and a document reads the same without it.  Nulls go different ways: those under a
class are passed over when fragments are gathered, those of other fields are dropped in normal form, the context and
the graph look for null themselves.  What is the same in all of them is what is found under each name in the end.

The three fields for fragments are the exception.  Whatever stands in them is taken for a list or for the only item of
one, and null is no list: it becomes the first fragment of the field.
-/

/-- An object that holds a null, and the same object without it.  No other field comes to the name of this one. -/
structure WithoutNull (name : String) (given left : Fields) : Prop where
  null : (name, Json.null) ∈ given
  alone : ∀ f ∈ given, ownName f.1 = ownName name → f = (name, .null)
  left_eq : left = given.erase name

/-- The outermost object of a document with a null in it or in an object of its graph, and the same without the
null. -/
inductive DropsNull (name : String) : Fields → Fields → Prop
  | header {root left : Fields} (dropped : WithoutNull name root left) : DropsNull name root left
  | item {root : Fields} {before after : List Json} {given left : Fields}
      (graph : root.get? "@graph" = some (.array (before ++ .object given :: after)))
      (dropped : WithoutNull name given left) :
      DropsNull name root (root.insert "@graph" (.array (before ++ .object left :: after)))
  | onlyItem {root given left : Fields} (graph : root.get? "@graph" = some (.object given))
      (dropped : WithoutNull name given left) : DropsNull name root (root.insert "@graph" (.object left))

variable {options : ReadingOptions} {name : String}

/-! ## Nulls in normal form -/

/-- A null in a field other than those for fragments says nothing. -/
theorem field?_null {kind : Option Kind} (noFragments : isFragmentField name = false) :
    Normal.field? options kind name .null = none := by
  have plainField_null : Normal.plainField options kind name .null = .null :=
    Normal.plainField_eq noFragments rfl (fun _ _ => rfl) (fun _ => rfl) (fun _ => rfl) fun _ => rfl
  rw [Normal.field?]
  split
  · rfl
  · split
    · rfl
    · change (if (Normal.plainField options kind name .null).isNull then none else _) = none
      rw [plainField_null]
      rfl

/-- What stands in a field for fragments is read item by item. -/
theorem field?_fragments {kind : Option Kind} (isFragments : isFragmentField name = true) (v : Json) :
    Normal.field? options kind name v =
      some (.array ((Normal.itemsOf (Normal.unwrapping.run v)).map (Normal.fragment options))) := by
  have noText : Vocabulary.textFields.contains name = false := by
    have all : ∀ f ∈ Vocabulary.fragmentFields.map (·.1), Vocabulary.textFields.contains f = false := by decide
    exact all name (List.contains_iff_mem.mp isFragments)
  rw [Normal.field?, isField_of_isFragmentField isFragments, noText, Normal.plainField, if_pos isFragments]
  rfl

/-- Fields are in the same normal form if each name says the same in both. -/
theorem fields_congr {kind : Option Kind} {given other : Fields} (sorted : Keyed.Sorted given)
    (alsoSorted : Keyed.Sorted other)
    (same : ∀ name, (given.get? name).bind (Normal.field? options kind name) =
      (other.get? name).bind (Normal.field? options kind name)) :
    Normal.fields options kind given = Normal.fields options kind other := by
  apply (sorted.filterMap fun f => Normal.field? options kind f.1 f.2).ext
    (alsoSorted.filterMap fun f => Normal.field? options kind f.1 f.2)
  intro name
  exact (Normal.get?_fields_of_sorted sorted name).trans
    ((same name).trans (Normal.get?_fields_of_sorted alsoSorted name).symm)

/-! ## Nulls under classes -/

/-- No fragment comes of a null. -/
theorem fragments_erase {fields : Fields} (nulls : ∀ f ∈ fields, f.1 = name → f.2 = .null) :
    fragments (fields.erase name) = fragments fields := by
  induction fields with
  | nil => rfl
  | cons f rest ih =>
      have step := ih fun g later => nulls g (List.mem_cons_of_mem _ later)
      rw [fragments, Keyed.erase] at step
      by_cases here : f.1 = name
      · have noneKept : (Normal.itemsOf f.2).filterMap (fragment? f.1) = [] := by
          rw [nulls f List.mem_cons_self here]
          rfl
        have dropped : (f.1 != name) = false := by simp [here]
        rw [fragments, fragments, Keyed.erase, List.filter_cons, dropped, if_neg Bool.false_ne_true, step, fragments]
        rw [List.filter_cons]
        split
        · rw [List.flatMap_cons, noneKept, List.nil_append]
        · rfl
      · have kept : (f.1 != name) = true := bne_iff_ne.mpr here
        rw [fragments, fragments, Keyed.erase, List.filter_cons, kept, if_pos rfl, List.filter_cons, List.filter_cons]
        split
        · rw [List.flatMap_cons, List.flatMap_cons, step, fragments]
        · rw [step, fragments]

/-- What is found under a name after fragments were added depends only on what was found there. -/
theorem get?_addFragments_congr {first second : Fields} (same : first.get? name = second.get? name)
    (added : List (String × Json)) : (addFragments first added).get? name = (addFragments second added).get? name := by
  induction added generalizing first second with
  | nil => exact same
  | cons f rest ih =>
      have step : (addFragment first f.1 f.2).get? name = (addFragment second f.1 f.2).get? name := by
        by_cases here : f.1 = name
        · rw [addFragment, addFragment, here, same]
          split <;> rw [Keyed.get?_insert_self, Keyed.get?_insert_self]
        · have apart : name ≠ f.1 := fun equal => here equal.symm
          rw [addFragment, addFragment]
          split <;> split <;> rw [Keyed.get?_insert_ne _ _ apart, Keyed.get?_insert_ne _ _ apart, same]
      exact ih step

/-- Under a name other than that of the null, the same is found without it. -/
theorem get?_gathered_erase {fields : Fields} (nulls : ∀ f ∈ fields, f.1 = name → f.2 = .null) {other : String}
    (apart : other ≠ name) : (gathered (fields.erase name)).get? other = (gathered fields).get? other := by
  rw [gathered, fragments_erase nulls]
  apply get?_addFragments_congr
  rw [Keyed.get?_filter (fields.erase name) fun name => !isFragmentClass name,
    Keyed.get?_filter fields fun name => !isFragmentClass name, Keyed.get?_erase, if_neg apart]

/-- No fragment belongs to a field other than those for fragments. -/
theorem ne_of_mem_fragments (noFragments : isFragmentField name = false) (fields : Fields) :
    ∀ f ∈ fragments fields, f.1 ≠ name := by
  rintro f member rfl
  rcases List.mem_flatMap.mp member with ⟨_, _, member⟩
  rcases List.mem_filterMap.mp member with ⟨_, _, made⟩
  rw [Document.Source.isFragmentField_of_fragment? made] at noFragments
  cases noFragments

/-- The fields of an item as they are brought to normal form: those of an individual with its fragments gathered. -/
def keptFields (kind : Option Kind) (fields : Fields) : Fields :=
  if kind.any Kind.isIndividual then gathered fields else fields

theorem sorted_keptFields {kind : Option Kind} {fields : Fields} (sorted : Keyed.Sorted fields) :
    Keyed.Sorted (keptFields kind fields) := by
  rw [keptFields]
  split
  · exact sorted_gathered sorted
  · exact sorted

/-- A null that is found somewhere is the only thing that is lost without it. -/
theorem fields_keptFields_erase {kind : Option Kind} {fields : Fields} (sorted : Keyed.Sorted fields)
    (null : fields.get? name = some .null) (noFragments : isFragmentField name = false) :
    Normal.fields options kind (keptFields kind (fields.erase name)) =
      Normal.fields options kind (keptFields kind fields) := by
  have nulls : ∀ f ∈ fields, f.1 = name → f.2 = .null := by
    rintro ⟨_, v⟩ member rfl
    exact Option.some.inj ((Keyed.get?_of_mem sorted.nodup member).symm.trans null)
  apply fields_congr (sorted_keptFields (sorted.erase name)) (sorted_keptFields sorted)
  intro other
  by_cases here : other = name
  · -- Under the name itself there is nothing on the left, and on the right null or, if it is a class, nothing.
    subst here
    have left : (keptFields kind (fields.erase other)).get? other = none := by
      rw [keptFields]
      split
      · refine (get?_addFragments_of_ne (ne_of_mem_fragments noFragments _) _).trans ?_
        rw [Keyed.get?_filter (fields.erase other) fun name => !isFragmentClass name, Keyed.get?_erase, if_pos rfl]
        split <;> rfl
      · rw [Keyed.get?_erase, if_pos rfl]
    have right : ((keptFields kind fields).get? other).bind (Normal.field? options kind other) = none := by
      rw [keptFields]
      split
      · rw [show (gathered fields).get? other = _ from
          get?_addFragments_of_ne (ne_of_mem_fragments noFragments _) _,
          Keyed.get?_filter fields fun name => !isFragmentClass name, null]
        split
        · exact field?_null noFragments
        · rfl
      · rw [null]
        exact field?_null noFragments
    rw [left, right]
    rfl
  · congr 1
    rw [keptFields, keptFields]
    split
    · exact get?_gathered_erase nulls here
    · rw [Keyed.get?_erase, if_neg here]

/-! ## Nulls in fields for fragments -/

/-- A walk that makes no array of what is none goes item by item. -/
theorem itemsOf_run {w : Walk} (scalar : ∀ v, w.scalar v = v)
    (object : ∀ fields, Normal.itemsOf (w.object fields) = [w.object fields]) (v : Json) :
    Normal.itemsOf (w.run v) = (Normal.itemsOf v).map w.run := by
  cases v with
  | array list =>
      rw [Walk.run_array]
      rfl
  | object fields =>
      rw [Walk.run_object]
      exact (object _).trans (congrArg (fun w => [w]) (Walk.run_object w fields).symm)
  | _ => simp [Walk.run, scalar, Normal.itemsOf]

theorem itemsOf_unwrapping (v : Json) :
    Normal.itemsOf (Normal.unwrapping.run v) = (Normal.itemsOf v).map Normal.unwrapping.run := by
  refine itemsOf_run (fun _ => rfl) (fun fields => ?_) v
  change Normal.itemsOf (Normal.unwrapped fields) = [Normal.unwrapped fields]
  rw [Normal.unwrapped.eq_def]
  split
  · split <;> rfl
  · rfl

/-- The number of items that stand under a name; nothing if there is no array. -/
def itemsUnder (name : String) (fields : Fields) : Option Nat :=
  ((fields.get? name).bind Json.items?).map List.length

theorem itemsUnder_fields {kind : Option Kind} {given : Fields} (sorted : Keyed.Sorted given)
    (isFragments : isFragmentField name = true) :
    itemsUnder name (Normal.fields options kind given) = (given.get? name).map fun v => (Normal.itemsOf v).length := by
  rw [itemsUnder, Normal.get?_fields_of_sorted sorted]
  cases given.get? name with
  | none => rfl
  | some v =>
      rw [Option.bind_some, field?_fragments isFragments, itemsOf_unwrapping]
      simp only [Option.bind_some, Json.items?, Option.map_some, List.length_map]

/-- Fragments are put behind what their field holds, whatever it is. -/
theorem itemsOf_addFragments {fields : Fields} {v : Json} (held : fields.get? name = some v)
    (added : List (String × Json)) :
    ∃ w, (addFragments fields added).get? name = some w ∧
      Normal.itemsOf w = Normal.itemsOf v ++ (added.filter fun f => f.1 == name).map (·.2) := by
  induction added generalizing fields v with
  | nil => exact ⟨v, held, (List.append_nil _).symm⟩
  | cons f rest ih =>
      by_cases here : f.1 = name
      · have step : ∃ u, (addFragment fields f.1 f.2).get? name = some u ∧
            Normal.itemsOf u = Normal.itemsOf v ++ [f.2] := by
          rw [addFragment, here, held]
          cases v with
          | array list => exact ⟨_, Keyed.get?_insert_self _ _ _, rfl⟩
          | _ => exact ⟨_, Keyed.get?_insert_self _ _ _, rfl⟩
        rcases step with ⟨u, put, items⟩
        rcases ih put with ⟨w, found, all⟩
        refine ⟨w, found, ?_⟩
        rw [all, items, List.filter_cons, if_pos (beq_iff_eq.mpr here), List.map_cons, List.append_assoc,
          List.singleton_append]
      · have kept : (addFragment fields f.1 f.2).get? name = some v := by
          rw [addFragment]
          split <;> exact (Keyed.get?_insert_ne _ _ (Ne.symm here)).trans held
        rcases ih kept with ⟨w, found, all⟩
        refine ⟨w, found, ?_⟩
        rw [all, List.filter_cons, if_neg fun same => here (beq_iff_eq.mp same)]

/-- With a null in it, a field for fragments has an item more. -/
theorem itemsUnder_keptFields_ne {kind : Option Kind} {fields : Fields} (sorted : Keyed.Sorted fields)
    (null : fields.get? name = some .null) (isFragments : isFragmentField name = true) :
    itemsUnder name (Normal.fields options kind (keptFields kind (fields.erase name))) ≠
      itemsUnder name (Normal.fields options kind (keptFields kind fields)) := by
  have nulls : ∀ f ∈ fields, f.1 = name → f.2 = .null := by
    rintro ⟨_, v⟩ member rfl
    exact Option.some.inj ((Keyed.get?_of_mem sorted.nodup member).symm.trans null)
  have stays : isFragmentClass name = false := by
    rw [isFragmentClass, isField_of_isFragmentField isFragments]
    rfl
  rw [itemsUnder_fields (sorted_keptFields (sorted.erase name)) isFragments,
    itemsUnder_fields (sorted_keptFields sorted) isFragments, keptFields, keptFields]
  split
  · have without : Keyed.get? ((fields.erase name).filter fun f => !isFragmentClass f.1) name =
        Writing.unlessEmpty id [] := by
      rw [Keyed.get?_filter (fields.erase name) fun name => !isFragmentClass name, stays, Keyed.get?_erase, if_pos rfl]
      rfl
    have held : Keyed.get? (fields.filter fun f => !isFragmentClass f.1) name = some .null := by
      rw [Keyed.get?_filter fields fun name => !isFragmentClass name, stays, null]
      rfl
    have left : (gathered (fields.erase name)).get? name = _ := get?_addFragments without (fragments (fields.erase name))
    rcases itemsOf_addFragments held (fragments fields) with ⟨w, right, items⟩
    rw [left, fragments_erase nulls, show (gathered fields).get? name = some w from right, Option.map_some, items,
      List.nil_append]
    cases ((fragments fields).filter fun f => f.1 == name).map (·.2) with
    | nil =>
        intro same
        cases same
    | cons f rest => simp [Writing.unlessEmpty, Normal.itemsOf]
  · rw [Keyed.get?_erase, if_pos rfl, null]
    intro same
    cases same

/-! ## Objects without a null -/

namespace WithoutNull

variable {given left : Fields}

theorem get?_given (dropped : WithoutNull name given left) : given.get? name = some .null := by
  cases found : given.get? name with
  | none => exact absurd (Keyed.mem_names_of_mem dropped.null) (Keyed.get?_eq_none_iff.mp found)
  | some v =>
      have only := dropped.alone _ (Keyed.mem_of_get? found) rfl
      rw [(Prod.mk.inj only).2]

theorem get?_ownFields (dropped : WithoutNull name given left) :
    (ownFields given).get? (ownName name) = some .null :=
  get?_ownFields_of_alone dropped.null dropped.alone

theorem ownFields_left (dropped : WithoutNull name given left) :
    ownFields left = (ownFields given).erase (ownName name) := by
  rw [dropped.left_eq]
  apply ownFields_erase
  intro other member same
  rcases List.mem_map.mp member with ⟨f, inGiven, rfl⟩
  rw [dropped.alone f inGiven same]

/-- Without a null the normal form of the fields is the same, unless the null stands in a field for fragments. -/
theorem fields_eq (dropped : WithoutNull name given left) (kind : Option Kind)
    (noFragments : isFragmentField (ownName name) = false) :
    Normal.fields options kind (keptFields kind (ownFields left)) =
      Normal.fields options kind (keptFields kind (ownFields given)) := by
  rw [dropped.ownFields_left]
  exact fields_keptFields_erase (sorted_ownFields given) dropped.get?_ownFields noFragments

theorem fields_ne (dropped : WithoutNull name given left) (kind : Option Kind)
    (isFragments : isFragmentField (ownName name) = true) :
    Normal.fields options kind (keptFields kind (ownFields left)) ≠
      Normal.fields options kind (keptFields kind (ownFields given)) := by
  rw [dropped.ownFields_left]
  intro same
  exact itemsUnder_keptFields_ne (sorted_ownFields given) dropped.get?_ownFields isFragments
    (congrArg (itemsUnder (ownName name)) same)

theorem kindOf?_eq (dropped : WithoutNull name given left) :
    kindOf? (ownFields left) = kindOf? (ownFields given) := by
  rw [dropped.ownFields_left, kindOf?, kindOf?, Keyed.get?_erase]
  split
  · rename_i here
    rw [here, dropped.get?_ownFields]
    rfl
  · rfl

end WithoutNull

/-! ## Items and documents without a null -/

theorem item_object (given : Fields) :
    item options (.object given) =
      .ofJson (.object (Normal.fields options (kindOf? (ownFields given))
        (keptFields (kindOf? (ownFields given)) (ownFields given)))) := by
  rw [item, toFields_eq_ownFields]
  rfl

theorem header_eq_fields (given : Fields) :
    header options given =
      Normal.fields options (some .package) (ownFields ((given.erase "@context").erase "@graph")) := by
  rw [header, toFields_eq_ownFields]

theorem WithoutNull.item_eq {given left : Fields} (dropped : WithoutNull name given left)
    (noFragments : isFragmentField (ownName name) = false) :
    item options (.object left) = item options (.object given) := by
  rw [item_object, item_object, dropped.kindOf?_eq, dropped.fields_eq _ noFragments]

theorem WithoutNull.item_ne {given left : Fields} (dropped : WithoutNull name given left)
    (isFragments : isFragmentField (ownName name) = true) :
    item options (.object left) ≠ item options (.object given) := by
  rw [item_object, item_object, dropped.kindOf?_eq]
  intro same
  exact dropped.fields_ne _ isFragments (Json.object.inj (congrArg DocumentItem.value same))

/-- What of the outermost object becomes the header. -/
abbrev besideGraph (root : Fields) : Fields := (root.erase "@context").erase "@graph"

/-- A null that stands beside the context and the graph is one of the header. -/
theorem WithoutNull.besideGraph {root left : Fields} (dropped : WithoutNull name root left)
    (notContext : name ≠ "@context") (notGraph : name ≠ "@graph") :
    WithoutNull name (besideGraph root) (besideGraph left) where
  null := by
    refine List.mem_filter.mpr ⟨List.mem_filter.mpr ⟨dropped.null, ?_⟩, ?_⟩
    · exact bne_iff_ne.mpr notContext
    · exact bne_iff_ne.mpr notGraph
  alone f member := dropped.alone f (List.mem_of_mem_filter (List.mem_of_mem_filter member))
  left_eq := by
    have moved : ((root.erase name).erase "@context").erase "@graph" =
        ((root.erase "@context").erase "@graph").erase name := by
      rw [Keyed.erase_comm root, Keyed.erase_comm (root.erase "@context")]
    rw [dropped.left_eq]
    exact moved

/-- A null in the place of the context or the graph belongs to no field. -/
theorem besideGraph_erase {root : Fields} (outside : name = "@context" ∨ name = "@graph") :
    besideGraph (root.erase name) = besideGraph root := by
  rcases outside with rfl | rfl
  · rw [besideGraph, Keyed.erase_erase]
  · rw [besideGraph, Keyed.erase_comm root, Keyed.erase_erase]

theorem besideGraph_insert (root : Fields) (v : Json) : besideGraph (root.insert "@graph" v) = besideGraph root := by
  rw [besideGraph, Keyed.erase_comm, Keyed.erase_insert_self, Keyed.erase_comm]

/-- The parts of a document that is read. -/
theorem read_of_ofText? {text : String} {root : Fields} (parsed : Json.ofText? text = some (.object root)) :
    read options text = (graph (root.get? "@graph")).map fun list =>
      ⟨namespaces (root.get? "@context"), header options root, list.map (item options)⟩ := by
  rw [read, parsed]

/-- The context and the graph are the same without a null in the outermost object. -/
theorem WithoutNull.outermost_eq {root left : Fields} (dropped : WithoutNull name root left) :
    graph (left.get? "@graph") = graph (root.get? "@graph") ∧
      namespaces (left.get? "@context") = namespaces (root.get? "@context") := by
  rw [dropped.left_eq, Keyed.get?_erase, Keyed.get?_erase]
  constructor
  · split
    · rename_i here
      rw [here, dropped.get?_given]
      rfl
    · rfl
  · split
    · rename_i here
      rw [here, dropped.get?_given]
      rfl
    · rfl

theorem WithoutNull.header_eq {root left : Fields} (dropped : WithoutNull name root left)
    (noFragments : isFragmentField (ownName name) = false) : header options left = header options root := by
  rw [header_eq_fields, header_eq_fields]
  by_cases outside : name = "@context" ∨ name = "@graph"
  · rw [dropped.left_eq]
    exact congrArg (fun fields => Normal.fields options (some .package) (ownFields fields)) (besideGraph_erase outside)
  · rw [not_or] at outside
    exact (dropped.besideGraph outside.1 outside.2).fields_eq (some .package) noFragments

theorem WithoutNull.header_ne {root left : Fields} (dropped : WithoutNull name root left)
    (isFragments : isFragmentField (ownName name) = true) : header options left ≠ header options root := by
  have notContext : name ≠ "@context" := by
    rintro rfl
    exact absurd isFragments (by decide)
  have notGraph : name ≠ "@graph" := by
    rintro rfl
    exact absurd isFragments (by decide)
  rw [header_eq_fields, header_eq_fields]
  exact (dropped.besideGraph notContext notGraph).fields_ne (some .package) isFragments

/-- A graph with an item in it. -/
theorem read_of_graph {text : String} {root : Fields} {list : List Json}
    (parsed : Json.ofText? text = some (.object root)) (held : graph (root.get? "@graph") = .ok list) :
    read options text =
      .ok ⟨namespaces (root.get? "@context"), header options root, list.map (item options)⟩ :=
  read_eq_ok.mpr ⟨root, list, parsed, held, rfl⟩

/-- Only the graph is another one where it was put in the place of the one before. -/
theorem read_of_graph_inserted {text : String} {root : Fields} {v : Json} {list : List Json}
    (parsed : Json.ofText? text = some (.object (root.insert "@graph" v))) (held : graph (some v) = .ok list) :
    read options text =
      .ok ⟨namespaces (root.get? "@context"), header options root, list.map (item options)⟩ := by
  have context : (root.insert "@graph" v).get? "@context" = root.get? "@context" :=
    Keyed.get?_insert_ne root v (by decide)
  have sameHeader : header options (root.insert "@graph" v) = header options root := by
    rw [header_eq_fields, header_eq_fields]
    exact congrArg (fun fields => Normal.fields options (some .package) (ownFields fields)) (besideGraph_insert root v)
  have graph_eq : (root.insert "@graph" v).get? "@graph" = some v := Keyed.get?_insert_self root "@graph" v
  rw [read_of_graph parsed (graph_eq ▸ held), context, sameHeader]

/-- A document reads the same without a null, unless the null stands in a field for fragments; then it reads
otherwise. -/
theorem read_without_null (options : ReadingOptions) {text leftText : String} {root left : Fields}
    (parsed : Json.ofText? text = some (.object root)) (parsedLeft : Json.ofText? leftText = some (.object left))
    (dropped : DropsNull name root left) :
    (isFragmentField (ownName name) = false → read options leftText = read options text) ∧
      (isFragmentField (ownName name) = true →
        ∀ document, read options text = .ok document → read options leftText ≠ .ok document) := by
  cases dropped with
  | header dropped =>
      have outermost := dropped.outermost_eq
      rw [read_of_ofText? parsed, read_of_ofText? parsedLeft, outermost.1, outermost.2]
      constructor
      · intro noFragments
        rw [dropped.header_eq noFragments]
      · intro isFragments document made same
        rcases Outcome.map_eq_ok.mp made with ⟨list, _, rfl⟩
        rcases Outcome.map_eq_ok.mp same with ⟨others, _, same⟩
        exact dropped.header_ne isFragments (congrArg Document.header same)
  | @item before after given left held dropped =>
      have graph_eq : graph (root.get? "@graph") = .ok (before ++ .object given :: after) := by rw [held]; rfl
      rw [read_of_graph parsed graph_eq, read_of_graph_inserted parsedLeft rfl]
      simp only [List.map_append, List.map_cons]
      constructor
      · intro noFragments
        rw [dropped.item_eq noFragments]
      · intro isFragments document made same
        have items := congrArg Document.items (Except.ok.inj (same.trans made.symm))
        exact dropped.item_ne isFragments (List.cons.inj (List.append_cancel_left items)).1
  | @onlyItem given left held dropped =>
      have graph_eq : graph (root.get? "@graph") = .ok [.object given] := by rw [held]; rfl
      rw [read_of_graph parsed graph_eq, read_of_graph_inserted parsedLeft rfl]
      simp only [List.map_cons, List.map_nil]
      constructor
      · intro noFragments
        rw [dropped.item_eq noFragments]
      · intro isFragments document made same
        have items := congrArg Document.items (Except.ok.inj (same.trans made.symm))
        exact dropped.item_ne isFragments (List.cons.inj items).1

/-! ## Valves -/

/-- The fields of a valve, with a null under one more name. -/
def valve (name : String) : Fields :=
  [("@id", .string "d:valve"), (name, .null), ("pig:itemType", .object [("@id", .string "pig:anEntity")])]

/-- The outermost object of a document with one item. -/
def rootOf (fields : Fields) : Fields := [("@graph", .object fields)]

theorem dropsNull_valve (other : ∀ known ∈ ["@id", "pig:itemType"], ownName known ≠ ownName name) :
    DropsNull name (rootOf (valve name)) (rootOf ((valve name).erase name)) := by
  have dropped : WithoutNull name (valve name) ((valve name).erase name) := by
    refine ⟨List.mem_cons_of_mem _ List.mem_cons_self, fun f member same => ?_, rfl⟩
    simp only [valve, List.mem_cons, List.not_mem_nil, or_false] at member
    rcases member with rfl | rfl | rfl
    · exact absurd same (other "@id" List.mem_cons_self)
    · rfl
    · exact absurd same (other "pig:itemType" (List.mem_cons_of_mem _ List.mem_cons_self))
  have put : (rootOf (valve name)).insert "@graph" (.object ((valve name).erase name)) =
      rootOf ((valve name).erase name) := by
    simp [rootOf, Keyed.insert]
  exact put ▸ .onlyItem rfl dropped

/-- A document with one item of nulls, texts and references has a text. -/
theorem ofText?_rootOf {fields : Fields} (sorted : Keyed.Sorted fields)
    (held : ∀ f ∈ fields, f.2 = .null ∨ (∃ s, f.2 = .string s) ∨ ∃ s, f.2 = .object [("@id", .string s)]) :
    Json.ofText? (Json.object (rootOf fields)).pretty = some (.object (rootOf fields)) := by
  have single : ∀ (depth : Nat) (name : String) (v : Json), Json.Legible depth v →
      Json.Legible (depth + 1) (.object [(name, v)]) := by
    intro depth name v legible
    have alone : Keyed.Sorted [(name, v)] := List.pairwise_singleton _ _
    refine .object alone fun f member => ?_
    cases List.mem_singleton.mp member
    exact legible
  have legible : Json.Legible 2 (.object fields) := by
    refine .object sorted fun f member => ?_
    rcases held f member with is | ⟨s, is⟩ | ⟨s, is⟩
    · exact is ▸ .null
    · exact is ▸ .string s
    · exact is ▸ single 0 "@id" _ (.string s)
  exact Json.ofText?_pretty ((single 2 "@graph" _ legible).mono (by decide))

theorem ofText?_valve (sorted : Keyed.Sorted (valve name)) :
    Json.ofText? (Json.object (rootOf (valve name))).pretty = some (.object (rootOf (valve name))) ∧
      Json.ofText? (Json.object (rootOf ((valve name).erase name))).pretty =
        some (.object (rootOf ((valve name).erase name))) := by
  have held : ∀ f ∈ valve name,
      f.2 = .null ∨ (∃ s, f.2 = .string s) ∨ ∃ s, f.2 = .object [("@id", .string s)] := by
    simp [valve]
  exact ⟨ofText?_rootOf sorted held, ofText?_rootOf (sorted.erase name) fun f member =>
    held f (List.mem_of_mem_filter member)⟩

/-- A null under a class is not missed. -/
theorem read_without_null_valve :
    ∃ text leftText document, Json.ofText? text = some (.object (rootOf (valve "o:colour"))) ∧
      Json.ofText? leftText = some (.object (rootOf ((valve "o:colour").erase "o:colour"))) ∧
      DropsNull "o:colour" (rootOf (valve "o:colour")) (rootOf ((valve "o:colour").erase "o:colour")) ∧
      isFragmentField (ownName "o:colour") = false ∧ document.items.map (·.id?) = [some "d:valve"] ∧
      read .standard text = .ok document ∧ read .standard leftText = .ok document := by
  have sorted : (Keyed.names (valve "o:colour")).Pairwise (· < ·) := by decide
  rcases ofText?_valve sorted with ⟨parsed, parsedLeft⟩
  have drops : DropsNull "o:colour" _ _ := dropsNull_valve (by decide)
  have graph_eq : graph ((rootOf (valve "o:colour")).get? "@graph") = .ok [.object (valve "o:colour")] := rfl
  have reads : read .standard (Json.object (rootOf (valve "o:colour"))).pretty = _ := read_of_graph parsed graph_eq
  have same := (read_without_null .standard parsed parsedLeft drops).1 (by decide)
  exact ⟨_, _, _, parsed, parsedLeft, drops, by decide, by decide +kernel, reads, same.trans reads⟩

/-- A null in a field for fragments becomes a fragment. -/
theorem exists_null_fragment :
    ∃ text leftText document leftDocument,
      (∃ root left, Json.ofText? text = some (.object root) ∧ Json.ofText? leftText = some (.object left) ∧
        DropsNull "pig:hasProperty" root left) ∧
      read .standard text = .ok document ∧ read .standard leftText = .ok leftDocument ∧
      document.items.map (fun item => (item.value.field? "hasProperty").bind Json.items?) = [some [.null]] ∧
      leftDocument.items.map (fun item => (item.value.field? "hasProperty").bind Json.items?) = [none] := by
  have sorted : (Keyed.names (valve "pig:hasProperty")).Pairwise (· < ·) := by decide
  rcases ofText?_valve sorted with ⟨parsed, parsedLeft⟩
  have drops : DropsNull "pig:hasProperty" _ _ := dropsNull_valve (by decide)
  exact ⟨_, _, _, _, ⟨_, _, parsed, parsedLeft, drops⟩, read_of_graph parsed rfl, read_of_graph parsedLeft rfl, rfl, rfl⟩

end JsonLd
end ProductGraph
