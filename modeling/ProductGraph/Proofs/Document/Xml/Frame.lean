import ProductGraph.Proofs.Document.Xml.Parts

namespace ProductGraph
namespace Xml

/-!
# Fields that a part leaves alone

An element of markup is read attribute by attribute and child by child, whatever they are, and each puts a value into
the fields that it stands for.  Every other field is left as it was.  Nothing is asked here of the names or of how often
they occur, so this holds of any markup and not only of what was written for a content.
-/

open Markup (Element)

/-- Fields that came of others while the field of a name was left alone. -/
structure Kept (name : String) (before after : Fields) : Prop where
  sorted : Keyed.Sorted before → Keyed.Sorted after
  same : after.get? name = before.get? name

namespace Kept

variable {name : String} {before middle after : Fields}

theorem refl (fields : Fields) : Kept name fields fields := ⟨id, rfl⟩

theorem trans (first : Kept name before middle) (second : Kept name middle after) : Kept name before after :=
  ⟨fun sorted => second.sorted (first.sorted sorted), second.same.trans first.same⟩

theorem insert (fields : Fields) {field : String} (other : field ≠ name) (v : Json) :
    Kept name fields (fields.insert field v) :=
  ⟨fun sorted => sorted.insert field v, Keyed.get?_insert_ne fields v (Ne.symm other)⟩

/-- Steps that each leave a field alone leave it alone together. -/
theorem foldl {α : Type} {step : Fields → α → Fields} {list : List α}
    (each : ∀ a ∈ list, ∀ fields, Kept name fields (step fields a)) (fields : Fields) :
    Kept name fields (list.foldl step fields) := by
  induction list generalizing fields with
  | nil => exact refl fields
  | cons a rest ih =>
      have first := each a List.mem_cons_self fields
      exact first.trans (ih (fun b later => each b (List.mem_cons_of_mem _ later)) _)

theorem insertAll {added : List (String × Json)} (others : ∀ e ∈ added, e.1 ≠ name) (fields : Fields) :
    Kept name fields (Keyed.insertAll fields added) :=
  foldl (fun e member fields => insert fields (others e member) e.2) fields

end Kept

variable {name : String} {kind : Option Kind} {e : Element}

/-! ## Attributes and children -/

theorem kept_withAttributes (apart : ∀ a ∈ e.attributes, fieldOf a.1 ≠ name) (fields : Fields) :
    Kept name fields (withAttributes fields e) := by
  refine .insertAll (fun added member => ?_) fields
  rcases List.mem_map.mp member with ⟨a, inFields, rfl⟩
  exact apart a (List.mem_of_mem_filter inFields)

theorem kept_append {field : String} (other : field ≠ name) (fields : Fields) (v : Json) :
    Kept name fields (append fields field v) := by
  rw [append]
  split <;> exact .insert fields other _

theorem kept_appendToList {field : String} (other : field ≠ name) (fields : Fields) (v : Option Json) :
    Kept name fields (appendToList fields field v) := by
  rw [appendToList]
  split
  · exact .insert fields other _
  · exact .refl fields

/-- A child element changes the field that it stands for and no other. -/
theorem kept_withChild (other : fieldOf e.name ≠ name) (fields : Fields) : Kept name fields (withChild kind fields e) := by
  rw [withChild]
  split
  · exact kept_appendToList other fields _
  · split
    · exact kept_appendToList other fields _
    · split
      · exact kept_append other fields _
      · exact .refl fields

/-! ## Restrictions -/

theorem kept_withValueOf {source field : String} (other : field ≠ name) (fields : Fields) :
    Kept name fields (withValueOf source field e fields) := by
  rw [withValueOf]
  split
  · exact .insert fields other _
  · exact .refl fields

/-- What holds a restriction changes the fields of restrictions only. -/
theorem kept_withType (apart : name ∉ restrictionFields) (fields : Fields) : Kept name fields (withType fields e) := by
  have other : ∀ field ∈ restrictionFields, field ≠ name := fun field member same => apart (same ▸ member)
  have occurrences : ∀ (e : Element) (fields : Fields), Kept name fields (withOccurrences fields e) := by
    intro e fields
    exact (kept_withValueOf (other "minCount" (by decide)) fields).trans
      (kept_withValueOf (other "maxCount" (by decide)) _)
  have facet : ∀ (e : Element) (fields : Fields), Kept name fields (withFacet fields e) := by
    intro e fields
    rw [withFacet]
    split
    · rename_i f found
      have known := List.mem_map_of_mem (f := Prod.snd) (List.mem_of_find?_eq_some found)
      exact .insert fields (other _ (List.mem_append_right _ known)) _
    · exact .refl fields
  have restriction : ∀ (e : Element) (fields : Fields), Kept name fields (withRestriction fields e) := by
    intro e fields
    rw [withRestriction]
    split
    · have base : Kept name fields (withValueOf "base" "datatype" e fields) :=
        kept_withValueOf (other "datatype" (by decide)) fields
      exact (base.trans (occurrences e _)).trans (.foldl (fun child _ => facet child) _)
    · exact .refl fields
  exact (occurrences e fields).trans (.foldl (fun child _ => restriction child) _)

/-! ## Items -/

theorem kept_withText (other : name ≠ "value") (fields : Fields) : Kept name fields (withText e fields) := by
  rw [withText]
  split
  · exact .insert fields (Ne.symm other) _
  · exact .refl fields

/-- Whether a field is filled from inside an item only by children that stand for it: it is neither part of a
restriction nor one for fragments. -/
def IsOrdinary (name : String) : Prop := name ∉ restrictionFields ∧ name ∉ Vocabulary.fragmentFields.map (·.1)

instance : DecidablePred IsOrdinary := fun _ => inferInstanceAs (Decidable (_ ∧ _))

theorem kept_withPart (ordinary : IsOrdinary name) (other : fieldOf e.name ≠ name) (fields : Fields) :
    Kept name fields (withPart kind fields e) := by
  rw [withPart]
  split
  · exact kept_withType ordinary.1 fields
  · split
    · rename_i field found
      rcases Option.map_eq_some_iff.mp found with ⟨f, isFragment, rfl⟩
      have apart : f.1 ≠ name := by
        rintro rfl
        exact ordinary.2 (List.mem_map_of_mem (List.mem_of_find?_eq_some isFragment))
      split <;> exact .insert fields apart _
    · exact kept_withChild other fields

/-- The children of an item change the fields that they stand for and those of restrictions and fragments. -/
theorem kept_children (ordinary : IsOrdinary name) (apart : ∀ child ∈ e.children, fieldOf child.name ≠ name)
    (fields : Fields) : Kept name fields (e.children.foldl (withPart kind) fields) :=
  .foldl (fun child member => kept_withPart ordinary (apart child member)) fields

/-- A name of markup that stands for no field in the vocabulary stands for itself only. -/
theorem eq_of_fieldOf_eq {s : String} (unnamed : ∀ t ∈ Vocabulary.terms, t.field = name → t.markup.name? = none)
    (stands : fieldOf s = name) : s = name := by
  rw [fieldOf, Vocabulary.fieldOfMarkup?] at stands
  cases found : Vocabulary.terms.find? fun t => t.markup.name? == some s with
  | none => rwa [found] at stands
  | some t =>
      rw [found] at stands
      have named := List.find?_some found
      rw [unnamed t (List.mem_of_find?_eq_some found) stands] at named
      cases named

end Xml
end ProductGraph
