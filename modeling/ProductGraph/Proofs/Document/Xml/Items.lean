import ProductGraph.Proofs.Document.Settled
import ProductGraph.Proofs.Document.Xml.Parts
import ProductGraph.Proofs.Document.Xml.Values

namespace ProductGraph
namespace Xml

/-!
# Items of markup read back

The element of an item has the kind as its name and the fields of the item in its attributes and inside it.  Together
they are all the fields there are, so the element is read as the item that was written.
-/

open Markup (Element Token ReadAs IsPlainName standing)

/-! ## What is inside an element -/

/-- Fields that are written inside the element of an item, beside the text of a property value. -/
def contentFields : List String :=
  childFields.map (·.1) ++ restrictionFields ++ Vocabulary.fragmentFields.map (·.1)

theorem readsChildren_withPart (kind : Kind) : ReadsChildren kind (withPart (some kind)) := by
  have apart : ∀ term ∈ childFields,
      (term.2 == typeElement) = false ∧ Vocabulary.fragmentField? term.2 = none := by decide
  rintro fields e ⟨field, member⟩
  rcases apart _ member with ⟨notType, noFragment⟩
  dsimp only at notType noFragment
  simp only [withPart, notType, noFragment, Bool.false_eq_true, if_false]

theorem Tells.weaken {read : Fields → Element → Fields} {expected wider : String → Prop}
    {target : String → Option Json} {names : List String} {tokens : List Token}
    (tells : Tells read expected target names tokens) (wide : ∀ name, expected name → wider name) :
    Tells read wider target names tokens := by
  rcases tells with ⟨elements, reads, fit, fills⟩
  exact ⟨elements, reads, fun e member => wide _ (fit e member), fills⟩

section Content

variable {kind : Kind} {fields : Fields}

theorem tells_content (presents : Presents kind fields) :
    Tells (withPart (some kind)) (fun _ => True) (target fields) contentFields
      (children fields ++ restriction fields ++ fragments fields) :=
  (((tells_children presents (readsChildren_withPart kind)).weaken fun _ _ => trivial).append
    (tells_restriction presents _) (by decide)).append (tells_fragments presents _) (by decide)

/-- Without any of these fields nothing is written. -/
theorem content_eq_nil (absent : ∀ name ∈ contentFields, fields.get? name = none) :
    children fields ++ restriction fields ++ fragments fields = [] := by
  have noContent : ∀ name ∈ contentFields, fields.has name = false := by
    intro name member
    rw [Keyed.has, absent name member]
    rfl
  have inside : (∀ term ∈ childFields, term.1 ∈ contentFields) ∧
      (∀ name ∈ ["datatype", "minCount", "maxCount"], name ∈ contentFields) ∧
      (∀ f ∈ facets, f.2 ∈ contentFields) ∧ ∀ f ∈ Vocabulary.fragmentFields, f.1 ∈ contentFields := by decide
  rcases inside with ⟨ofChild, ofBound, ofFacet, ofFragment⟩
  have noChildren : children fields = [] := by
    rw [children_eq, List.flatMap_eq_nil_iff]
    intro term member
    exact childTokens_none (absent _ (ofChild term member)) _
  have noRestriction : restriction fields = [] := by
    refine restriction_eq_nil (Bool.or_eq_false_iff.mpr ⟨?_, ?_⟩)
    · exact List.any_eq_false.mpr fun f member => Bool.not_eq_true _ ▸ noContent _ (ofFacet f member)
    · exact List.any_eq_false.mpr fun name member => Bool.not_eq_true _ ▸ noContent _ (ofBound name member)
  have noFragments : fragments fields = [] := by
    rw [fragments, List.flatMap_eq_nil_iff]
    intro f member
    dsimp only
    rw [absent _ (ofFragment f member)]
    rfl
  rw [noChildren, noRestriction, noFragments]
  rfl

/-! ## The element of an item -/

theorem isInside_of_mem_contentFields {name : String} (member : name ∈ "value" :: contentFields) :
    isInside name = true := by
  have all : ∀ name ∈ "value" :: contentFields, isInside name = true := by decide
  exact all name member

theorem get?_of_not_isInside (outside : (Keyed.names fields).any isInside = false) {name : String}
    (member : name ∈ "value" :: contentFields) : fields.get? name = none := by
  have absent : name ∉ Keyed.names fields := by
    intro there
    have notInside := List.any_eq_false.mp outside name there
    exact notInside (isInside_of_mem_contentFields member)
  exact Keyed.get?_eq_none_iff.mpr absent

/-- A field of no shape is not there. -/
theorem get?_of_unshaped (presents : Presents kind fields) {name : String} (unshaped : kind.shapes.get? name = none) :
    fields.get? name = none := by
  cases found : fields.get? name with
  | none => rfl
  | some v =>
      rcases presents.written _ (Keyed.mem_of_get? found) with ⟨shape, named, _⟩
      rw [unshaped] at named
      cases named

theorem notProperty_of_unvalued (valued : kind = .propertyValue → ∃ s, fields.get? "value" = some (.string s))
    (absent : fields.get? "value" = none) : kind ≠ .propertyValue := by
  intro isProperty
  rcases valued isProperty with ⟨s, value⟩
  rw [absent] at value
  cases value

/-- The text of an element is a field of property values only. -/
theorem withText_eq {e : Element} (named : e.name = kind.tag) (other : kind ≠ .propertyValue) (before : Fields) :
    withText e before = before := by
  have apart : (kind.tag == Kind.propertyValue.tag) = false := by
    cases kind <;> first | exact absurd rfl other | rfl
  rw [withText, named, apart]
  exact if_neg Bool.false_ne_true

/-- What an element carries beside its attributes: its text, which is a field of property values, and its children. -/
def inner (kind : Kind) (e : Element) (before : Fields) : Fields :=
  e.children.foldl (withPart (some kind)) (withText e before)

theorem isPlainName_tag (kind : Kind) : IsPlainName kind.tag := by
  cases kind <;> decide

theorem isRichElement_tag (kind : Kind) : Vocabulary.isRichElement kind.tag = false := by
  cases kind <;> decide

/-- Property values have nothing inside them but their text. -/
theorem content_propertyValue (absent : ∀ name ∈ contentFields, fields.get? name = none) {s : String}
    (value : fields.get? "value" = some (.string s)) : content Kind.propertyValue.tag fields = [.plain s] := by
  have text : textOf? fields "value" = some s := by
    rw [textOf?, value]
    rfl
  rw [content, text, List.append_assoc, List.append_assoc, ← List.append_assoc (children fields),
    content_eq_nil absent]
  rfl

theorem content_of_ne (other : kind ≠ .propertyValue) :
    content kind.tag fields = children fields ++ restriction fields ++ fragments fields := by
  have noText : (kind.tag == Kind.propertyValue.tag) = false := by
    cases kind <;> first | exact absurd rfl other | rfl
  rw [content, noText, if_neg Bool.false_ne_true, List.nil_append]

/-- A property value with a value is written as an element with this text, which it has instead of children. -/
theorem exists_textElement (presents : Presents .propertyValue fields) {s : String}
    (value : fields.get? "value" = some (.string s)) :
    ∃ e, ReadAs Vocabulary.isRichElement (.opening Kind.propertyValue.tag (attributes fields) ::
        (content Kind.propertyValue.tag fields ++ [.closing Kind.propertyValue.tag])) [e] ∧
      e.name = Kind.propertyValue.tag ∧ e.attributes = attributes fields ∧
      Fills (target fields) ("value" :: contentFields) (inner .propertyValue e) := by
  have unshaped : ∀ name ∈ contentFields, Kind.propertyValue.shapes.get? name = none := by decide
  have absent : ∀ name ∈ contentFields, fields.get? name = none :=
    fun name member => get?_of_unshaped presents (unshaped name member)
  have wanted : target fields "value" = some (.string (standing s)) := target_of_found value
  have rest := Fills.nothing fun name member => target_of_get? (absent name member)
  refine ⟨.mk Kind.propertyValue.tag (attributes fields) [] (standing s), ?_, rfl, rfl,
    rest.comp (fills_insert wanted) (by decide)⟩
  rw [content_propertyValue absent value]
  exact readAs_textElement (isPlainName_tag _) (attributesPlain_attributes fields) (isRichElement_tag _) s

/-- An item of any other kind is written as an element with children. -/
theorem exists_nestedElement (presents : Presents kind fields) (other : kind ≠ .propertyValue) :
    ∃ e, ReadAs Vocabulary.isRichElement
        (.opening kind.tag (attributes fields) :: (content kind.tag fields ++ [.closing kind.tag])) [e] ∧
      e.name = kind.tag ∧ e.attributes = attributes fields ∧
      Fills (target fields) ("value" :: contentFields) (inner kind e) := by
  have unshaped : kind.shapes.get? "value" = none := by
    cases kind <;> first | exact absurd rfl other | rfl
  have noValue : ∀ name ∈ ["value"], target fields name = none :=
    List.forall_mem_singleton.mpr (target_of_get? (get?_of_unshaped presents unshaped))
  rcases tells_content presents with ⟨elements, reads, _, fills⟩
  refine ⟨.mk kind.tag (attributes fields) elements "", ?_, rfl, rfl, ?_⟩
  · rw [content_of_ne other]
    exact .nested (isPlainName_tag _) (attributesPlain_attributes fields) (isRichElement_tag _) reads
  · refine (fills.comp (Fills.nothing noValue) (by decide)).congr fun before _ => ?_
    rw [inner, withText_eq rfl other]
    rfl

/-- How an item is written: as a single tag if nothing is inside it. -/
theorem itemTokens_eq (itemType : fields.get? "itemType" = some (.string kind.tag)) :
    itemTokens (.object fields) = .ok (if (Keyed.names fields).any isInside then
        .opening kind.tag (attributes fields) :: (content kind.tag fields ++ [.closing kind.tag])
      else [.single kind.tag (attributes fields)]) := by
  have typed : (Json.object fields).textField? "itemType" = some kind.tag := by
    have found : (Json.object fields).field? "itemType" = some (.string kind.tag) := itemType
    rw [Json.textField?, found]
    rfl
  simp only [itemTokens, typed]
  split <;> rfl

/-- An item is written as one element, which carries the fields that are written inside it. -/
theorem exists_element (presents : Presents kind fields) (itemType : fields.get? "itemType" = some (.string kind.tag))
    (valued : kind = .propertyValue → ∃ s, fields.get? "value" = some (.string s)) :
    ∃ tokens e, itemTokens (.object fields) = .ok tokens ∧ ReadAs Vocabulary.isRichElement tokens [e] ∧
      e.name = kind.tag ∧ e.attributes = attributes fields ∧
      Fills (target fields) ("value" :: contentFields) (inner kind e) := by
  rw [itemTokens_eq itemType]
  by_cases inside : (Keyed.names fields).any isInside = true
  · rw [if_pos inside]
    by_cases isProperty : kind = .propertyValue
    · subst isProperty
      rcases valued rfl with ⟨s, value⟩
      rcases exists_textElement presents value with ⟨e, carries⟩
      exact ⟨_, e, rfl, carries⟩
    · rcases exists_nestedElement presents isProperty with ⟨e, carries⟩
      exact ⟨_, e, rfl, carries⟩
  · rw [if_neg inside]
    have absent : ∀ name ∈ "value" :: contentFields, fields.get? name = none :=
      fun name member => get?_of_not_isInside (Bool.not_eq_true _ ▸ inside) member
    have other := notProperty_of_unvalued valued (absent "value" List.mem_cons_self)
    refine ⟨_, .mk kind.tag (attributes fields) [] "", rfl,
      .single (isPlainName_tag _) (attributesPlain_attributes fields), rfl, rfl, ?_⟩
    refine (Fills.nothing fun name member => target_of_get? (absent name member)).congr fun before _ => ?_
    exact withText_eq rfl other before

/-! ## The item of an element -/

/-- Fields that were filled in from all that tells them are what is to be read. -/
theorem get?_of_fills {names : List String} {change : Fields → Fields} (fills : Fills (target fields) names change)
    {before : Fields} (sorted : Keyed.Sorted before) (free : ∀ name ∈ names, before.get? name = none)
    (rest : ∀ name, name ∉ names → before.get? name = target fields name) :
    Keyed.Sorted (change before) ∧ ∀ name, (change before).get? name = target fields name := by
  rcases fills before sorted free with ⟨sortedThen, found⟩
  refine ⟨sortedThen, fun name => (found name).trans ?_⟩
  by_cases member : name ∈ names
  · rw [if_pos member]
  · rw [if_neg member, rest name member]

/-- What markup made of fields is read as these fields if it is for each. -/
theorem fields_of_target {options : ReadingOptions} (sorted : Keyed.Sorted fields) {read : Fields}
    (sortedRead : Keyed.Sorted read) (found : ∀ name, read.get? name = target fields name)
    (same : ∀ f ∈ fields, (heard f.1 f.2).bind (Normal.field? options (some kind) f.1) = some f.2) :
    Normal.fields options (some kind) read = fields := by
  apply (sortedRead.filterMap fun f => Normal.field? options (some kind) f.1 f.2).ext sorted
  intro name
  refine (Normal.get?_fields_of_sorted sortedRead name).trans ?_
  rw [found, target]
  cases there : fields.get? name with
  | none => rfl
  | some v => exact same _ (Keyed.mem_of_get? there)

/-- Attributes, text and children tell every field of an item except for its kind. -/
theorem mem_of_get?_shapes {name : String} {shape : Shape} (named : kind.shapes.get? name = some shape)
    (notKind : name ≠ "itemType") : name ∈ attributeFields.map (·.1) ++ "value" :: contentFields := by
  have all : ∀ kind ∈ Kind.all, ∀ s ∈ kind.shapes,
      s.1 ≠ "itemType" → s.1 ∈ attributeFields.map (·.1) ++ "value" :: contentFields := by decide
  exact all kind kind.mem_all _ (Keyed.mem_of_get? named) notKind

/-- An element with the attributes of an item that carries the rest of it is read as an item with what is to be read
under each name. -/
theorem itemOfElement_eq (options : ReadingOptions) (presents : Presents kind fields)
    (itemType : fields.get? "itemType" = some (.string kind.tag)) {e : Element} (named : e.name = kind.tag)
    (attributesAre : e.attributes = attributes fields)
    (fills : Fills (target fields) ("value" :: contentFields) (inner kind e)) :
    ∃ read, Keyed.Sorted read ∧ (∀ name, read.get? name = target fields name) ∧
      itemOfElement options e = .ofJson (.object (Normal.fields options (some kind) read)) := by
  let before : Fields := [("itemType", .string kind.tag)]
  have sorted : Keyed.Sorted before := List.pairwise_singleton _ _
  have all := fills.comp (fills_attributes presents (List.forall_mem_nil _) attributesAre) (by decide)
  have apart : "itemType" ∉ attributeFields.map (·.1) ++ "value" :: contentFields := by decide
  have free : ∀ name ∈ attributeFields.map (·.1) ++ "value" :: contentFields, before.get? name = none :=
    fun name member => Keyed.get?_singleton_of_ne (ne_of_mem_of_not_mem member apart) _
  have rest : ∀ name, name ∉ attributeFields.map (·.1) ++ "value" :: contentFields →
      before.get? name = target fields name := by
    intro name outside
    by_cases isKind : name = "itemType"
    · rw [isKind, target, itemType]
      rfl
    · have absent : before.get? name = none := Keyed.get?_singleton_of_ne isKind _
      have unshaped : kind.shapes.get? name = none := by
        cases shaped : kind.shapes.get? name with
        | none => rfl
        | some shape => exact absurd (mem_of_get?_shapes shaped isKind) outside
      rw [absent, target_of_get? (get?_of_unshaped presents unshaped)]
  rcases get?_of_fills all sorted free rest with ⟨sortedRead, found⟩
  have ofName : Kind.ofTag? e.name = some kind := by rw [named, Kind.ofTag?_tag]
  refine ⟨_, sortedRead, found, ?_⟩
  rw [itemOfElement, ofName, named]
  rfl

end Content

end Xml
end ProductGraph
