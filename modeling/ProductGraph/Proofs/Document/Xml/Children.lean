import ProductGraph.Proofs.Document.Xml.Filling
import ProductGraph.Proofs.Markup.Embedding

namespace ProductGraph
namespace Xml

/-!
# Child elements of single fields

A field that markup carries as a child element is read from the elements that it is written as.  A list is collected
from one element for each of its items, an empty list from an element without content, a single value from a single
element.

Numbers are written as texts, and so is the count that stands for no bound.  A text of nothing but blanks is taken for
layout, so an element without content is read in its place: a title or a property value is empty then, and any other
text is not there.  Every other value is read as it was.
-/

open Markup (Element Token ReadAs Stands EndsAt IsPlainName AttributesPlain standing)

/-- A text with a character that is no blank. -/
def Visible (s : String) : Prop := s.toList.all Unicode.isBlank = false

instance (s : String) : Decidable (Visible s) := inferInstanceAs (Decidable (_ = _))

theorem Visible.stands {s : String} (visible : Visible s) : Stands s := by
  intro isBlank
  rw [visible] at isBlank
  cases isBlank

theorem Visible.ne_empty {s : String} (visible : Visible s) : s ≠ "" := by
  rintro rfl
  cases visible

theorem standing_of_visible {s : String} (visible : Visible s) : standing s = s :=
  Markup.standing_eq_self_iff.mpr visible.stands

theorem standing_of_not_visible {s : String} (blank : ¬Visible s) : standing s = "" :=
  if_pos (Bool.not_eq_false _ ▸ blank)

/-! ## What is read where a value was written -/

def spelled (name : String) (v : Json) : Json :=
  match v with
  | .number n => .string (if name = "maxCount" then maxOccurs (.number n) else n.text)
  | _ => v

/-- An object with a change of the text that is its value. -/
def onValue (change : String → String) (v : Json) : Json :=
  match v with
  | .object fields => .object (fields.map fun f => (f.1, if f.1 = "value" then Normal.onText change f.2 else f.2))
  | _ => v

/-- Fields with a text that is not there if nothing is kept of it. -/
def optionalTexts : List String := ["icon", "revision", "modified", "creator"]

/-- What is written of a rich text: markup as it is, any other text with its special characters by reference. -/
def richText (s : String) : String := if Markup.isMarkup s then s else String.ofList (Markup.escape s.toList)

theorem not_mem_ofList_escape (s : String) : '<' ∉ (String.ofList (Markup.escape s.toList)).toList := by
  rw [String.toList_ofList]
  exact Markup.not_mem_escape (.inl rfl) s.toList

theorem isMarkup_escape (s : String) : Markup.isMarkup (String.ofList (Markup.escape s.toList)) = true := by
  refine Markup.isMarkup_of_resolves (not_mem_ofList_escape s) ?_
  rw [String.toList_ofList, Markup.resolve?_escape]
  rfl

/-- What is written of a rich text is markup, so reading leaves it alone. -/
theorem asMarkup_richText (s : String) : Markup.asMarkup (richText s) = richText s := by
  refine if_pos ?_
  rw [richText]
  split
  · rename_i markup
    exact markup
  · exact isMarkup_escape s

/-- The value that is read where a value was written, if one is. -/
def heard (name : String) (v : Json) : Option Json :=
  match v with
  | .string s =>
    if optionalTexts.contains name then if Visible s then some v else none
    else some (.string (if name = "value" then standing s else s))
  | .array list =>
    some (.array
      (if name = "priorRevision" then list.filter fun v => v.text?.all fun s => Visible s
      else if ["title", "hasProperty"].contains name then list.map (onValue standing)
      else if Vocabulary.richFields.contains name then list.map (onValue richText)
      else list))
  | _ => some (spelled name v)

/-- An entry of a text as it is read: rich text as it was written, any other as an element keeps it. -/
def heardEntry (name : String) (t : LanguageText) : LanguageText :=
  { t with value := if Vocabulary.richFields.contains name then richText t.value else standing t.value }

theorem onValue_languageText (change : String → String) (t : LanguageText) :
    onValue change (Writing.languageText t) = Writing.languageText { t with value := change t.value } := by
  rw [Writing.languageText_eq, Writing.languageText_eq]
  rcases t with ⟨value, _ | lang⟩ <;> rfl

theorem onValue_embeddedProperty (change : String → String) (p : PropertyValue) :
    onValue change (Writing.embeddedProperty p) = Writing.embeddedProperty { p with value := change p.value } := by
  rw [Writing.embeddedProperty_eq, Writing.embeddedProperty_eq]
  rcases p with ⟨hasClass, value, _ | lang⟩ <;> rfl

theorem heard_texts {name : String} (isText : Vocabulary.textFields.contains name = true) (list : List LanguageText) :
    heard name (.array (list.map Writing.languageText)) =
      some (.array (list.map fun t => Writing.languageText (heardEntry name t))) := by
  rcases List.mem_pair.mp (List.contains_iff_mem.mp isText) with rfl | rfl
  · refine congrArg (fun list => some (Json.array list)) ?_
    rw [if_neg (by decide), if_pos (by decide), List.map_map]
    exact List.map_congr_left fun t _ => onValue_languageText standing t
  · refine congrArg (fun list => some (Json.array list)) ?_
    rw [if_neg (by decide), if_neg (by decide), if_pos (by decide), List.map_map]
    exact List.map_congr_left fun t _ => onValue_languageText richText t

theorem heard_properties (list : List PropertyValue) :
    heard "hasProperty" (.array (list.map Writing.embeddedProperty)) =
      some (.array (list.map fun p => Writing.embeddedProperty { p with value := standing p.value })) := by
  refine congrArg (fun list => some (Json.array list)) ?_
  rw [if_neg (by decide), if_pos (by decide), List.map_map]
  exact List.map_congr_left fun p _ => onValue_embeddedProperty standing p

theorem heard_textList (list : List String) :
    heard "priorRevision" (Writing.texts list) = some (Writing.texts (list.filter fun s => Visible s)) := by
  refine congrArg (fun list => some (Json.array list)) ?_
  rw [if_pos rfl, List.filter_map]
  rfl

theorem heard_text {name : String} (optional : optionalTexts.contains name = true) (s : String) :
    heard name (.string s) = if Visible s then some (.string s) else none := by
  rw [heard, if_pos optional]

/-- Names of fields whose lists and texts are read as they were written. -/
def isVerbatim (name : String) : Bool :=
  !optionalTexts.contains name && name != "value" && name != "priorRevision" &&
    !(["title", "hasProperty"].contains name) && !Vocabulary.richFields.contains name

theorem heard_string {name : String} (verbatim : isVerbatim name = true) (s : String) :
    heard name (.string s) = some (.string s) := by
  simp only [isVerbatim, Bool.and_eq_true, Bool.not_eq_true', bne_iff_ne, ne_eq] at verbatim
  rcases verbatim with ⟨⟨⟨⟨optional, notValue⟩, _⟩, _⟩, _⟩
  simp only [heard, optional, notValue, Bool.false_eq_true, if_false]

theorem heard_array {name : String} (verbatim : isVerbatim name = true) (list : List Json) :
    heard name (.array list) = some (.array list) := by
  simp only [isVerbatim, Bool.and_eq_true, Bool.not_eq_true', bne_iff_ne, ne_eq] at verbatim
  rcases verbatim with ⟨⟨⟨_, notPrior⟩, notValued⟩, notRich⟩
  simp only [heard, notPrior, notValued, notRich, Bool.false_eq_true, if_false]

theorem isVerbatim_of_classFields {name : String} (ofClass : Vocabulary.classFields.contains name = true) :
    isVerbatim name = true := by
  have all : ∀ name ∈ Vocabulary.classFields, isVerbatim name = true := by decide
  exact all name (List.contains_iff_mem.mp ofClass)

/-! ## Fields to be written -/

/-- A rich text that ends where the tag behind it begins, if it is written as it is. -/
def Ends (s : String) : Prop := Markup.isMarkup s = true → EndsAt "dcterms:description" s.toList

/-- Fields of a kind, written, whose rich texts end where they should. -/
structure Presents (kind : Kind) (fields : Fields) : Prop where
  sorted : Keyed.Sorted fields
  written : ∀ f ∈ fields, ∃ shape, kind.shapes.get? f.1 = some shape ∧ shape.Written f.2
  ends : ∀ v, fields.get? "description" = some v → ∀ t ∈ Normal.languageTexts v, Ends t.value

/-- What is to be read under each name. -/
def target (fields : Fields) (name : String) : Option Json := (fields.get? name).bind (heard name)

theorem target_of_get? {fields : Fields} {name : String} (absent : fields.get? name = none) :
    target fields name = none := by
  rw [target, absent]
  rfl

theorem target_of_found {fields : Fields} {name : String} {v : Json} (found : fields.get? name = some v) :
    target fields name = heard name v := by
  rw [target, found]
  rfl

/-! ## Elements and their tokens -/

theorem readAs_textElement {name : String} {attributes : List (String × String)} (plain : IsPlainName name)
    (attributesPlain : AttributesPlain attributes) (notRich : Vocabulary.isRichElement name = false) (s : String) :
    ReadAs Vocabulary.isRichElement (textElement name attributes (.plain s)) [.mk name attributes [] (standing s)] :=
  .text plain attributesPlain notRich (Markup.not_mem_escape (.inl rfl) s.toList) (Markup.resolve?_escape s.toList)

theorem readAs_flatMap {α : Type} {list : List α} {tokensOf : α → List Token} {element : α → Element}
    (each : ∀ a ∈ list, ReadAs Vocabulary.isRichElement (tokensOf a) [element a]) :
    ReadAs Vocabulary.isRichElement (list.flatMap tokensOf) (list.map element) := by
  induction list with
  | nil => exact .nil
  | cons a rest ih =>
      exact (each a List.mem_cons_self).append (ih fun b later => each b (List.mem_cons_of_mem _ later))

/-! ## Lists that are collected -/

/-- An element adds values to a list, which may be absent as long as it is empty. -/
def Collects (read : Fields → Element → Fields) (field : String) (e : Element) (values : List Json) : Prop :=
  ∀ (fields : Fields) (list : List Json), (fields.get? field).getD (.array []) = .array list →
    read fields e = fields.insert field (.array (list ++ values))

theorem foldl_collects {α : Type} {read : Fields → Element → Fields} {field : String} {element : α → Element}
    {write : α → List Json} {items : List α} (each : ∀ a ∈ items, Collects read field (element a) (write a))
    (fields : Fields) (list : List Json) :
    (items.map element).foldl read (fields.insert field (.array list)) =
      fields.insert field (.array (list ++ items.flatMap write)) := by
  induction items generalizing list with
  | nil => rw [List.map_nil, List.flatMap_nil, List.append_nil, List.foldl_nil]
  | cons a rest ih =>
      have held : ((fields.insert field (.array list)).get? field).getD (.array []) = .array list := by
        rw [Keyed.get?_insert_self]
        rfl
      rw [List.map_cons, List.foldl_cons, each a List.mem_cons_self _ list held, Keyed.insert_insert,
        ih (fun b later => each b (List.mem_cons_of_mem _ later)), List.append_assoc]
      rfl

/-- A list is collected from its elements, of which there are some. -/
theorem fills_collected {α : Type} {read : Fields → Element → Fields} {field : String} {element : α → Element}
    {write : α → List Json} {items : List α} {target : String → Option Json} (nonempty : items ≠ [])
    (each : ∀ a ∈ items, Collects read field (element a) (write a))
    (value : target field = some (.array (items.flatMap write))) :
    Fills target [field] fun fields => (items.map element).foldl read fields := by
  cases items with
  | nil => exact absurd rfl nonempty
  | cons a rest =>
      refine (fills_insert value).congr fun fields free => ?_
      have held : (fields.get? field).getD (.array []) = .array [] := by
        rw [free field List.mem_cons_self]
        rfl
      rw [List.map_cons, List.foldl_cons, each a List.mem_cons_self fields [] held,
        foldl_collects fun b later => each b (List.mem_cons_of_mem _ later)]
      rfl

/-- A list is collected from elements with one of its values each. -/
theorem fills_mapped {α : Type} {read : Fields → Element → Fields} {field : String} {element : α → Element}
    {write : α → Json} {items : List α} {target : String → Option Json} (nonempty : items ≠ [])
    (each : ∀ a ∈ items, Collects read field (element a) [write a])
    (value : target field = some (.array (items.map write))) :
    Fills target [field] fun fields => (items.map element).foldl read fields :=
  fills_collected nonempty each (by rwa [← List.map_eq_flatMap])

/-! ## Fields carried by children -/

/-- The fields that children carry, with the names of these. -/
def childFields : List (String × String) :=
  [("title", "dcterms:title"), ("description", "dcterms:description"), ("icon", "pig:icon"),
   ("eligibleProperty", "pig:eligibleProperty"), ("eligibleEndpoint", "pig:eligibleEndpoint"),
   ("eligibleSourceLink", "pig:eligibleSourceLink"), ("eligibleTargetLink", "pig:eligibleTargetLink"),
   ("composedProperty", "pig:composedProperty"), ("revision", "pig:revision"),
   ("priorRevision", "pig:priorRevision"), ("modified", "dcterms:modified"), ("creator", "dcterms:creator")]

def IsChildName (name : String) : Prop := ∃ field, (field, name) ∈ childFields

/-- What is written for a single field. -/
def childTokens (fields : Fields) (term : String × String) : List Token :=
  match fields.get? term.1 with
  | none => []
  | some value =>
    if Vocabulary.textFields.contains term.1 then textEntries term.2 term.1 value
    else
      match value with
      | .array [] => [.single term.2 []]
      | .array list => list.flatMap (fieldValue term.2 term.1)
      | _ => fieldValue term.2 term.1 value

/-- The child element that carries a field. -/
def childName? : MarkupForm → Option String
  | .asChild name => some name
  | _ => none

theorem children_eq (fields : Fields) : children fields = childFields.flatMap (childTokens fields) := by
  have each : children fields = Vocabulary.terms.flatMap fun term =>
      (childName? term.markup).elim [] fun name => childTokens fields (term.field, name) := by
    refine List.flatMap_congr fun term _ => ?_
    rcases term with ⟨field, linked, _ | name | _⟩
    · rfl
    · cases found : fields.get? field with
      | none => simp [childTokens, childName?, found]
      | some value => rcases value with _ | _ | _ | _ | ⟨_ | _⟩ | _ <;>
          simp only [childTokens, childName?, Option.elim_some, found]
    · rfl
  rw [each]
  rfl

theorem childTokens_none {fields : Fields} {field : String} (absent : fields.get? field = none) (name : String) :
    childTokens fields (field, name) = [] := by
  simp only [childTokens, absent]

theorem childTokens_texts {fields : Fields} {field : String} {v : Json} (found : fields.get? field = some v)
    (isText : Vocabulary.textFields.contains field = true) (name : String) :
    childTokens fields (field, name) = textEntries name field v := by
  simp only [childTokens, found, isText, if_true]

theorem childTokens_string {fields : Fields} {field s : String} (found : fields.get? field = some (.string s))
    (notText : Vocabulary.textFields.contains field = false) (name : String) :
    childTokens fields (field, name) = fieldValue name field (.string s) := by
  simp only [childTokens, found, notText, Bool.false_eq_true, if_false]

theorem childTokens_list {fields : Fields} {field name : String} {list : List String}
    (found : fields.get? field = some (Writing.texts list))
    (notText : Vocabulary.textFields.contains field = false) :
    childTokens fields (field, name) =
      if list = [] then [.single name []] else list.flatMap fun s => fieldValue name field (.string s) := by
  rw [Writing.texts] at found
  simp only [childTokens, found, notText, Bool.false_eq_true, if_false]
  cases list with
  | nil => rfl
  | cons s rest =>
      rw [if_neg (List.cons_ne_nil s rest), ← List.flatMap_map Json.string]
      rfl

/-- Whether a field that a child carries may have a shape.  The shape tells how the field is written, and the name and
the kind tell how it is read. -/
def carries (kind : Kind) (field : String) (shape : Shape) : Bool :=
  let isText := Vocabulary.textFields.contains field
  let isList := Vocabulary.isList field (some kind)
  let ofClass := Vocabulary.classFields.contains field
  match shape with
  | .texts => isText
  | .identifier => !isText && !isList && ofClass
  | .identifiers => !isText && isList && ofClass
  | .text => !isText && !isList && !ofClass && ["icon", "revision", "modified", "creator"].contains field
  | .textList => !isText && isList && !ofClass && field == "priorRevision"
  | _ => false

theorem carries_of_get?_shapes {kind : Kind} {term : String × String} (member : term ∈ childFields) {shape : Shape}
    (named : kind.shapes.get? term.1 = some shape) : carries kind term.1 shape = true := by
  have all : ∀ kind ∈ Kind.all, ∀ term ∈ childFields, (kind.shapes.get? term.1).all (carries kind term.1) = true := by
    decide
  have here := all kind kind.mem_all term member
  rwa [named] at here

/-- What names say about the elements that carry fields. -/
theorem childName {term : String × String} (member : term ∈ childFields) :
    IsPlainName term.2 ∧ fieldOf term.2 = term.1 ∧
      Vocabulary.isRichElement term.2 = Vocabulary.richFields.contains term.1 ∧
      (term.1 = "description" → term.2 = "dcterms:description") := by
  have all : ∀ term ∈ childFields, IsPlainName term.2 ∧ fieldOf term.2 = term.1 ∧
      Vocabulary.isRichElement term.2 = Vocabulary.richFields.contains term.1 ∧
      (term.1 = "description" → term.2 = "dcterms:description") := by
    decide
  exact all term member

section Reading

variable {kind : Kind} {read : Fields → Element → Fields} {target : String → Option Json} {e : Element} {v : Json}

/-- Children with known names are read as children of an item of a kind. -/
def ReadsChildren (kind : Kind) (read : Fields → Element → Fields) : Prop :=
  ∀ fields e, IsChildName e.name → read fields e = withChild (some kind) fields e

theorem collects_text (reads : ReadsChildren kind read) (child : IsChildName e.name)
    (isText : Vocabulary.textFields.contains (fieldOf e.name) = true) :
    Collects read (fieldOf e.name) e [textEntry e] := by
  intro fields list held
  rw [reads fields e child, withChild]
  simp only [isText, if_true, appendToList, held]
  rfl

theorem collects_value (reads : ReadsChildren kind read) (child : IsChildName e.name)
    (notText : Vocabulary.textFields.contains (fieldOf e.name) = false)
    (isList : Vocabulary.isList (fieldOf e.name) (some kind) = true) :
    Collects read (fieldOf e.name) e (elementValue? e).toList := by
  intro fields list held
  rw [reads fields e child, withChild]
  simp only [notText, isList, Bool.false_eq_true, if_false, if_true, appendToList, held]

theorem fills_single (reads : ReadsChildren kind read) (child : IsChildName e.name)
    (notText : Vocabulary.textFields.contains (fieldOf e.name) = false)
    (notList : Vocabulary.isList (fieldOf e.name) (some kind) = false)
    (wanted : target (fieldOf e.name) = elementValue? e) :
    Fills target [fieldOf e.name] fun fields => [e].foldl read fields := by
  have step : ∀ fields, read fields e = (elementValue? e).elim fields (append fields (fieldOf e.name)) := by
    intro fields
    rw [reads fields e child, withChild]
    simp only [notText, notList, Bool.false_eq_true, if_false]
    cases elementValue? e <;> rfl
  cases value : elementValue? e with
  | none =>
      refine (Fills.nothing (List.forall_mem_singleton.mpr (wanted.trans value))).congr fun fields _ => ?_
      rw [List.foldl_cons, List.foldl_nil, step, value]
      rfl
  | some v =>
      refine (fills_insert (wanted.trans value)).congr fun fields free => ?_
      have absent : fields.get? (fieldOf e.name) = none := free _ List.mem_cons_self
      rw [List.foldl_cons, List.foldl_nil, step, value, Option.elim_some, append, absent]

end Reading

/-! ## Each shape in turn -/

theorem elementValue?_text (name s : String) :
    elementValue? (.mk name [] [] (standing s)) = if Visible s then some (.string s) else none := by
  by_cases visible : Visible s
  · have filled : s.isEmpty = false := by
      rw [Bool.eq_false_iff, ne_eq, String.isEmpty_iff]
      exact visible.ne_empty
    rw [if_pos visible, standing_of_visible visible]
    simp [elementValue?, Element.attribute?, Element.attributes, Element.isBare, Element.children, Element.text, filled]
  · rw [if_neg visible, standing_of_not_visible visible]
    rfl

theorem attributesPlain_nil : AttributesPlain [] := ⟨nofun, .nil⟩

theorem attributesPlain_singleton {name : String} (plain : IsPlainName name) (value : String) :
    AttributesPlain [(name, value)] :=
  ⟨List.forall_mem_singleton.mpr plain.isAttributeName, List.pairwise_singleton _ _⟩

theorem readAs_reference {name : String} (plain : IsPlainName name) (s : String) :
    ReadAs Vocabulary.isRichElement [.single name [("id", s)]] [.mk name [("id", s)] [] ""] :=
  .single plain (attributesPlain_singleton (by decide) s)

/-- The tag of the language of an entry. -/
def languageAttribute (t : LanguageText) : List (String × String) := (t.lang.map fun lang => ("xml:lang", lang)).toList

def entryElement (name : String) (t : LanguageText) : Element := .mk name (languageAttribute t) [] t.value

theorem attributesPlain_languageAttribute (t : LanguageText) : AttributesPlain (languageAttribute t) := by
  rcases t with ⟨value, _ | lang⟩
  · exact attributesPlain_nil
  · exact attributesPlain_singleton (by decide) lang

theorem textEntry_entryElement (name : String) (t : LanguageText) :
    textEntry (entryElement name t) = Writing.languageText t := by
  rcases t with ⟨value, _ | lang⟩ <;> rfl

theorem textEntries_eq (name field : String) (list : List LanguageText) :
    textEntries name field (.array (list.map Writing.languageText)) = list.flatMap fun t =>
      textElement name (languageAttribute t)
        (if Vocabulary.richFields.contains field && Markup.isMarkup t.value then .text t.value.toList
          else .plain t.value) := by
  rw [textEntries, Json.items?, Option.getD_some, List.flatMap_map]
  refine List.flatMap_congr fun t _ => ?_
  rw [Writing.languageText_eq]
  rcases t with ⟨value, _ | lang⟩ <;> rfl

/-- The element of a single value: a reference or what is kept of a text, told by the field. -/
def valueElement (name field s : String) : Element :=
  if Vocabulary.classFields.contains field then .mk name [("id", s)] [] "" else .mk name [] [] (standing s)

section Values

variable {name field : String}

theorem name_valueElement (s : String) : (valueElement name field s).name = name := by
  rw [valueElement]
  split <;> rfl

theorem elementValue?_reference (ofClass : Vocabulary.classFields.contains field = true) (s : String) :
    elementValue? (valueElement name field s) = some (.string s) := by
  rw [valueElement, if_pos ofClass]
  rfl

theorem elementValue?_valueElement (notClass : Vocabulary.classFields.contains field = false) (s : String) :
    elementValue? (valueElement name field s) = if Visible s then some (.string s) else none := by
  rw [valueElement, notClass, if_neg Bool.false_ne_true]
  exact elementValue?_text name s

theorem readAs_fieldValue (plain : IsPlainName name) (notRich : Vocabulary.isRichElement name = false) (s : String) :
    ReadAs Vocabulary.isRichElement (fieldValue name field (.string s)) [valueElement name field s] := by
  rw [fieldValue, Json.scalarText?, valueElement]
  by_cases ofClass : Vocabulary.classFields.contains field = true
  · simp only [ofClass, if_true]
    exact readAs_reference plain s
  · rw [Bool.not_eq_true] at ofClass
    simp only [ofClass, Bool.false_eq_true, if_false]
    exact readAs_textElement plain attributesPlain_nil notRich s

theorem flatMap_visible (list : List String) :
    (list.flatMap fun s => (if Visible s then some (Json.string s) else none).toList) =
      (list.filter fun s => Visible s).map .string := by
  induction list with
  | nil => rfl
  | cons s rest ih =>
      rw [List.flatMap_cons, ih]
      by_cases visible : Visible s <;> simp [visible]

end Values

section Telling

variable {kind : Kind} {read : Fields → Element → Fields} {goal : String → Option Json} {name : String}

theorem tells_texts (reads : ReadsChildren kind read) (child : IsChildName name) {list : List LanguageText}
    (nonempty : list ≠ []) (isText : Vocabulary.textFields.contains (fieldOf name) = true)
    (wanted : goal (fieldOf name) =
      some (.array (list.map fun t => Writing.languageText (heardEntry (fieldOf name) t))))
    (readAs : ∀ t ∈ list, ReadAs Vocabulary.isRichElement
      (textElement name (languageAttribute t)
        (if Vocabulary.richFields.contains (fieldOf name) && Markup.isMarkup t.value then .text t.value.toList
          else .plain t.value)) [entryElement name (heardEntry (fieldOf name) t)]) :
    Tells read IsChildName goal [fieldOf name]
      (textEntries name (fieldOf name) (.array (list.map Writing.languageText))) := by
  rw [textEntries_eq]
  have children : ∀ t, IsChildName (entryElement name t).name := fun _ => child
  refine ⟨_, readAs_flatMap readAs, List.forall_mem_map.mpr fun t _ => children _,
    fills_mapped nonempty (fun t _ => ?_) wanted⟩
  rw [← textEntry_entryElement name]
  exact collects_text reads (children _) isText

/-- A list is told by an element for each of its items, or by an element without content. -/
theorem tells_list (reads : ReadsChildren kind read) (child : IsChildName name) (plain : IsPlainName name)
    (notRich : Vocabulary.isRichElement name = false)
    (notText : Vocabulary.textFields.contains (fieldOf name) = false)
    (isList : Vocabulary.isList (fieldOf name) (some kind) = true) {list : List String}
    (wanted : goal (fieldOf name) =
      some (.array (list.flatMap fun s => (elementValue? (valueElement name (fieldOf name) s)).toList))) :
    Tells read IsChildName goal [fieldOf name]
      (if list = [] then [.single name []]
        else list.flatMap fun s => fieldValue name (fieldOf name) (.string s)) := by
  by_cases empty : list = []
  · rw [if_pos empty]
    subst empty
    refine ⟨[.mk name [] [] ""], .single plain attributesPlain_nil, List.forall_mem_singleton.mpr child, ?_⟩
    have nothing : Collects read (fieldOf name) (.mk name [] [] "") [] :=
      collects_value (e := .mk name [] [] "") reads child notText isList
    have one : [()] ≠ [] := List.cons_ne_nil _ _
    exact fills_collected one (fun _ _ => nothing) wanted
  · rw [if_neg empty]
    have children : ∀ s, IsChildName (valueElement name (fieldOf name) s).name :=
      fun s => (name_valueElement s).symm ▸ child
    refine ⟨_, readAs_flatMap fun s _ => readAs_fieldValue plain notRich s,
      List.forall_mem_map.mpr fun s _ => children s, fills_collected empty (fun s _ => ?_) wanted⟩
    have collects := collects_value reads (children s) (by rwa [name_valueElement]) (by rwa [name_valueElement])
    rwa [name_valueElement] at collects

/-- A single value is told by an element. -/
theorem tells_single (reads : ReadsChildren kind read) (child : IsChildName name) (plain : IsPlainName name)
    (notRich : Vocabulary.isRichElement name = false)
    (notText : Vocabulary.textFields.contains (fieldOf name) = false)
    (notList : Vocabulary.isList (fieldOf name) (some kind) = false) {s : String}
    (wanted : goal (fieldOf name) = elementValue? (valueElement name (fieldOf name) s)) :
    Tells read IsChildName goal [fieldOf name] (fieldValue name (fieldOf name) (.string s)) := by
  have named : (valueElement name (fieldOf name) s).name = name := name_valueElement s
  have fills := fills_single (e := valueElement name (fieldOf name) s) reads (named.symm ▸ child)
    (by rwa [named]) (by rwa [named]) (by rwa [named])
  rw [named] at fills
  exact ⟨[_], readAs_fieldValue plain notRich s, List.forall_mem_singleton.mpr (named.symm ▸ child), fills⟩

theorem endsAt_escape (s : String) : EndsAt "dcterms:description" (Markup.escape s.toList) := by
  have plain : IsPlainName "dcterms:description" := by decide
  have stays : ¬Markup.StepsOut (String.ofList (Markup.escape s.toList)) :=
    fun leaves => not_mem_ofList_escape s ((Markup.isInfix_of_stepsOut leaves).subset (by decide))
  have ends := (Markup.endsAt_iff plain (by decide) (isMarkup_escape s)).mpr stays
  rwa [String.toList_ofList] at ends

/-- An entry of a text is read as the element of what is kept of it, in rich text as it was written. -/
theorem readAs_entry (plain : IsPlainName name)
    (rich : Vocabulary.isRichElement name = Vocabulary.richFields.contains (fieldOf name))
    (described : fieldOf name = "description" → name = "dcterms:description") {t : LanguageText}
    (ends : fieldOf name = "description" → Ends t.value) :
    ReadAs Vocabulary.isRichElement
      (textElement name (languageAttribute t)
        (if Vocabulary.richFields.contains (fieldOf name) && Markup.isMarkup t.value then .text t.value.toList
          else .plain t.value)) [entryElement name (heardEntry (fieldOf name) t)] := by
  have attributesPlain := attributesPlain_languageAttribute t
  by_cases isRich : Vocabulary.richFields.contains (fieldOf name) = true
  · have isDescription : fieldOf name = "description" := List.mem_singleton.mp (List.contains_iff_mem.mp isRich)
    have heard_eq : heardEntry (fieldOf name) t = { t with value := richText t.value } := by
      rw [heardEntry, if_pos isRich]
    rw [isRich, Bool.true_and, heard_eq, richText]
    by_cases markup : Markup.isMarkup t.value = true
    · rw [if_pos markup, if_pos markup]
      have read := ReadAs.rich plain attributesPlain (rich.trans isRich)
        (described isDescription ▸ ends isDescription markup)
      rwa [String.ofList_toList] at read
    · rw [if_neg markup, if_neg markup]
      exact .rich plain attributesPlain (rich.trans isRich) (described isDescription ▸ endsAt_escape t.value)
  · rw [Bool.not_eq_true] at isRich
    have heard_eq : heardEntry (fieldOf name) t = { t with value := standing t.value } := by
      rw [heardEntry, isRich, if_neg Bool.false_ne_true]
    rw [isRich, Bool.false_and, if_neg Bool.false_ne_true, heard_eq]
    exact readAs_textElement plain attributesPlain (rich.trans isRich) t.value

theorem isRichElement_of_not_text (rich : Vocabulary.isRichElement name = Vocabulary.richFields.contains (fieldOf name))
    (notText : Vocabulary.textFields.contains (fieldOf name) = false) : Vocabulary.isRichElement name = false := by
  rw [rich]
  cases isRich : Vocabulary.richFields.contains (fieldOf name) with
  | false => rfl
  | true =>
      rw [List.mem_singleton.mp (List.contains_iff_mem.mp isRich)] at notText
      exact absurd notText (by decide)

variable {fields : Fields} {term : String × String}

/-- What is written for a field with a value of some shape tells this field, as the shape is read. -/
theorem tells_written (reads : ReadsChildren kind read) (member : (fieldOf name, name) ∈ childFields) {v : Json}
    (found : fields.get? (fieldOf name) = some v) {shape : Shape} (named : kind.shapes.get? (fieldOf name) = some shape)
    (written : shape.Written v)
    (ends : fieldOf name = "description" → ∀ t ∈ Normal.languageTexts v, Ends t.value) :
    Tells read IsChildName (target fields) [fieldOf name] (childTokens fields (fieldOf name, name)) := by
  have child : IsChildName name := ⟨_, member⟩
  have fits := carries_of_get?_shapes member named
  have wanted := target_of_found found
  rcases childName member with ⟨plain, _, rich, described⟩
  dsimp only at plain rich described fits
  cases written with
  | count | number | exactly | properties | links => cases fits
  | @texts list nonempty =>
      have isText : Vocabulary.textFields.contains (fieldOf name) = true := fits
      rw [childTokens_texts found isText]
      refine tells_texts reads child nonempty isText (wanted.trans (heard_texts isText list)) fun t inList => ?_
      refine readAs_entry plain rich described fun isDescription => ends isDescription t ?_
      rwa [Normal.languageTexts_map]
  | @identifier s =>
      simp only [carries, Bool.and_eq_true, Bool.not_eq_true'] at fits
      rcases fits with ⟨⟨notText, notList⟩, ofClass⟩
      rw [childTokens_string found notText]
      refine tells_single reads child plain (isRichElement_of_not_text rich notText) notText notList (wanted.trans ?_)
      rw [heard_string (isVerbatim_of_classFields ofClass), elementValue?_reference ofClass]
  | text s =>
      simp only [carries, Bool.and_eq_true, Bool.not_eq_true'] at fits
      rcases fits with ⟨⟨⟨notText, notList⟩, notClass⟩, optional⟩
      rw [childTokens_string found notText]
      refine tells_single reads child plain (isRichElement_of_not_text rich notText) notText notList (wanted.trans ?_)
      rw [heard_text optional, elementValue?_valueElement notClass]
  | @identifiers list =>
      simp only [carries, Bool.and_eq_true, Bool.not_eq_true'] at fits
      rcases fits with ⟨⟨notText, isList⟩, ofClass⟩
      rw [childTokens_list found notText]
      refine tells_list reads child plain (isRichElement_of_not_text rich notText) notText isList (wanted.trans ?_)
      simp only [Writing.texts, heard_array (isVerbatim_of_classFields ofClass), elementValue?_reference ofClass,
        Option.toList_some, List.map_eq_flatMap]
  | textList list =>
      simp only [carries, Bool.and_eq_true, Bool.not_eq_true', beq_iff_eq] at fits
      rcases fits with ⟨⟨⟨notText, isList⟩, notClass⟩, listed⟩
      rw [childTokens_list found notText]
      refine tells_list reads child plain (isRichElement_of_not_text rich notText) notText isList (wanted.trans ?_)
      simp only [elementValue?_valueElement notClass]
      rw [listed, heard_textList, Writing.texts, flatMap_visible]

/-- What is written for a field that a child carries tells this field. -/
theorem tells_child (presents : Presents kind fields) (reads : ReadsChildren kind read) (member : term ∈ childFields) :
    Tells read IsChildName (target fields) [term.1] (childTokens fields term) := by
  rcases term with ⟨field, name⟩
  have carried : fieldOf name = field := (childName member).2.1
  subst carried
  cases found : fields.get? (fieldOf name) with
  | none =>
      rw [childTokens_none found]
      exact .nothing (List.forall_mem_singleton.mpr (target_of_get? found))
  | some v =>
      rcases presents.written _ (Keyed.mem_of_get? found) with ⟨shape, named, written⟩
      exact tells_written reads member found named written
        fun isDescription => presents.ends v (isDescription ▸ found)

/-- The children that fields are written as tell the fields that children carry. -/
theorem tells_children (presents : Presents kind fields) (reads : ReadsChildren kind read) :
    Tells read IsChildName (target fields) (childFields.map (·.1)) (children fields) := by
  rw [children_eq]
  exact .flatMap (fun term member => tells_child presents reads member) (by decide)

end Telling

end Xml
end ProductGraph
