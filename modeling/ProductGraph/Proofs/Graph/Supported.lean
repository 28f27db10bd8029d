import ProductGraph.Proofs.Graph.Climb
import ProductGraph.Proofs.Graph.Inheritance

namespace ProductGraph

/-!
# Unsupported datatypes read as text

A property class may declare a datatype that is not supported.  Its values are opaque text, so the graph in which every
such datatype is that of text should say the same.  Here is that graph, and what stays the same in it: the items keep
all but their datatypes, hence every walk finds the same items, and whatever classes declare, pass on and allow is the
same, except for the datatype itself.

A class without a datatype stays without one; it takes over what is left of that of its parent.
-/

namespace Datatype

/-- The datatype, if it is supported, and that of text otherwise. -/
def orText : Datatype → Datatype
  | other _ => string
  | datatype => datatype

theorem isNumeric_orText (datatype : Datatype) : datatype.orText.isNumeric = datatype.isNumeric := by
  cases datatype <;> rfl

theorem isTextual_orText (datatype : Datatype) : datatype.orText.isTextual = datatype.isTextual := by
  cases datatype <;> rfl

theorem orText_of_isSupported {datatype : Datatype} (supported : datatype.isSupported = true) :
    datatype.orText = datatype := by
  cases datatype with
  | other => cases supported
  | _ => rfl

theorem orText_of_not_isSupported {datatype : Datatype} (unsupported : datatype.isSupported = false) :
    datatype.orText = string := by
  cases datatype with
  | other => rfl
  | _ => cases unsupported

end Datatype

/-- A term for a supported datatype: that of text if the term names none. -/
def supportedTerm (term : String) : String := if (Datatype.ofTerm term).isSupported then term else "xs:string"

theorem ofTerm_supportedTerm (term : String) :
    Datatype.ofTerm (supportedTerm term) = (Datatype.ofTerm term).orText := by
  rw [supportedTerm]
  split
  · rename_i supported
    rw [Datatype.orText_of_isSupported supported]
  · rename_i unsupported
    rw [Datatype.orText_of_not_isSupported (Bool.eq_false_iff.mpr unsupported)]
    rfl

namespace PropertyClass

/-- The class with the datatype of text instead of one that is not supported. -/
def withSupportedDatatype (p : PropertyClass) : PropertyClass := { p with datatype := p.datatype.map supportedTerm }

theorem declaredDatatype_withSupportedDatatype (p : PropertyClass) :
    p.withSupportedDatatype.declaredDatatype = p.declaredDatatype.map Datatype.orText := by
  rw [declaredDatatype, declaredDatatype, withSupportedDatatype, Option.map_map, Option.map_map]
  congr 1
  funext term
  exact ofTerm_supportedTerm term

end PropertyClass

namespace ItemData

/-- The item, a property class with the datatype of text instead of one that is not supported. -/
def withSupportedDatatype : ItemData → ItemData
  | propertyClass p => propertyClass p.withSupportedDatatype
  | d => d

section

variable (d : ItemData)

@[simp] theorem kind_withSupportedDatatype : d.withSupportedDatatype.kind = d.kind := by
  cases d <;> rfl

@[simp] theorem identifiable_withSupportedDatatype : d.withSupportedDatatype.identifiable = d.identifiable := by
  cases d <;> rfl

@[simp] theorem id?_withSupportedDatatype : d.withSupportedDatatype.id? = d.id? := by
  rw [id?, id?, identifiable_withSupportedDatatype]

@[simp] theorem parent?_withSupportedDatatype : d.withSupportedDatatype.parent? = d.parent? := by
  rw [parent?, parent?, identifiable_withSupportedDatatype]

@[simp] theorem label_withSupportedDatatype : d.withSupportedDatatype.label = d.label := by
  rw [label, label, id?_withSupportedDatatype, kind_withSupportedDatatype]

@[simp] theorem hasClass_withSupportedDatatype : d.withSupportedDatatype.hasClass = d.hasClass := by
  cases d <;> rfl

@[simp] theorem properties_withSupportedDatatype : d.withSupportedDatatype.properties = d.properties := by
  cases d <;> rfl

@[simp] theorem sourceLinks_withSupportedDatatype : d.withSupportedDatatype.sourceLinks = d.sourceLinks := by
  cases d <;> rfl

@[simp] theorem targetLinks_withSupportedDatatype : d.withSupportedDatatype.targetLinks = d.targetLinks := by
  cases d <;> rfl

end
end ItemData

namespace Graph

def withSupportedDatatypes (g : Graph) : Graph := ⟨g.items.map ItemData.withSupportedDatatype⟩

variable {g : Graph} {id : String}

theorem items_withSupportedDatatypes :
    g.withSupportedDatatypes.items = g.items.map ItemData.withSupportedDatatype := rfl

/-! ## Walks -/

theorem get?_withSupportedDatatypes :
    g.withSupportedDatatypes.get? id = (g.get? id).map ItemData.withSupportedDatatype := by
  rw [get?, get?, withSupportedDatatypes, List.find?_map]
  congr 2
  funext d
  rw [Function.comp_apply, ItemData.id?_withSupportedDatatype]

theorem parentOf?_withSupportedDatatypes : g.withSupportedDatatypes.parentOf? id = g.parentOf? id := by
  rw [parentOf?, parentOf?, get?_withSupportedDatatypes]
  cases g.get? id with
  | none => rfl
  | some d => exact ItemData.parent?_withSupportedDatatype d

theorem ancestorsFrom_withSupportedDatatypes (steps : Nat) (passed : List String) (parent : Option String) :
    g.withSupportedDatatypes.ancestorsFrom steps passed parent =
      (g.ancestorsFrom steps passed parent).map ItemData.withSupportedDatatype := by
  induction steps generalizing passed parent with
  | zero => rfl
  | succ steps ih =>
      cases parent with
      | none => rfl
      | some parent =>
          rw [ancestorsFrom, ancestorsFrom, get?_withSupportedDatatypes]
          split
          · rfl
          · cases g.get? parent with
            | none => rfl
            | some d =>
                simp only [Option.map_some, List.map_cons, ih, ItemData.parent?_withSupportedDatatype]

theorem line_withSupportedDatatypes :
    g.withSupportedDatatypes.line id = (g.line id).map ItemData.withSupportedDatatype := by
  have start : (g.withSupportedDatatypes.get? id).bind ItemData.parent? = (g.get? id).bind ItemData.parent? :=
    parentOf?_withSupportedDatatypes
  have size : g.withSupportedDatatypes.items.length = g.items.length := List.length_map _
  rw [line, line, ancestors, ancestors, start, size, ancestorsFrom_withSupportedDatatypes,
    get?_withSupportedDatatypes, List.map_append]
  cases g.get? id <;> rfl

theorem lineage_withSupportedDatatypes : g.withSupportedDatatypes.lineage id = g.lineage id := by
  rw [lineage, lineage, line_withSupportedDatatypes, List.filterMap_map]
  congr 1
  funext d
  exact ItemData.id?_withSupportedDatatype d

theorem isA_withSupportedDatatypes (ancestor : String) :
    g.withSupportedDatatypes.isA id ancestor = g.isA id ancestor := by
  rw [isA, isA, lineage_withSupportedDatatypes]

theorem cycleFrom_withSupportedDatatypes (start : String) (steps : Nat) (passed : List String) (current : String) :
    g.withSupportedDatatypes.cycleFrom start steps passed current = g.cycleFrom start steps passed current := by
  induction steps generalizing passed current with
  | zero => rfl
  | succ steps ih =>
      have next : (g.withSupportedDatatypes.get? current).bind ItemData.parent? =
          (g.get? current).bind ItemData.parent? := parentOf?_withSupportedDatatypes
      simp only [cycleFrom, next, ih]

theorem cycle?_withSupportedDatatypes : g.withSupportedDatatypes.cycle? id = g.cycle? id := by
  have size : g.withSupportedDatatypes.items.length = g.items.length := List.length_map _
  rw [cycle?, cycle?, cycleFrom_withSupportedDatatypes, size]

theorem individuals_withSupportedDatatypes :
    g.withSupportedDatatypes.individuals = g.individuals.map ItemData.withSupportedDatatype := by
  rw [individuals, individuals, withSupportedDatatypes, List.filter_map]
  congr 2
  funext d
  rw [Function.comp_apply, ItemData.kind_withSupportedDatatype]

theorem duplicatesFrom_withSupportedDatatype (seen : List (String × Nat)) (place : Nat) (items : List ItemData) :
    duplicatesFrom seen place (items.map ItemData.withSupportedDatatype) = duplicatesFrom seen place items := by
  induction items generalizing seen place with
  | nil => rfl
  | cons d rest ih => simp only [List.map_cons, duplicatesFrom, ItemData.id?_withSupportedDatatype, ih]

/-! ## Declarations -/

section Declarations

variable {α : Type} {tells : ItemData → Option α}

/-- What does not depend on datatypes is taken over as before. -/
theorem inherited_withSupportedDatatypes (blind : ∀ d, tells d.withSupportedDatatype = tells d) :
    g.withSupportedDatatypes.inherited id tells = g.inherited id tells := by
  rw [inherited, inherited, line_withSupportedDatatypes, List.findSome?_map]
  congr 1
  funext d
  exact blind d

theorem filterMap_line_withSupportedDatatypes (blind : ∀ d, tells d.withSupportedDatatype = tells d) :
    (g.withSupportedDatatypes.line id).filterMap tells = (g.line id).filterMap tells := by
  rw [line_withSupportedDatatypes, List.filterMap_map]
  congr 1
  funext d
  exact blind d

theorem facet?_withSupportedDatatypes (declares : PropertyClass → Option α)
    (blind : ∀ p, declares p.withSupportedDatatype = declares p) :
    g.withSupportedDatatypes.facet? id declares = g.facet? id declares := by
  refine inherited_withSupportedDatatypes fun d => ?_
  cases d with
  | propertyClass p => exact blind p
  | _ => rfl

end Declarations

theorem endpoints?_withSupportedDatatypes : g.withSupportedDatatypes.endpoints? id = g.endpoints? id :=
  inherited_withSupportedDatatypes fun d => by cases d <;> rfl

theorem sourceLink?_withSupportedDatatypes : g.withSupportedDatatypes.sourceLink? id = g.sourceLink? id :=
  inherited_withSupportedDatatypes fun d => by cases d <;> rfl

theorem targetLink?_withSupportedDatatypes : g.withSupportedDatatypes.targetLink? id = g.targetLink? id :=
  inherited_withSupportedDatatypes fun d => by cases d <;> rfl

theorem properties?_withSupportedDatatypes : g.withSupportedDatatypes.properties? id = g.properties? id := by
  rw [properties?, properties?, filterMap_line_withSupportedDatatypes fun d => by cases d <;> rfl]

theorem targetLinks?_withSupportedDatatypes : g.withSupportedDatatypes.targetLinks? id = g.targetLinks? id :=
  congrArg joined (filterMap_line_withSupportedDatatypes fun d => by cases d <;> rfl)

theorem propertyClass?_withSupportedDatatypes :
    g.withSupportedDatatypes.propertyClass? id = (g.propertyClass? id).map PropertyClass.withSupportedDatatype := by
  rw [propertyClass?, propertyClass?, get?_withSupportedDatatypes]
  cases g.get? id with
  | none => rfl
  | some d => cases d <;> rfl

theorem minCount_withSupportedDatatypes : g.withSupportedDatatypes.minCount id = g.minCount id := by
  rw [minCount, minCount, facet?_withSupportedDatatypes _ fun _ => rfl]

theorem maxCount_withSupportedDatatypes : g.withSupportedDatatypes.maxCount id = g.maxCount id := by
  rw [maxCount, maxCount, facet?_withSupportedDatatypes _ fun _ => rfl]

/-- The datatype that counts is the one that counted, or that of text if it is not supported. -/
theorem datatype?_withSupportedDatatypes :
    g.withSupportedDatatypes.datatype? id = (g.datatype? id).map Datatype.orText := by
  rw [datatype?, datatype?, facet?, facet?, inherited, inherited, line_withSupportedDatatypes, List.findSome?_map,
    List.map_findSome?]
  congr 1
  funext d
  cases d with
  | propertyClass p => exact p.declaredDatatype_withSupportedDatatype
  | _ => rfl

end Graph
end ProductGraph
