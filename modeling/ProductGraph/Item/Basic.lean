import ProductGraph.Item.Validation
import ProductGraph.Item.Writing
import ProductGraph.Json.Printer

/-!
# Items

An item has a kind for good.  Its content is replaced as a whole: a new value is validated and either becomes
the content or leaves the item without any.  An item without content still remembers the identifier and the
parent it had, and no later value may change them.

A value that declares another kind than the item's is no value for this item at all: the attempt is refused
before anything is looked at, and the item is as it was.
-/

namespace ProductGraph

/-- What a schema says about a value of a kind: nothing if it conforms, else what is wrong. -/
abbrev Validator := Kind → Json → Option String

/-- An item of the graph. -/
structure Item where
  kind : Kind
  fixedId : Option String
  fixedParent : Option String
  data : Option ItemData
  deriving DecidableEq

/-- What came of an attempt to give an item a value. -/
inductive SetOutcome where
  | accepted
  | refused (error : ItemError)
  | foreignKind (kind : Kind) (declared : String)

namespace SetOutcome

/-- The wording of an attempt with a value of another kind. -/
def foreignKindMessage (kind : Kind) (declared : String) : String :=
  "item kind is fixed: " ++ kind.tag ++ " cannot become " ++ declared

end SetOutcome

namespace Item

def empty (kind : Kind) : Item := ⟨kind, none, none, none⟩

/-- Whether the item has content. -/
def isValid (item : Item) : Bool := item.data.isSome

def id? (item : Item) : Option String := item.data.bind ItemData.id?

def parent? (item : Item) : Option String := item.data.bind ItemData.parent?

def hasClass (item : Item) : Option String := item.data.bind ItemData.hasClass

def title (item : Item) : Option (List LanguageText) :=
  (item.data.bind ItemData.identifiable).map (·.title)

def toJson (item : Item) : Option Json := item.data.map ItemData.toJson

/-- A field that was fixed keeps its value. -/
def keeps (field : String) (fixed now : Option String) : Except ItemError Unit :=
  match fixed with
  | none => .ok ()
  | some was => if now = some was then .ok () else .error (.immutable field was now)

/-- The kind that a value declares for an item, if it is not that of the item. -/
def foreignKind? (kind : Kind) (fields : Fields) : Option String :=
  match fields.get? "itemType" with
  | none => none
  | some (.string declared) => if declared = kind.tag then none else some declared
  | some other => some (Json.compact other)

/-- The fields of a value with the kind of the item filled in. -/
def withKind (kind : Kind) (fields : Fields) : Fields :=
  if fields.has "itemType" then fields else fields.insert "itemType" (.string kind.tag)

/-- The content that a value gives an item: it conforms to the schema, keeps what is fixed, can be read, and
obeys the rules for single items, in this order. -/
def contentOf (item : Item) (schemas : Validator) (fields : Fields) : Except ItemError ItemData :=
  let fields := withKind item.kind fields
  match schemas item.kind (.object fields) with
  | some diagnostics => .error (.schema item.kind diagnostics)
  | none => do
    keeps "id" item.fixedId ((Json.object fields).textField? "id")
    keeps "specializes" item.fixedParent ((Json.object fields).textField? "specializes")
    match ItemData.ofJson item.kind (.object fields) with
    | .error reason => .error (.malformed item.kind reason)
    | .ok data => (Validation.item data).map fun _ => data

/-- The item with content; what it says first about identifier and parent stays. -/
def withContent (item : Item) (data : ItemData) : Item :=
  { item with
    fixedId := item.fixedId.or data.id?
    fixedParent := item.fixedParent.or data.parent?
    data := some data }

/-- Give an item a value. -/
def set (item : Item) (schemas : Validator) (value : Json) : Item × SetOutcome :=
  match value with
  | .object fields =>
    match foreignKind? item.kind fields with
    | some declared => (item, .foreignKind item.kind declared)
    | none =>
      match contentOf item schemas fields with
      | .ok data => (item.withContent data, .accepted)
      | .error error => ({ item with data := none }, .refused error)
  | _ => ({ item with data := none }, .refused (.malformed item.kind .notAnObject))

end Item

end ProductGraph
