import ProductGraph.Markup.Attribute

/-!
# Fragments of markup

Rich text is kept as markup.  A text is taken for markup as it stands if it can be read as the content of an
element; any other text is plain and becomes markup by writing its special characters by reference.
-/

namespace ProductGraph
namespace Markup

/-- Whether a document can be read to its end.  `opened` holds the names of the open elements, the innermost
first; all text has to resolve, also outside elements. -/
def isReadable : Nat → (opened : List String) → List Char → Bool
  | 0, _, _ => false
  | steps + 1, opened, cs =>
    match next cs with
    | .finished => opened.isEmpty
    | .broken => false
    | .event (.opening name attributes) rest =>
      (attributes? attributes).isSome && isReadable steps (name :: opened) rest
    | .event (.single _ attributes) rest => (attributes? attributes).isSome && isReadable steps opened rest
    | .event (.closing name) rest =>
      match opened with
      | innermost :: others => name == innermost && isReadable steps others rest
      | [] => false
    | .event (.text raw) rest => (resolve? raw).isSome && isReadable steps opened rest
    | .event (.characterData _) rest => isReadable steps opened rest
    | .event .aside rest => isReadable steps opened rest

/-- A text as the content of an element. -/
def wrapped (cs : List Char) : List Char := "<r>".toList ++ cs ++ "</r>".toList

/-- Whether a text is markup. -/
def isMarkup (s : String) : Bool :=
  let document := wrapped s.toList
  isReadable (document.length + 1) [] document

/-- A text as markup: itself if it is markup, otherwise with its special characters written by reference. -/
def asMarkup (s : String) : String := if isMarkup s then s else String.ofList (partlyEscape s.toList)

end Markup
end ProductGraph
