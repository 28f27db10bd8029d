import ProductGraph.Text.Words

/-!
# Fitting text into a width

A text that is too long for a line is broken between words, each line taking as many as fit; a word that does not
fit by itself has a line of its own.  A title that is too long is cut and ends in an ellipsis.
-/

namespace ProductGraph
namespace Text

/-- Words from a column on, single blanks between them and a break where the next one does not fit. -/
def wrapFrom (width column : Nat) : List (List Char) → List Char
  | [] => []
  | word :: rest =>
    if column = 0 then word ++ wrapFrom width word.length rest
    else if width < column + word.length + 1 then '\n' :: (word ++ wrapFrom width word.length rest)
    else ' ' :: (word ++ wrapFrom width (column + 1 + word.length) rest)

/-- A text in lines of a width; one that fits into a line stays as it is. -/
def wrap (width : Nat) (cs : List Char) : List Char :=
  if cs.length ≤ width then cs else wrapFrom width 0 (words cs)

/-- A text without blanks around it, cut to so many characters. -/
def truncate (max : Nat) (cs : List Char) : List Char :=
  let trimmed := trim cs
  if trimmed.length ≤ max then trimmed else trimmed.take (max - 1) ++ ['…']

end Text
end ProductGraph
