import ProductGraph.Unicode.Blank

/-!
# Trimming and words

Text is trimmed and split at white space of any script, never at ASCII blanks alone.  The functions work on
lists of characters, where they are `dropWhile` and a fold; the ones on `String` are their readings.
-/

namespace ProductGraph
namespace Text

open Unicode (isBlank)

def trimStart (cs : List Char) : List Char := cs.dropWhile isBlank

def trimEnd (cs : List Char) : List Char := (cs.reverse.dropWhile isBlank).reverse

/-- The text without white space at either end. -/
def trim (cs : List Char) : List Char := trimEnd (trimStart cs)

/-- The text of a string without white space at either end. -/
def trimmed (s : String) : String := String.ofList (trim s.toList)

/-- Whether a string holds nothing but white space. -/
def isBlankText (s : String) : Bool := s.toList.all isBlank

/-- The words of a text: the longest runs without white space, in order.  `word` is the run being read. -/
def wordsFrom (word : List Char) : List Char → List (List Char)
  | [] => if word.isEmpty then [] else [word]
  | c :: rest =>
    if isBlank c then
      if word.isEmpty then wordsFrom [] rest else word :: wordsFrom [] rest
    else wordsFrom (word ++ [c]) rest

/-- The words of a text: its longest runs without white space, in order. -/
def words (cs : List Char) : List (List Char) := wordsFrom [] cs

/-- The pieces of a text between occurrences of a separator; one more than there are occurrences. -/
def pieces (separator : Char) (cs : List Char) : List (List Char) := cs.splitOn separator

/-- Join texts with a separator between each two. -/
def join (separator : String) (parts : List String) : String := String.intercalate separator parts

end Text
end ProductGraph
