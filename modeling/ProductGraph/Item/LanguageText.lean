import ProductGraph.Identifier
import ProductGraph.Text.Words

/-!
# Text in several languages

A title or description is a list of entries, each with a language tag or without.  A reader who asks for one
language gets its entry, else the untagged one, else the first.
-/

namespace ProductGraph

/-- One entry of a text in several languages. -/
structure LanguageText where
  value : String
  lang : Option String
  deriving DecidableEq

namespace LanguageText

/-- The text for a language: its entry, else the untagged one, else the first. -/
def preferred (entries : List LanguageText) (lang : String) : Option String :=
  let chosen :=
    (entries.find? (fun e => e.lang == some lang)).or
      ((entries.find? (fun e => e.lang.isNone)).or entries.head?)
  chosen.map (·.value)

/-- Whether a part of a language tag has one to eight characters, all of a class. -/
def isTagPart (inClass : Char → Bool) (part : List Char) : Bool :=
  !part.isEmpty && part.length ≤ 8 && part.all inClass

/-- Whether a text is a language tag: letters, then letters and digits after each hyphen. -/
def isTag (s : String) : Bool :=
  match Text.pieces '-' s.toList with
  | first :: others =>
    isTagPart Identifier.isLetter first && others.all (isTagPart Identifier.isAlphanumeric)
  | [] => false

end LanguageText

end ProductGraph
