import ProductGraph.Proofs.Document.Xml.Children
import ProductGraph.Proofs.Markup.Embedding

namespace ProductGraph
namespace Xml

/-!
# Descriptions between their tags

A description is stored as markup and written as it is stored.  Between its tags it is read back verbatim, whatever
tags, comments, character data and instructions it holds, unless it steps out of the element that markup is tried in.
The closing tag that it has too many closes no description, so the document cannot be read at all.
-/

open Markup (IsPlainName StepsOut Token asMarkup isMarkup)

/-- A description that is markup, between its tags. -/
def descriptionTokens (attributes : List (String × String)) (s : String) : List Token :=
  textElement "dcterms:description" attributes (.text s.toList)

theorem write_descriptionTokens (s : String) :
    Token.write (descriptionTokens [] s) = "<dcterms:description>" ++ s ++ "</dcterms:description>" := by
  have written : Token.writeFrom 0 false (descriptionTokens [] s) =
      "<dcterms:description>".toList ++ (s.toList ++ ("</dcterms:description>".toList ++ [])) := rfl
  rw [← String.toList_inj, Token.write, written]
  simp

/-- What is written for a description that is markup. -/
theorem textEntries_description {s : String} (markup : isMarkup s = true) (lang : Option String) :
    textEntries "dcterms:description" "description" (.array [Writing.languageText ⟨s, lang⟩]) =
      descriptionTokens (languageAttribute ⟨s, lang⟩) s := by
  have isRich : Vocabulary.richFields.contains "description" = true := rfl
  have entries := textEntries_eq "dcterms:description" "description" [⟨s, lang⟩]
  rw [List.map_singleton, List.flatMap_singleton, isRich, markup, Bool.and_true, if_pos rfl] at entries
  exact entries

/-- A description that is markup is read back exactly if it does not step out of the element that it is tried in. -/
theorem root_descriptionTokens_iff {attributes : List (String × String)}
    (attributesPlain : Markup.AttributesPlain attributes) {s : String} (markup : isMarkup s = true) :
    (Markup.root Vocabulary.isRichElement (Token.write (descriptionTokens attributes s)) =
        .ok (.mk "dcterms:description" attributes [] s) ↔ ¬StepsOut s) ∧
      (StepsOut s → Markup.root Vocabulary.isRichElement (Token.write (descriptionTokens attributes s)) =
        .error .notWellFormed) := by
  have plain : IsPlainName "dcterms:description" := by decide
  have isRich : Vocabulary.isRichElement "dcterms:description" = true := by decide
  exact Markup.root_rich_iff plain (by decide) attributesPlain isRich markup

/-- Markup is read back verbatim from between the tags of a description exactly if it does not step out of the element
that it is tried in, and what is stored for any text is written and read back under the same proviso; a text that is no
markup itself always keeps to it.  What steps out makes the document unreadable. -/
theorem root_description_iff (s : String) (lang : Option String) :
    (isMarkup s = true →
        (Markup.root Vocabulary.isRichElement ("<dcterms:description>" ++ s ++ "</dcterms:description>") =
            .ok (.mk "dcterms:description" [] [] s) ↔ ¬StepsOut s) ∧
          (StepsOut s →
            Markup.root Vocabulary.isRichElement ("<dcterms:description>" ++ s ++ "</dcterms:description>") =
              .error .notWellFormed)) ∧
      (Markup.root Vocabulary.isRichElement
          (Token.write (textEntries "dcterms:description" "description"
            (.array [Writing.languageText ⟨asMarkup s, lang⟩]))) =
          .ok (entryElement "dcterms:description" ⟨asMarkup s, lang⟩) ↔ ¬StepsOut (asMarkup s)) ∧
        (isMarkup s = false → ¬StepsOut (asMarkup s)) := by
  refine ⟨fun markup => ?_, ?_, Markup.not_stepsOut_asMarkup⟩
  · rw [← write_descriptionTokens]
    exact root_descriptionTokens_iff attributesPlain_nil markup
  · have markup := Markup.isMarkup_asMarkup s
    rw [textEntries_description markup]
    exact (root_descriptionTokens_iff (attributesPlain_languageAttribute ⟨asMarkup s, lang⟩) markup).1

/-- Markup that names the closing tag of a description, in a comment, and holds character data. -/
def annotated : String := "a <b c='1>2'>d</b> &amp;<!-- </dcterms:description> --><![CDATA[ </b> ]]>"

theorem root_description_iff_annotated :
    isMarkup annotated = true ∧ ¬StepsOut annotated ∧
      Markup.root Vocabulary.isRichElement ("<dcterms:description>" ++ annotated ++ "</dcterms:description>") =
        .ok (.mk "dcterms:description" [] [] annotated) := by
  have markup : isMarkup annotated = true := by decide +kernel
  have stays : ¬StepsOut annotated := fun leaves => absurd (Markup.isInfix_of_stepsOut leaves) (by decide +kernel)
  exact ⟨markup, stays, ((root_description_iff annotated none).1 markup).1.mpr stays⟩

/-- A text that closes the element that it is tried in and opens it anew is markup, and a document with it as a
description cannot be read. -/
theorem exists_isMarkup_unreadable :
    isMarkup "</r><r>" = true ∧ asMarkup "</r><r>" = "</r><r>" ∧
      Markup.root Vocabulary.isRichElement "<dcterms:description></r><r></dcterms:description>" =
        .error .notWellFormed := by
  have markup : isMarkup "</r><r>" = true := by decide +kernel
  have leaves : StepsOut "</r><r>" := ⟨"", "", "<r>", by decide, by decide +kernel, rfl⟩
  refine ⟨markup, if_pos markup, ?_⟩
  have unreadable := (root_descriptionTokens_iff attributesPlain_nil markup).2 leaves
  rw [write_descriptionTokens] at unreadable
  exact unreadable

end Xml
end ProductGraph
