import ProductGraph.Document.Codec
import ProductGraph.Proofs.Outcome

namespace ProductGraph

/-!
# When a text is read

A text of linked data is read if it is an object whose graph is a list or can be taken for one, and a text of markup if
its outermost element is that of a package.  Nothing after that can fail: the header and the items are made of whatever
stands there.  So what is said of every document that was read is said of what these two make.
-/

/-- A text of linked data becomes a document exactly if it is an object with a graph. -/
theorem JsonLd.read_eq_ok {options : ReadingOptions} {text : String} {document : Document} :
    read options text = .ok document ↔
      ∃ fields list, Json.ofText? text = some (.object fields) ∧ graph (Keyed.get? fields "@graph") = .ok list ∧
        document = ⟨namespaces (Keyed.get? fields "@context"), header options fields, list.map (item options)⟩ := by
  constructor
  · intro made
    rw [read] at made
    split at made
    · cases made
    · rename_i fields parsed
      rcases Outcome.map_eq_ok.mp made with ⟨list, held, rfl⟩
      exact ⟨fields, list, parsed, held, rfl⟩
    · cases made
  · rintro ⟨fields, list, parsed, held, rfl⟩
    rw [read, parsed]
    exact Outcome.map_eq_ok.mpr ⟨list, held, rfl⟩

/-- A text of markup becomes a document exactly if its outermost element is that of a package. -/
theorem Xml.read_eq_ok {options : ReadingOptions} {text : String} {document : Document} :
    read options text = .ok document ↔
      ∃ e, Markup.root Vocabulary.isRichElement text = .ok e ∧ e.name = packageElement ∧
        document = documentOfElement options e := by
  constructor
  · intro made
    rw [read] at made
    split at made
    · cases made
    · cases made
    · cases made
    · rename_i e root
      by_cases named : e.name = packageElement
      · rw [if_pos (beq_iff_eq.mpr named)] at made
        exact ⟨e, root, named, (Except.ok.inj made).symm⟩
      · rw [if_neg (mt beq_iff_eq.mp named)] at made
        cases made
  · rintro ⟨e, root, named, rfl⟩
    rw [read, root]
    exact if_pos (beq_iff_eq.mpr named)

end ProductGraph
