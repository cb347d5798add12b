import BlockNotebook.Proofs.Schema.Reload
import BlockNotebook.Document.Basic
/-!
Documents written back and read again.

The data of a document that was read need not be the data it was read from:
fields come back under their keys, those left out with their defaults, and texts
for numbers or truth values as what they spell. From there on nothing changes.
-/

namespace BlockNotebook

open Schema

namespace Document

theorem shape_settles : shape.settles := by decide +kernel

/-- The data of a document is read as the same document, to the last field and the last entry that is kept. -/
theorem read_toValue {v : Value} (hv : v.IsPlain) {d : Document} (h : read v = .ok d) :
    read d.content.toValue = .ok d := by
  unfold read at h
  split at h
  · rename_i c hc
    cases h
    rw [read, (check_settles shape shape_settles hv hc).again]
  · cases h

/-- A document whose data is not what it is written as. Its block has its version as text, both names of its sorting
key, a range of dates as a list, and an entry of its own. -/
def loose : Value := .map [
  (.str "version", .str "1"),
  (.str "metadata", .map [(.str "created_at", .str "2024")]),
  (.str "project", .map [(.str "id", .str "p"), (.str "name", .str "P"), (.str "notebooks", .list [.map [
    (.str "id", .str "n"), (.str "name", .str "N"), (.str "is_module", .str "yes"), (.str "blocks", .list [
      .map [(.str "id", .str "a"), (.str "type", .str "input-date-range"), (.str "sorting_key", .str "1"),
        (.str "sortingKey", .str "0"), (.str "version", .str " 2 "), (.str "author", .list [.null]),
        (.str "metadata", .map [(.str "deepnote_variable_name", .str "span"),
          (.str "deepnote_variable_value", .list [.str "2024-01-01", .str "2024-02-01"])])]])]])])]

theorem loose_isPlain : loose.IsPlain := by
  simp [loose, Value.IsPlain.null, Value.IsPlain.str]

/-- Its data has another name for a field, and is read as the same document. -/
theorem loose_read_toValue : loose.IsPlain ∧ ∃ d, read loose = .ok d ∧
    ((d.content.toValue.get? "metadata").bind (·.get? "created_at")).isNone ∧ read d.content.toValue = .ok d := by
  have hread : (match read loose with
      | .error _ => false
      | .ok d => ((d.content.toValue.get? "metadata").bind (·.get? "created_at")).isNone) = true := by decide +kernel
  cases h : read loose with
  | error fs => rw [h] at hread; cases hread
  | ok d =>
    rw [h] at hread
    exact ⟨loose_isPlain, d, rfl, hread, read_toValue loose_isPlain h⟩

end Document

end BlockNotebook
