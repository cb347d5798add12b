import BlockNotebook.Document.Basic
import BlockNotebook.Proofs.Schema.Refusal
import BlockNotebook.Proofs.Yaml.Load
/-!
The ways in which a text is no document.

Such a text is not YAML, with a fault at a place of it, or something is wrong with
its data. What else can go wrong has a `Yaml.Culprit` in the text itself: a version,
an escape, a tag, or a scalar that does not keep to the tag it shows.
-/

namespace BlockNotebook.Document

/-- The faults to expect: that the text is not YAML, or that something is wrong with its data. -/
inductive IsExpected : Fault → Prop
  | place {stage : Yaml.Stage} {activity : Option Yaml.Activity} {since : Option Yaml.Mark} {problem : Yaml.Problem}
      {mark : Yaml.Mark} : IsExpected (.yaml (.at stage activity since problem mark))
  | character {c : CodePoint} {position : Nat} : IsExpected (.yaml (.unacceptable c position))
  | findings {fs : List Finding} (h : fs ≠ []) : IsExpected (.findings fs)

/-- Data that is no document has findings. -/
theorem findings_ne_nil {v : Value} {fs : List Finding} (h : read v = .error fs) : fs ≠ [] := by
  unfold read at h
  split at h
  · cases h
  · rename_i is his
    cases h
    intro hnil
    rw [List.map_eq_nil_iff.1 hnil] at his
    exact Schema.check_ne_nil shape v his

/-- Every text is a document, or has a fault that is to be expected, or else a culprit. -/
theorem ofText_outcome (t : Text) : (∃ d, ofText t = .ok d) ∨
    ∃ e, ofText t = .error e ∧ (IsExpected e ∨ ∃ f, e = .yaml (.scalar f) ∧ Yaml.Culprit t.characters f) := by
  have hends := Yaml.loadPlain_ends t
  unfold ofText
  cases hload : Yaml.loadPlain t with
  | error f =>
    rw [hload] at hends
    refine .inr ⟨_, rfl, ?_⟩
    cases hends with
    | scalar hf => exact .inr ⟨_, rfl, hf⟩
    | place => exact .inl .place
    | character => exact .inl .character
  | ok v =>
    dsimp only
    cases hread : read v with
    | ok d => exact .inl ⟨d, rfl⟩
    | error fs => exact .inr ⟨_, rfl, .inl (.findings (findings_ne_nil hread))⟩

/-- An escape beyond the last code point is such a culprit. -/
example : (match ofText "\"\\U00110000\"" with
    | .error (.yaml (.scalar f)) => f == .noCodePoint 0x110000
    | _ => false) = true := by decide +kernel

end BlockNotebook.Document
