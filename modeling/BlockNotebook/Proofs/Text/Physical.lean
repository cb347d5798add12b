import BlockNotebook.Proofs.Code.Source
import BlockNotebook.Proofs.Text.Split
/-!
Physical lines: those that a reader of source text sees, ended by a line feed, a carriage
return or both together.
-/

namespace BlockNotebook.Text

open Code.Source (normalizeNewlines_cons)

/-- The physical lines of a text, without their ends. A text that ends in a line end has an empty last line. -/
def physicalLines (t : Text) : List Text := split (.char '\n') (normalizeNewlines t)

theorem split_append_sep {α : Type} [BEq α] [LawfulBEq α] (sep : α) (a b : List α) :
    split sep (a ++ sep :: b) = split sep a ++ split sep b := by
  induction a with
  | nil =>
    show split sep (sep :: b) = [] :: split sep b
    rw [split]
    cases h : split sep b with
    | nil => exact absurd h (split_ne_nil _ _)
    | cons part parts => exact if_pos (beq_self_eq_true sep)
  | cons c a ih =>
    rw [List.cons_append, split, ih, split]
    cases h : split sep a with
    | nil => exact absurd h (split_ne_nil _ _)
    | cons part parts =>
      simp only [List.cons_append]
      split <;> rfl

/-- A text without separators goes to the first part of what follows it. -/
theorem split_append_of_not_mem {α : Type} [BEq α] [LawfulBEq α] {sep : α} {a : List α} (h : sep ∉ a) (t : List α) :
    ∃ first others, split sep t = first :: others ∧ split sep (a ++ t) = (a ++ first) :: others := by
  induction a with
  | nil =>
    cases hsplit : split sep t with
    | nil => exact absurd hsplit (split_ne_nil _ _)
    | cons first others => exact ⟨first, others, rfl, hsplit⟩
  | cons c a ih =>
    obtain ⟨hc, ha⟩ := List.ne_and_not_mem_of_not_mem_cons h
    obtain ⟨first, others, hsplit, happend⟩ := ih ha
    refine ⟨first, others, hsplit, ?_⟩
    rw [List.cons_append, split, happend]
    exact if_neg (by simpa using hc.symm)

theorem normalizeNewlines_append_of_not_mem {a : Text} (h : .char '\r' ∉ a) (t : Text) :
    normalizeNewlines (a ++ t) = a ++ normalizeNewlines t := by
  induction a with
  | nil => rfl
  | cons c a ih =>
    obtain ⟨hc, ha⟩ := List.ne_and_not_mem_of_not_mem_cons h
    rw [List.cons_append, normalizeNewlines_cons hc.symm, ih ha, List.cons_append]

/-- A line feed ends the line before it, together with a carriage return if there is one. -/
theorem normalizeNewlines_append_newline (a b : Text) :
    ∃ x, (normalizeNewlines a = x ∨ normalizeNewlines a = x ++ [.char '\n']) ∧
      normalizeNewlines (a ++ .char '\n' :: b) = x ++ .char '\n' :: normalizeNewlines b := by
  have hstep {d : CodePoint} {a' a : Text} (ha : normalizeNewlines a' = d :: normalizeNewlines a)
      (happend : normalizeNewlines (a' ++ .char '\n' :: b) = d :: normalizeNewlines (a ++ .char '\n' :: b))
      (ih : ∃ x, (normalizeNewlines a = x ∨ normalizeNewlines a = x ++ [.char '\n']) ∧
        normalizeNewlines (a ++ .char '\n' :: b) = x ++ .char '\n' :: normalizeNewlines b) :
      ∃ x, (normalizeNewlines a' = x ∨ normalizeNewlines a' = x ++ [.char '\n']) ∧
        normalizeNewlines (a' ++ .char '\n' :: b) = x ++ .char '\n' :: normalizeNewlines b := by
    obtain ⟨x, hx, hrest⟩ := ih
    refine ⟨d :: x, ?_, ?_⟩
    · rw [ha]
      rcases hx with hx | hx
      · exact .inl (by rw [hx])
      · exact .inr (by rw [hx, List.cons_append])
    · rw [happend, hrest, List.cons_append]
  have hnewline : CodePoint.char '\n' ≠ .char '\r' := by decide
  induction a using normalizeNewlines.induct with
  | case1 => exact ⟨[], .inl rfl, normalizeNewlines_cons hnewline b⟩
  | case2 a ih => exact hstep rfl rfl ih
  | case3 a hnot ih =>
    have hreturn {t : Text} (h : ∀ rest, t = .char '\n' :: rest → False) :
        normalizeNewlines (.char '\r' :: t) = .char '\n' :: normalizeNewlines t := by
      rw [normalizeNewlines]
      exact h
    cases a with
    | nil =>
      -- the carriage return and the line feed after it end one line together
      exact ⟨[], .inr rfl, rfl⟩
    | cons c a =>
      refine hstep (hreturn hnot) (hreturn ?_) ih
      intro rest heq
      obtain ⟨rfl, -⟩ := List.cons.inj heq
      exact hnot a rfl
  | case4 c a _ hc ih =>
    have hc : c ≠ .char '\r' := hc
    exact hstep (normalizeNewlines_cons hc a) (normalizeNewlines_cons hc _) ih

/-- The lines around a line feed, but for an empty one that a carriage return in front of it may end. -/
theorem forall_physicalLines_append {P : Text → Prop} (hnil : P []) (a b : Text) :
    (∀ line ∈ physicalLines (a ++ .char '\n' :: b), P line) ↔
      (∀ line ∈ physicalLines a, P line) ∧ ∀ line ∈ physicalLines b, P line := by
  obtain ⟨x, hx, happend⟩ := normalizeNewlines_append_newline a b
  have hsame : (∀ line ∈ physicalLines a, P line) ↔ ∀ line ∈ split (.char '\n') x, P line := by
    rw [physicalLines]
    rcases hx with hx | hx
    · rw [hx]
    · have hempty : split (CodePoint.char '\n') [] = [[]] := rfl
      rw [hx, split_append_sep, hempty, List.forall_mem_append, List.forall_mem_singleton]
      exact and_iff_left hnil
  rw [hsame, physicalLines, happend, split_append_sep, List.forall_mem_append, physicalLines]

/-- A text without line ends goes to the first line of what follows it. -/
theorem physicalLines_append {a : Text} (hreturn : .char '\r' ∉ a) (hnewline : .char '\n' ∉ a) (t : Text) :
    ∃ first others, physicalLines t = first :: others ∧ physicalLines (a ++ t) = (a ++ first) :: others := by
  rw [physicalLines, physicalLines, normalizeNewlines_append_of_not_mem hreturn]
  exact split_append_of_not_mem hnewline _

end BlockNotebook.Text
