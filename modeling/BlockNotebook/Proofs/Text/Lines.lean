import BlockNotebook.Proofs.Text.Physical
/-!
Lines of plain text.

Plain text has more line ends than source text has, so a line of plain text has none that a reader of
source would see: put together by line feeds, lines of plain text are the physical lines of what they
make (`physicalLines_joinWith`).
-/

namespace BlockNotebook.Text

/-! ## Lines of plain text -/

theorem linesFrom_ne_nil {line t : Text} (h : line ≠ [] ∨ t ≠ []) : linesFrom line t ≠ [] := by
  induction line, t using linesFrom.induct with
  | case1 line hline =>
    have hnil : line = [] := List.isEmpty_iff.1 hline
    simp [hnil] at h
  | case2 line hline => rw [linesFrom, if_neg hline]; simp
  | case3 line rest ih => rw [linesFrom]; simp
  | case4 line c rest hnot hend ih => rw [linesFrom, if_pos hend] <;> simp_all
  | case5 line c rest hnot hend ih =>
    rw [linesFrom, if_neg hend]
    · exact ih (.inl (by simp))
    · exact hnot

theorem lines_ne_nil {t : Text} (h : t ≠ []) : lines t ≠ [] := linesFrom_ne_nil (.inr h)

/-- What is held of the first line has no line end, so no line has. -/
theorem not_isLineEnd_of_mem_linesFrom {line t l : Text} (hline : ∀ c ∈ line, c.satisfies isLineEnd = false)
    (hl : l ∈ linesFrom line t) : ∀ c ∈ l, c.satisfies isLineEnd = false := by
  have hreverse {line : Text} (hline : ∀ c ∈ line, c.satisfies isLineEnd = false) :
      ∀ c ∈ line.reverse, c.satisfies isLineEnd = false := fun c hc => hline c (List.mem_reverse.1 hc)
  induction line, t using linesFrom.induct with
  | case1 line hempty =>
    rw [linesFrom, if_pos hempty] at hl
    cases hl
  | case2 line hempty =>
    rw [linesFrom, if_neg hempty, List.mem_singleton] at hl
    subst hl
    exact hreverse hline
  | case3 line rest ih =>
    rw [linesFrom] at hl
    rcases List.mem_cons.1 hl with rfl | hl
    · exact hreverse hline
    · exact ih nofun hl
  | case4 line c rest hnot hend ih =>
    rw [linesFrom, if_pos hend] at hl
    · rcases List.mem_cons.1 hl with rfl | hl
      · exact hreverse hline
      · exact ih nofun hl
    · exact hnot
  | case5 line c rest hnot hend ih =>
    rw [linesFrom, if_neg hend] at hl
    · exact ih (List.forall_mem_cons.2 ⟨by simpa using hend, hline⟩) hl
    · exact hnot

theorem not_isLineEnd_of_mem_lines {t l : Text} (hl : l ∈ lines t) : ∀ c ∈ l, c.satisfies isLineEnd = false := by
  have hnil : ∀ c ∈ ([] : Text), c.satisfies isLineEnd = false := nofun
  exact not_isLineEnd_of_mem_linesFrom hnil hl

/-! ## Lines put together -/

theorem split_of_not_mem {α : Type} [BEq α] [LawfulBEq α] {sep : α} {t : List α} (h : sep ∉ t) : split sep t = [t] := by
  obtain ⟨first, others, hnil, happend⟩ := split_append_of_not_mem h []
  obtain ⟨rfl, rfl⟩ := List.cons.inj (show [[]] = first :: others from hnil)
  simpa using happend

theorem split_joinWith {sep : CodePoint} {ls : List Text} (hne : ls ≠ []) (h : ∀ l ∈ ls, sep ∉ l) :
    split sep (joinWith [sep] ls) = ls := by
  induction ls with
  | nil => exact absurd rfl hne
  | cons l ls ih =>
    obtain ⟨hl, hls⟩ := List.forall_mem_cons.1 h
    cases ls with
    | nil => exact split_of_not_mem hl
    | cons next ls =>
      rw [joinWith_cons_cons, List.append_assoc, List.singleton_append, split_append_sep, split_of_not_mem hl,
        ih (by simp) hls]
      rfl

theorem mem_joinWith {sep : Text} {ls : List Text} {c : CodePoint} (hc : c ∈ joinWith sep ls) :
    c ∈ sep ∨ ∃ l ∈ ls, c ∈ l := by
  cases ls with
  | nil => cases hc
  | cons l ls =>
    rw [joinWith_cons, List.mem_append, List.mem_flatten] at hc
    rcases hc with hc | ⟨piece, hpiece, hc⟩
    · exact .inr ⟨l, List.mem_cons_self, hc⟩
    · obtain ⟨l', hl', rfl⟩ := List.mem_map.1 hpiece
      rcases List.mem_append.1 hc with hc | hc
      · exact .inl hc
      · exact .inr ⟨l', List.mem_cons_of_mem _ hl', hc⟩

/-- Lines of plain text joined by line feeds are the physical lines of what they make. -/
theorem physicalLines_joinWith {ls : List Text} (hne : ls ≠ [])
    (h : ∀ l ∈ ls, ∀ c ∈ l, c.satisfies isLineEnd = false) : physicalLines (joinWith ['\n'] ls) = ls := by
  have hnone {d : Char} (hd : isLineEnd d = true) : ∀ l ∈ ls, CodePoint.char d ∉ l := by
    intro l hl hmem
    have hfalse := h l hl _ hmem
    rw [CodePoint.satisfies, hd] at hfalse
    cases hfalse
  have hreturn : CodePoint.char '\r' ∉ joinWith ['\n'] ls := by
    intro hmem
    rcases mem_joinWith hmem with hsep | ⟨l, hl, hmem⟩
    · revert hsep
      decide
    · exact hnone (by decide) l hl hmem
  have hnormal : normalizeNewlines (joinWith ['\n'] ls) = joinWith ['\n'] ls := by
    simpa [normalizeNewlines] using normalizeNewlines_append_of_not_mem hreturn []
  rw [physicalLines, hnormal]
  exact split_joinWith hne (hnone (by decide))

end BlockNotebook.Text
