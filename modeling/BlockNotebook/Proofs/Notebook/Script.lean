import BlockNotebook.Notebook.Render
import BlockNotebook.Proofs.Text.Lines
import BlockNotebook.Proofs.Text.Trim
import Mathlib.Data.List.Forall2
/-!
What stands in a script.

Every block that has more than line feeds has one part in the script, in its order, and nothing else
has (`PartOf`). The part of a markdown block is a comment, line by line: its lines are those of plain
text, of which a reader of source text sees no more than are marked. So every line of a script that is
neither empty nor a comment is a line of code of some block.
-/

namespace BlockNotebook.Compiled

open Text

/-! ## Parts -/

/-- `body` is the text without the line feeds at its ends. -/
structure Stripped (t body : Text) : Prop where
  around : ∃ above below, t = above ++ body ++ below ∧ ∀ c ∈ above ++ below, c = .char '\n'
  head : body.head? ≠ some (.char '\n')
  last : body.getLast? ≠ some (.char '\n')

/-- The line of a script that shows a line of text: it is marked as a comment, and holds all of the
text but the blanks at its end. -/
structure CommentOf (line shown : Text) : Prop where
  mark : shown.head? = some (.char '#')
  holds : ∃ blanks : Text, "# " ++ line = shown ++ blanks ∧ ∀ c ∈ blanks, c.satisfies isBlank

/-- What a block adds to a script: its text as it is if that is code, or else a comment for each line. -/
inductive PartOf (c : Compiled) : Text → Prop
  | code {body : Text} (h : c.language = .code) (hbody : Stripped c.text body) : PartOf c body
  | markdown {body part : Text} (h : c.language = .markdown) (hbody : Stripped c.text body)
      (hlines : List.Forall₂ CommentOf (lines body) (physicalLines part)) : PartOf c part

/-- The block has something other than line feeds. -/
def hasText (c : Compiled) : Bool := c.text.any (· != .char '\n')

theorem stripped_body (c : Compiled) : Stripped c.text c.body := by
  obtain ⟨above, below, htext, hall⟩ := exists_trim (· == .char '\n') c.text
  refine ⟨⟨above, below, htext, fun d hd => eq_of_beq (hall d hd)⟩, ?_, ?_⟩
  · intro h
    simpa using head?_trim _ _ h
  · intro h
    simpa using getLast?_trim _ _ h

theorem body_eq_nil_iff (c : Compiled) : c.body = [] ↔ c.hasText = false := by
  rw [body, trim_eq_nil_iff]
  simp [hasText]

theorem withText_eq (cs : List Compiled) : withText cs = cs.filter hasText := by
  apply List.filter_congr
  intro c _
  rw [Bool.eq_iff_iff, ← Bool.not_eq_false c.hasText, ← body_eq_nil_iff]
  simp

/-! ## Comments -/

/-- A line as a comment. -/
def commentLine (line : Text) : Text := trimEnd (·.satisfies isBlank) ("# " ++ line)

theorem commentLine_shows (line : Text) : CommentOf line (commentLine line) := by
  obtain ⟨blanks, hsplit, hblanks⟩ := exists_trimEnd (·.satisfies isBlank) ("# " ++ line : Text)
  refine ⟨?_, blanks, hsplit, hblanks⟩
  -- the mark is no blank, so something is left, and that begins with it
  cases hshown : trimEnd (·.satisfies isBlank) ("# " ++ line : Text) with
  | nil =>
    rw [hshown, List.nil_append] at hsplit
    have hmark : (CodePoint.char '#').satisfies isBlank := hblanks _ (hsplit ▸ List.mem_cons_self)
    exact absurd hmark (by decide)
  | cons c rest =>
    rw [hshown] at hsplit
    obtain ⟨rfl, -⟩ := List.cons.inj hsplit
    rw [commentLine, hshown]
    rfl

theorem not_isLineEnd_of_mem_commentLine {line : Text} (h : ∀ c ∈ line, c.satisfies isLineEnd = false) :
    ∀ c ∈ commentLine line, c.satisfies isLineEnd = false := by
  obtain ⟨blanks, hsplit, -⟩ := (commentLine_shows line).holds
  have hmark : ∀ c ∈ Text.ofString "# ", c.satisfies isLineEnd = false := by decide
  intro c hc
  have hmem : c ∈ Text.ofString "# " ++ line := hsplit ▸ List.mem_append_left _ hc
  rcases List.mem_append.1 hmem with hc | hc
  · exact hmark c hc
  · exact h c hc

/-- A reader of source text sees the lines that were marked, and no others. -/
theorem physicalLines_comment {t : Text} (h : t ≠ []) : physicalLines (comment t) = (lines t).map commentLine := by
  apply physicalLines_joinWith
  · simpa using lines_ne_nil h
  · intro l hl
    obtain ⟨line, hline, rfl⟩ := List.mem_map.1 hl
    exact not_isLineEnd_of_mem_commentLine (not_isLineEnd_of_mem_lines hline)

theorem body_ne_nil {c : Compiled} (h : c.hasText) : c.body ≠ [] := by
  intro hnil
  rw [body_eq_nil_iff, h] at hnil
  cases hnil

theorem partOf_scriptPart {c : Compiled} (h : c.hasText) : PartOf c c.scriptPart := by
  rw [scriptPart]
  cases hlanguage : c.language with
  | code => exact .code hlanguage c.stripped_body
  | markdown =>
    refine .markdown hlanguage c.stripped_body ?_
    rw [physicalLines_comment (body_ne_nil h), List.forall₂_map_right_iff, List.forall₂_same]
    intro line _
    exact commentLine_shows line

/-! ## Lines of parts put together -/

theorem joinParts_cons (part : Text) (parts : List Text) :
    joinParts (part :: parts) =
      part ++ .char '\n' :: (if parts = [] then [] else .char '\n' :: joinParts parts) := by
  cases parts with
  | nil => rfl
  | cons next parts =>
    simp only [joinParts, List.isEmpty_cons, joinWith_cons_cons, List.append_assoc]
    rfl

/-- Blank lines aside, the lines of the whole are the lines of its parts. -/
theorem forall_physicalLines_joinParts {P : Text → Prop} (hnil : P []) (parts : List Text) :
    (∀ line ∈ physicalLines (joinParts parts), P line) ↔ ∀ part ∈ parts, ∀ line ∈ physicalLines part, P line := by
  have hempty : ∀ line ∈ physicalLines [], P line := by
    intro line hline
    rw [List.mem_singleton.1 hline]
    exact hnil
  have hnewline (t : Text) : (∀ line ∈ physicalLines (.char '\n' :: t), P line) ↔ ∀ line ∈ physicalLines t, P line :=
    (forall_physicalLines_append hnil [] t).trans (and_iff_right hempty)
  induction parts with
  | nil => exact iff_of_true hempty nofun
  | cons part parts ih =>
    rw [joinParts_cons, forall_physicalLines_append hnil, List.forall_mem_cons]
    apply and_congr_right'
    by_cases hparts : parts = []
    · rw [if_pos hparts, hparts]
      exact iff_of_true hempty nofun
    · rw [if_neg hparts, hnewline]
      exact ih

/-! ## Scripts -/

/-- The line is empty, or a comment, or a line of the code of a block. -/
def IsAccounted (cs : List Compiled) (line : Text) : Prop :=
  line = [] ∨ line.head? = some (.char '#') ∨
    ∃ c ∈ cs, c.language = .code ∧ ∃ body, Stripped c.text body ∧ line ∈ physicalLines body

theorem accounted_of_scriptPart {cs : List Compiled} {c : Compiled} (hc : c ∈ cs) (h : c.hasText) :
    ∀ line ∈ physicalLines c.scriptPart, IsAccounted cs line := by
  intro line hline
  rw [scriptPart] at hline
  cases hlanguage : c.language with
  | code =>
    rw [hlanguage] at hline
    exact .inr (.inr ⟨c, hc, hlanguage, c.body, c.stripped_body, hline⟩)
  | markdown =>
    rw [hlanguage] at hline
    simp only [physicalLines_comment (body_ne_nil h)] at hline
    obtain ⟨marked, -, rfl⟩ := List.mem_map.1 hline
    exact .inr (.inl (commentLine_shows marked).mark)

/-- A script is made of one part for each block that has more than line feeds, in order, with blank
lines between and a line feed at the end. Code stands in it as it is, and markdown as comments, one
for each line. So no line of a script is code but those of code. -/
theorem script_shows (cs : List Compiled) :
    (∃ parts, List.Forall₂ PartOf (cs.filter hasText) parts ∧
      script cs = if parts = [] then [] else joinWith (Text.ofString "\n\n") parts ++ Text.ofString "\n") ∧
    ∀ line ∈ physicalLines (script cs), IsAccounted cs line := by
  constructor
  · refine ⟨(cs.filter hasText).map scriptPart, ?_, ?_⟩
    · rw [List.forall₂_map_right_iff, List.forall₂_same]
      intro c hc
      exact partOf_scriptPart (List.mem_filter.1 hc).2
    · rw [script, withText_eq, joinParts]
      simp only [List.isEmpty_iff]
      rfl
  · rw [script, withText_eq, forall_physicalLines_joinParts (P := IsAccounted cs) (.inl rfl)]
    intro part hpart
    obtain ⟨c, hc, rfl⟩ := List.mem_map.1 hpart
    obtain ⟨hmem, htext⟩ := List.mem_filter.1 hc
    exact accounted_of_scriptPart hmem htext

/-- Markdown with four kinds of line ends, a block of line feeds only, and code. -/
def mixedBlocks : List Compiled := [
  ⟨Text.ofString "a", Text.ofString "markdown", .markdown, Text.ofString "one\x0btwo \u2028three\r\nfour\rfive\n"⟩,
  ⟨Text.ofString "b", Text.ofString "markdown", .markdown, Text.ofString "\n\n"⟩,
  ⟨Text.ofString "c", Text.ofString "code", .code, Text.ofString "\n\nx = 1\n"⟩]

theorem mixedBlocks_shown :
    script mixedBlocks = Text.ofString "# one\n# two\n# three\n# four\n# five\n\nx = 1\n" ∧
      Text.ofString "# three" ∈ physicalLines (script mixedBlocks) ∧
      IsAccounted mixedBlocks (Text.ofString "# three") := by
  have hmem : Text.ofString "# three" ∈ physicalLines (script mixedBlocks) := by decide +kernel
  exact ⟨by decide +kernel, hmem, (script_shows mixedBlocks).2 _ hmem⟩

end BlockNotebook.Compiled
