import BlockNotebook.Proofs.Notebook.Script
import BlockNotebook.Proofs.Text.WholeLine
/-!
The fences around code in a document.

A fence of three backticks goes on to the first line that closes it (`Fenced`): one of backticks, three at
least, with no more than three spaces before them and none but spaces behind. The renderer puts a line of
three backticks below every text of code. That is the line at which the fence ends if no line of the text
closes it, and only then: a text that has such a line leaves its fence there.
-/

namespace BlockNotebook.Compiled

open Text

/-! ## Fences -/

/-- The line closes a fence of three backticks. -/
def ClosesFence (line : Text) : Prop :=
  ∃ indent marks blanks, indent ≤ 3 ∧ 3 ≤ marks ∧
    line = List.replicate indent (.char ' ') ++ List.replicate marks (.char '\x60') ++ List.replicate blanks (.char ' ')

/-- The contents of a fence, in a text that follows the line that opens it: they end above the first line that closes
the fence. -/
structure Fenced (t contents closing rest : Text) : Prop where
  place : WholeLine t contents closing rest
  closes : ClosesFence closing
  first : ∀ line ∈ physicalLines contents, ¬ ClosesFence line

theorem ClosesFence.ne_nil {line : Text} (h : ClosesFence line) : line ≠ [] := by
  obtain ⟨indent, marks, blanks, -, hmarks, rfl⟩ := h
  intro hnil
  have hlength := congrArg List.length hnil
  simp only [List.length_append, List.length_replicate, List.length_nil] at hlength
  omega

/-- The line of three backticks. -/
def fenceLine : Text := Text.ofString "```"

theorem closesFence_fenceLine : ClosesFence fenceLine := ⟨0, 3, 0, by decide, by decide, rfl⟩

theorem wholeLine_fenceLine {body below : Text} (hbelow : ∀ c ∈ below.head?, IsNewline c) :
    WholeLine (body ++ .char '\n' :: (fenceLine ++ below)) (body ++ [.char '\n']) fenceLine below where
  text_eq := by simp
  inside := by unfold IsNewline; decide
  before := by
    intro c hc
    rw [List.getLast?_concat] at hc
    exact .inl (Option.some.inj hc).symm
  after := hbelow

/-- Where a line closes the fence, the fence ends, there or above. -/
theorem exists_fenced {t above line below : Text} (h : WholeLine t above line below) (hcloses : ClosesFence line) :
    ∃ contents closing rest, Fenced t contents closing rest := by
  induction hlength : above.length using Nat.strong_induction_on generalizing above line below with
  | _ n ih =>
    by_cases hfirst : ∀ l ∈ physicalLines above, ¬ ClosesFence l
    · exact ⟨above, line, below, h, hcloses, hfirst⟩
    · push Not at hfirst
      obtain ⟨l, hl, hl'⟩ := hfirst
      obtain ⟨a, b, hplace⟩ := exists_wholeLine hl
      exact ih a.length (hlength ▸ hplace.length_lt hl'.ne_nil) (h.within hplace hl'.ne_nil) hl' rfl

theorem Fenced.unique {t contents closing rest contents' closing' rest' : Text} (h : Fenced t contents closing rest)
    (h' : Fenced t contents' closing' rest') : contents' = contents ∧ closing' = closing ∧ rest' = rest := by
  -- the line that ends the one fence would stand in the other
  have hnot {c l r c' l' r' : Text} (h : Fenced t c l r) (h' : Fenced t c' l' r') : ¬ c.length < c'.length :=
    fun hlt => h'.first l (h.place.above_mem h'.place h.closes.ne_nil hlt) h.closes
  have hlength : contents'.length = contents.length := le_antisymm (not_lt.1 (hnot h h')) (not_lt.1 (hnot h' h))
  have hcontents : contents' = contents := by
    have heq := h'.place.text_eq.symm.trans h.place.text_eq
    rw [List.append_assoc, List.append_assoc] at heq
    exact List.append_inj_left heq hlength
  subst hcontents
  exact ⟨rfl, h.place.eq_of_above h'.place⟩

/-- The line of backticks below a text ends its fence if no line of the text does. -/
theorem fenced_iff {body below : Text} (hbelow : ∀ c ∈ below.head?, IsNewline c) :
    Fenced (body ++ .char '\n' :: (fenceLine ++ below)) (body ++ [.char '\n']) fenceLine below ↔
      ∀ line ∈ physicalLines body, ¬ ClosesFence line := by
  have hlines : (∀ line ∈ physicalLines (body ++ [.char '\n']), ¬ ClosesFence line) ↔
      ∀ line ∈ physicalLines body, ¬ ClosesFence line := by
    have hnil : ¬ ClosesFence [] := fun h => h.ne_nil rfl
    rw [forall_physicalLines_append hnil body []]
    exact and_iff_left (List.forall_mem_singleton.2 hnil)
  rw [← hlines]
  exact ⟨Fenced.first, fun h => ⟨wholeLine_fenceLine hbelow, closesFence_fenceLine, h⟩⟩

/-! ## Documents -/

/-- Two scripts or documents with an empty line between, if both have something. -/
def beside (a b : Text) : Text := if a = [] then b else if b = [] then a else a ++ .char '\n' :: b

theorem joinParts_eq_nil_iff {parts : List Text} : joinParts parts = [] ↔ parts = [] := by
  cases parts with
  | nil => exact iff_of_true rfl rfl
  | cons part parts =>
    rw [joinParts_cons]
    simp

theorem joinParts_append (parts parts' : List Text) :
    joinParts (parts ++ parts') = beside (joinParts parts) (joinParts parts') := by
  induction parts with
  | nil => rfl
  | cons part parts ih =>
    rw [List.cons_append, joinParts_cons, ih, joinParts_cons]
    simp only [beside, joinParts_eq_nil_iff, List.append_eq_nil_iff]
    by_cases hparts : parts = [] <;> by_cases hparts' : parts' = [] <;> simp [hparts, hparts', joinParts]

theorem document_append (cs cs' : List Compiled) : document (cs ++ cs') = beside (document cs) (document cs') := by
  rw [document, withText, List.filter_append, List.map_append, joinParts_append]
  rfl

theorem document_cons {c : Compiled} (h : c.hasText) (cs : List Compiled) :
    document (c :: cs) = c.documentPart ++ .char '\n' :: (if document cs = [] then [] else .char '\n' :: document cs) := by
  have hkept : withText (c :: cs) = c :: withText cs := by
    simp only [withText_eq, List.filter_cons_of_pos h]
  simp only [document, hkept, List.map_cons, joinParts_cons, joinParts_eq_nil_iff]

theorem document_cons_ne_nil {c : Compiled} (h : c.hasText) (cs : List Compiled) : document (c :: cs) ≠ [] := by
  rw [document_cons h]
  simp

/-- The text of a block of code stands in a document after a line that opens a fence, between what the blocks before
it and after it make. The fence that is opened ends at one line only, and that is the line put below the text if, and
only if, no line of the text closes it. -/
theorem fence_holds_iff {c : Compiled} (hcode : c.language = .code) (htext : c.hasText) (before after : List Compiled) :
    ∃ body below, Stripped c.text body ∧
      below = .char '\n' :: (if document after = [] then [] else .char '\n' :: document after) ∧
      document (before ++ c :: after) = (if document before = [] then [] else document before ++ [.char '\n']) ++
        (Text.ofString "```python\n" ++ (body ++ .char '\n' :: (fenceLine ++ below))) ∧
      ∃ contents closing rest,
        (∀ contents' closing' rest', Fenced (body ++ .char '\n' :: (fenceLine ++ below)) contents' closing' rest' ↔
          contents' = contents ∧ closing' = closing ∧ rest' = rest) ∧
        (contents = body ++ [.char '\n'] ↔ ∀ line ∈ physicalLines body, ¬ ClosesFence line) ∧
        (contents = body ++ [.char '\n'] → closing = fenceLine ∧ rest = below) := by
  refine ⟨c.body, _, c.stripped_body, rfl, ?_, ?_⟩
  · rw [document_append, beside, if_neg (document_cons_ne_nil htext after), document_cons htext, documentPart, hcode]
    split <;> simp [fenceLine, Text.ofString, Text.ofChars]
  · generalize hbelow : CodePoint.char '\n' :: (if document after = [] then [] else .char '\n' :: document after) = below
    have hnewline : ∀ d ∈ below.head?, IsNewline d := by
      rw [← hbelow]
      rintro d hd
      exact .inl (Option.some.inj hd).symm
    obtain ⟨contents, closing, rest, h⟩ := exists_fenced (wholeLine_fenceLine hnewline) closesFence_fenceLine
    have hclosing : contents = c.body ++ [.char '\n'] → closing = fenceLine ∧ rest = below := by
      rintro rfl
      exact (wholeLine_fenceLine hnewline).eq_of_above h.place
    refine ⟨contents, closing, rest, ?_, ?_, hclosing⟩
    · intro contents' closing' rest'
      refine ⟨h.unique, ?_⟩
      rintro ⟨rfl, rfl, rfl⟩
      exact h
    · rw [← fenced_iff hnewline]
      refine ⟨?_, fun h' => (h.unique h').1.symm⟩
      intro hcontents
      obtain ⟨rfl, rfl⟩ := hclosing hcontents
      exact hcontents ▸ h

/-- Code with a fence in a literal. -/
def fenceInText : Compiled :=
  ⟨Text.ofString "a", Text.ofString "code", .code, Text.ofString "s = '''\n```\n'''"⟩

theorem fenceInText_leaves : ∃ t contents closing rest,
    document [fenceInText] = Text.ofString "```python\n" ++ t ∧ Fenced t contents closing rest ∧
      contents ≠ fenceInText.text ++ [.char '\n'] := by
  obtain ⟨body, below, -, rfl, hdocument, contents, closing, rest, hreading, hholds, -⟩ :=
    fence_holds_iff (c := fenceInText) rfl (by decide) [] []
  have hbody : body = fenceInText.text := by
    have hwhole : document [fenceInText] = Text.ofString "```python\n" ++ (fenceInText.text ++ Text.ofString "\n```\n") := by
      decide +kernel
    exact (List.append_cancel_right (List.append_cancel_left (hwhole.symm.trans hdocument))).symm
  subst hbody
  have hcloses : ¬ ∀ line ∈ physicalLines fenceInText.text, ¬ ClosesFence line :=
    fun h => h fenceLine (by decide +kernel) closesFence_fenceLine
  exact ⟨_, contents, closing, rest, hdocument, (hreading contents closing rest).2 ⟨rfl, rfl, rfl⟩,
    fun h => hcloses (hholds.1 h)⟩

end BlockNotebook.Compiled
