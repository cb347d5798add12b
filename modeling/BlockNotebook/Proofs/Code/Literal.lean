import BlockNotebook.Code.Literal
import BlockNotebook.Text.Lines
/-!
How a literal is found again in code.

A reader of code goes by the quotes and backslashes alone: `LiteralBody` is what
may stand between the quotes of one literal. Code determines where the literals
at its head end (`LiteralBody.split`, `listed_split`), and a literal that this
library writes gives back the text it was written for (`unescape_escaped`).
-/

namespace BlockNotebook.Code

open Text

/-- The inside of a literal: a backslash takes the next character with it, a quote that is not taken so ends the
literal, and there is no line feed. -/
inductive LiteralBody : Text → Prop
  | nil : LiteralBody []
  | plain {c : CodePoint} {t : Text} (hbackslash : c ≠ '\\') (hquote : c ≠ '\'') (hline : c ≠ '\n')
      (h : LiteralBody t) : LiteralBody (c :: t)
  | escape {c : CodePoint} {t : Text} (hline : c ≠ '\n') (h : LiteralBody t) : LiteralBody (.char '\\' :: c :: t)

/-- The code point that a backslash and the given one stand for. -/
def escaped? (c : CodePoint) : Option CodePoint :=
  if c == '\\' then some '\\'
  else if c == '\'' then some '\''
  else if c == 'n' then some '\n'
  else none

/-- The text that the inside of a literal stands for. -/
def unescape : Text → Option Text
  | [] => some []
  | [c] => if c == '\\' then none else some [c]
  | c :: d :: rest =>
    if c == '\\' then (escaped? d).bind fun e => (unescape rest).map (e :: ·)
    else (unescape (d :: rest)).map (c :: ·)

/-- The inside of the literal of a text. -/
def escaped (t : Text) : Text := t.flatMap escapePoint

/-- A literal with the given inside. -/
def quoted (body : Text) : Text := .char '\'' :: (body ++ [.char '\''])

/-- A list of literals with the given insides. -/
def listed (bodies : List Text) : Text := .char '[' :: (joinWith ", " (bodies.map quoted) ++ [.char ']'])

theorem escaped_cons (c : CodePoint) (t : Text) : escaped (c :: t) = escapePoint c ++ escaped t := rfl

/-! ## Escapes and back -/

theorem unescape_plain {c : CodePoint} (hc : c ≠ '\\') (t : Text) :
    unescape (c :: t) = (unescape t).map (c :: ·) := by
  cases t with
  | nil => simp [unescape, hc]
  | cons d rest => rw [unescape, if_neg (by simpa using hc)]

theorem unescape_escape {c d : CodePoint} (hc : escaped? c = some d) (t : Text) :
    unescape (.char '\\' :: c :: t) = (unescape t).map (d :: ·) := by
  rw [unescape, if_pos (beq_self_eq_true _), hc]
  rfl

/-- A code point stands in a literal as itself, or as a backslash and one that is no line feed. -/
theorem escapePoint_cases (c : CodePoint) :
    (∃ d, d ≠ .char '\n' ∧ escaped? d = some c ∧ escapePoint c = [.char '\\', d]) ∨
      (c ≠ '\\' ∧ c ≠ '\'' ∧ c ≠ '\n' ∧ escapePoint c = [c]) := by
  by_cases hbackslash : c = '\\'
  · subst hbackslash
    exact .inl ⟨.char '\\', by decide, rfl, rfl⟩
  by_cases hquote : c = '\''
  · subst hquote
    exact .inl ⟨.char '\'', by decide, rfl, rfl⟩
  by_cases hline : c = '\n'
  · subst hline
    exact .inl ⟨.char 'n', by decide, rfl, rfl⟩
  · exact .inr ⟨hbackslash, hquote, hline, by simp [escapePoint, hbackslash, hquote, hline]⟩

theorem escaped_body (t : Text) : LiteralBody (escaped t) := by
  induction t with
  | nil => exact .nil
  | cons c rest ih =>
    rw [escaped_cons]
    rcases escapePoint_cases c with ⟨d, hd, -, he⟩ | ⟨hbackslash, hquote, hline, he⟩
    · rw [he]; exact .escape hd ih
    · rw [he]; exact .plain hbackslash hquote hline ih

theorem LiteralBody.oneLine {body : Text} (h : LiteralBody body) : .char '\n' ∉ body := by
  induction h with
  | nil => exact List.not_mem_nil
  | plain _ _ hline _ ih => exact List.not_mem_cons_of_ne_of_not_mem hline.symm ih
  | escape hline _ ih =>
    exact List.not_mem_cons_of_ne_of_not_mem (by decide) (List.not_mem_cons_of_ne_of_not_mem hline.symm ih)

/-- A literal does not end its line. -/
theorem literal_oneLine (t : Text) : .char '\n' ∉ literal t := by
  have hquote : CodePoint.char '\n' ∉ ofChars ['\''] := by decide
  simp only [literal, List.mem_append, not_or]
  exact ⟨⟨hquote, (escaped_body t).oneLine⟩, hquote⟩

/-- Undoing the escapes of a text gives the text. -/
theorem unescape_escaped (t : Text) : unescape (escaped t) = some t := by
  induction t with
  | nil => rfl
  | cons c rest ih =>
    rw [escaped_cons]
    rcases escapePoint_cases c with ⟨d, -, hd, he⟩ | ⟨hbackslash, -, -, he⟩
    · rw [he, List.cons_append, List.singleton_append, unescape_escape hd, ih]
      rfl
    · rw [he, List.singleton_append, unescape_plain hbackslash, ih]
      rfl

/-! ## Where literals end -/

/-- The literal at the head of code ends at one place only. -/
theorem LiteralBody.split {a b s t : Text} (ha : LiteralBody a) (hb : LiteralBody b)
    (h : a ++ .char '\'' :: s = b ++ .char '\'' :: t) : a = b ∧ s = t := by
  -- Two readers go through the code in step: what one does at a character, the other does too.
  induction ha generalizing b with
  | nil =>
    cases hb with
    | nil => exact ⟨rfl, (List.cons.inj h).2⟩
    | plain _ hquote _ _ => exact absurd (List.cons.inj h).1.symm hquote
    | escape _ _ => exact absurd (List.cons.inj h).1 (by decide)
  | plain hbackslash hquote hline _ ih =>
    cases hb with
    | nil => exact absurd (List.cons.inj h).1 hquote
    | plain _ _ _ hrest =>
      obtain ⟨rfl, hs⟩ := ih hrest (List.cons.inj h).2
      exact ⟨by rw [(List.cons.inj h).1], hs⟩
    | escape _ _ => exact absurd (List.cons.inj h).1 hbackslash
  | escape hline _ ih =>
    cases hb with
    | nil => exact absurd (List.cons.inj h).1 (by decide)
    | plain hbackslash _ _ _ => exact absurd (List.cons.inj h).1.symm hbackslash
    | escape _ hrest =>
      obtain ⟨hd, htail⟩ := List.cons.inj (List.cons.inj h).2
      obtain ⟨rfl, hs⟩ := ih hrest htail
      exact ⟨by rw [hd], hs⟩

/-- What follows the first of some listed literals. -/
def afterFirst (others : List Text) (s : Text) : Text :=
  match others with
  | [] => .char ']' :: s
  | b :: rest => .char ',' :: .char ' ' :: (joinWith ", " ((b :: rest).map quoted) ++ .char ']' :: s)

theorem joinWith_quoted_cons (a : Text) (others : List Text) (s : Text) :
    joinWith ", " ((a :: others).map quoted) ++ .char ']' :: s =
      .char '\'' :: (a ++ .char '\'' :: afterFirst others s) := by
  cases others with
  | nil => simp [joinWith, quoted, afterFirst]
  | cons b rest =>
    have hsep : Text.ofString ", " = [.char ',', .char ' '] := rfl
    simp only [List.map_cons, joinWith_cons_cons, quoted, afterFirst, hsep]
    simp

theorem joinWith_quoted_split {as bs : List Text} (ha : ∀ a ∈ as, LiteralBody a) (hb : ∀ b ∈ bs, LiteralBody b)
    {s t : Text}
    (h : joinWith ", " (as.map quoted) ++ .char ']' :: s = joinWith ", " (bs.map quoted) ++ .char ']' :: t) :
    as = bs ∧ s = t := by
  induction as generalizing bs with
  | nil =>
    cases bs with
    | nil => exact ⟨rfl, (List.cons.inj h).2⟩
    | cons b rest =>
      rw [joinWith_quoted_cons] at h
      exact absurd (List.cons.inj h).1 (by decide)
  | cons a as ih =>
    rw [joinWith_quoted_cons] at h
    cases bs with
    | nil => exact absurd (List.cons.inj h).1 (by decide)
    | cons b bs =>
      rw [joinWith_quoted_cons] at h
      obtain ⟨rfl, hafter⟩ :=
        (ha a List.mem_cons_self).split (hb b List.mem_cons_self) (List.cons.inj h).2
      -- A closing bracket or a comma tells whether another literal follows.
      cases as with
      | nil =>
        cases bs with
        | nil => exact ⟨rfl, (List.cons.inj hafter).2⟩
        | cons _ _ => exact absurd (List.cons.inj hafter).1 (by decide)
      | cons _ _ =>
        cases bs with
        | nil => exact absurd (List.cons.inj hafter).1 (by decide)
        | cons _ _ =>
          obtain ⟨hrest, hs⟩ := ih (fun c hc => ha c (List.mem_cons_of_mem _ hc))
            (fun c hc => hb c (List.mem_cons_of_mem _ hc)) (List.cons.inj (List.cons.inj hafter).2).2
          exact ⟨by rw [hrest], hs⟩

/-- The list of literals at the head of code has its literals and its end in one way only. -/
theorem listed_split {as bs : List Text} (ha : ∀ a ∈ as, LiteralBody a) (hb : ∀ b ∈ bs, LiteralBody b) {s t : Text}
    (h : listed as ++ s = listed bs ++ t) : as = bs ∧ s = t := by
  simp only [listed, List.cons_append, List.append_assoc, List.nil_append] at h
  exact joinWith_quoted_split ha hb (List.cons.inj h).2

theorem quoted_split {a b s t : Text} (ha : LiteralBody a) (hb : LiteralBody b)
    (h : quoted a ++ s = quoted b ++ t) : a = b ∧ s = t := by
  simp only [quoted, List.cons_append, List.append_assoc, List.nil_append] at h
  exact ha.split hb (List.cons.inj h).2

end BlockNotebook.Code
