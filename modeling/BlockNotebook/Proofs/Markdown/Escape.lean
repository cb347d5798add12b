import BlockNotebook.Markdown.Text
import Mathlib.Algebra.Ring.Parity
import Mathlib.Data.List.Induction
import Mathlib.Logic.Function.Basic
/-!
Plain text that stays plain in markdown.

A reader of markdown goes from left to right, and a backslash takes the next character with it: what he takes
at once is a `Piece`. A paragraph is written so that every character that could mean something, and a period at
the very end, is a guarded piece (`pieces_escape`). Whether a character is guarded can also be told from the
backslashes right in front of it: their number is odd (`pieces_append`).
-/

namespace BlockNotebook.Markdown

open Text

/-! ## A reader of markdown -/

/-- What a reader of markdown takes at once: a character, or a character with a backslash in front. -/
inductive Piece
  | plain (c : CodePoint)
  | guarded (c : CodePoint)
  deriving DecidableEq, Repr

/-- What is left of a piece without its backslash. -/
def Piece.point : Piece → CodePoint
  | .plain c => c
  | .guarded c => c

/-- A text as the pieces that are taken from left to right. A backslash with nothing behind it is a plain one. -/
def pieces : Text → List Piece
  | [] => []
  | [c] => [.plain c]
  | c :: d :: rest => if c == '\\' then .guarded d :: pieces rest else .plain c :: pieces (d :: rest)

/-- The text without the backslashes that guard. -/
def unescape (t : Text) : Text := (pieces t).map Piece.point

theorem pieces_plain {c : CodePoint} (hc : c ≠ '\\') (t : Text) : pieces (c :: t) = .plain c :: pieces t := by
  cases t with
  | nil => rfl
  | cons d rest => rw [pieces, if_neg (by simpa using hc)]

theorem pieces_guarded (c : CodePoint) (t : Text) : pieces (.char '\\' :: c :: t) = .guarded c :: pieces t := by
  rw [pieces, if_pos (beq_self_eq_true _)]

/-! ## Backslashes in front of a character -/

/-- The number of backslashes that end a text. -/
def backslashes (t : Text) : Nat := (t.reverse.takeWhile (· == .char '\\')).length

theorem backslashes_concat (t : Text) (c : CodePoint) :
    backslashes (t ++ [c]) = if c = .char '\\' then backslashes t + 1 else 0 := by
  by_cases hc : c = .char '\\' <;> simp [backslashes, hc]

/-- Behind an even number of backslashes a reader starts anew; behind an odd number he takes what comes next
together with the last of them. -/
theorem pieces_append (a : Text) :
    (Even (backslashes a) → ∀ b, pieces (a ++ b) = pieces a ++ pieces b) ∧
      (Odd (backslashes a) → ∃ ps, ∀ c b, pieces (a ++ c :: b) = ps ++ .guarded c :: pieces b) := by
  induction a using List.reverseRecOn with
  | nil => exact ⟨fun _ _ => rfl, fun h => absurd h (by decide)⟩
  | append_singleton a c ih =>
    obtain ⟨heven, hodd⟩ := ih
    rw [backslashes_concat]
    by_cases hc : c = .char '\\'
    · subst hc
      rw [if_pos rfl, Nat.even_add_one, Nat.not_even_iff_odd, Nat.odd_add_one, Nat.not_odd_iff_even]
      constructor
      · intro h b
        obtain ⟨ps, hps⟩ := hodd h
        rw [List.append_assoc, List.singleton_append, hps, hps]
        simp [pieces]
      · intro h
        refine ⟨pieces a, fun d b => ?_⟩
        rw [List.append_assoc, List.singleton_append, heven h, pieces_guarded]
    · rw [if_neg hc]
      refine ⟨fun _ b => ?_, fun h => absurd h (by decide)⟩
      rw [List.append_assoc, List.singleton_append]
      rcases Nat.even_or_odd (backslashes a) with h | h
      · rw [heven h, heven h, pieces_plain hc]
        simp [pieces]
      · obtain ⟨ps, hps⟩ := hodd h
        rw [hps, hps]
        simp [pieces]

/-- A character other than a backslash that is nowhere a plain piece has an odd number of backslashes right in
front of it. -/
theorem odd_backslashes {before after : Text} {c : CodePoint} (hc : c ≠ '\\')
    (h : .plain c ∉ pieces (before ++ c :: after)) : Odd (backslashes before) := by
  by_contra heven
  refine h ?_
  rw [(pieces_append before).1 (Nat.not_odd_iff_even.1 heven), pieces_plain hc]
  simp

/-! ## Paragraphs -/

/-- A code point of a paragraph is guarded if it means something. -/
def pieceOf (c : CodePoint) : Piece := if c.satisfies isSpecial then .guarded c else .plain c

theorem point_pieceOf (c : CodePoint) : (pieceOf c).point = c := by
  unfold pieceOf
  split <;> rfl

theorem pieces_escapeSpecial_append (t s : Text) : pieces (escapeSpecial t ++ s) = t.map pieceOf ++ pieces s := by
  induction t with
  | nil => rfl
  | cons c rest ih =>
    rw [escapeSpecial, List.flatMap_cons, ← escapeSpecial, List.map_cons, List.append_assoc, pieceOf]
    split
    · rw [List.cons_append, List.singleton_append, pieces_guarded, ih]
      rfl
    · next hc =>
      have hbackslash : c ≠ '\\' := by
        rintro rfl
        exact hc (by decide)
      rw [List.singleton_append, pieces_plain hbackslash, ih]
      rfl

theorem getLast?_escapeSpecial (t : Text) : (escapeSpecial t).getLast? = t.getLast? := by
  cases t using List.reverseRecOn with
  | nil => rfl
  | append_singleton u c =>
    rw [escapeSpecial, List.flatMap_append, List.flatMap_singleton]
    split <;> simp

/-- A period at the end of a text is guarded as well. -/
theorem pieces_escape (t : Text) :
    (∃ u, t = u ++ [.char '.'] ∧ pieces (escape t) = u.map pieceOf ++ [.guarded (.char '.')]) ∨
      (t.getLast? ≠ some (.char '.') ∧ pieces (escape t) = t.map pieceOf) := by
  rw [escape, escapeLastPeriod, getLast?_escapeSpecial]
  by_cases hlast : t.getLast? = some (.char '.')
  · obtain ⟨u, rfl⟩ := List.getLast?_eq_some_iff.1 hlast
    refine .inl ⟨u, rfl, ?_⟩
    have hperiod : escapeSpecial (u ++ [.char '.']) = escapeSpecial u ++ [.char '.'] := by
      rw [escapeSpecial, List.flatMap_append]
      rfl
    rw [if_pos (by simp), hperiod, List.dropLast_concat, pieces_escapeSpecial_append]
    rfl
  · refine .inr ⟨hlast, ?_⟩
    have happend := pieces_escapeSpecial_append t []
    rw [List.append_nil] at happend
    rw [if_neg (by simpa using hlast), happend]
    exact List.append_nil _

/-! ## What a paragraph shows -/

/-- The characters that mean something in markdown, apart from the backslash. -/
def markers : List Char := ['*', '_', '`', '[', ']', '(', ')']

/-- Markdown in which a text stands with nothing in it that means anything. -/
structure Protects (written t : Text) : Prop where
  marker : ∀ before c after, c ∈ markers → written = before ++ .char c :: after → Odd (backslashes before)
  period : ∀ before, written = before ++ [.char '.'] → Odd (backslashes before)
  /-- No character that means something is taken without a backslash. -/
  plain : ∀ c, .plain c ∈ pieces written → c.satisfies isSpecial = false
  guarded : ∀ c, .guarded c ∈ pieces written → c.satisfies isSpecial ∨ c = .char '.'
  unescape : unescape written = t

/-- A piece of a paragraph is that of a code point, or the period at the end. -/
theorem mem_pieces_escape {t : Text} {p : Piece} (h : p ∈ pieces (escape t)) :
    (∃ c, p = pieceOf c) ∨ p = .guarded (.char '.') := by
  have hmap {u : Text} (hu : p ∈ u.map pieceOf) : ∃ c, p = pieceOf c := by
    obtain ⟨c, -, hc⟩ := List.mem_map.1 hu
    exact ⟨c, hc.symm⟩
  rcases pieces_escape t with ⟨u, -, hu⟩ | ⟨-, ht⟩
  · rw [hu, List.mem_append, List.mem_singleton] at h
    exact h.imp_left hmap
  · exact .inl (hmap (ht ▸ h))

theorem not_special_of_plain {t : Text} {c : CodePoint} (h : .plain c ∈ pieces (escape t)) :
    c.satisfies isSpecial = false := by
  rcases mem_pieces_escape h with ⟨d, hd⟩ | hperiod
  · unfold pieceOf at hd
    split at hd
    · cases hd
    · next hnot =>
      cases hd
      simpa using hnot
  · cases hperiod

theorem special_of_guarded {t : Text} {c : CodePoint} (h : .guarded c ∈ pieces (escape t)) :
    c.satisfies isSpecial ∨ c = .char '.' := by
  rcases mem_pieces_escape h with ⟨d, hd⟩ | hperiod
  · unfold pieceOf at hd
    split at hd
    · next hspecial =>
      cases hd
      exact .inl hspecial
    · cases hd
  · cases hperiod
    exact .inr rfl

theorem getLast?_pieces_escape (t : Text) : (pieces (escape t)).getLast? ≠ some (.plain (.char '.')) := by
  rcases pieces_escape t with ⟨u, -, hu⟩ | ⟨hlast, ht⟩
  · rw [hu]
    simp
  · rw [ht, List.getLast?_map]
    intro h
    obtain ⟨c, hc, hpiece⟩ := Option.map_eq_some_iff.1 h
    have hpoint : c = .char '.' := by rw [← point_pieceOf c, hpiece]; rfl
    exact hlast (hpoint ▸ hc)

theorem unescape_escape (t : Text) : unescape (escape t) = t := by
  have hpoint : Piece.point ∘ pieceOf = id := funext point_pieceOf
  have hmap (u : Text) : (u.map pieceOf).map Piece.point = u := by
    rw [List.map_map, hpoint, List.map_id]
  rcases pieces_escape t with ⟨u, rfl, hu⟩ | ⟨-, ht⟩
  · rw [unescape, hu, List.map_append, hmap]
    rfl
  · rw [unescape, ht, hmap]

/-- A paragraph is shown as the text that was written, whatever characters it has, and no two texts give the same. -/
theorem escape_protects : (∀ t, Protects (escape t) t) ∧ Function.Injective escape := by
  refine ⟨fun t => ⟨?_, ?_, fun _ => not_special_of_plain, fun _ => special_of_guarded, unescape_escape t⟩, ?_⟩
  · intro before c after hc hwritten
    have hspecial : markers.all fun c => isSpecial c && c != '\\' := by decide
    obtain ⟨hmeans, hbackslash⟩ := Bool.and_eq_true_iff.1 (List.all_eq_true.1 hspecial c hc)
    have hplain : .plain (.char c) ∉ pieces (before ++ .char c :: after) := by
      rw [← hwritten]
      exact fun hplain => absurd (not_special_of_plain hplain) (by simp [CodePoint.satisfies, hmeans])
    exact odd_backslashes (by simpa using hbackslash) hplain
  · intro before hwritten
    by_contra heven
    refine getLast?_pieces_escape t ?_
    rw [hwritten, (pieces_append before).1 (Nat.not_odd_iff_even.1 heven)]
    simp [pieces]
  · exact Function.LeftInverse.injective unescape_escape

end BlockNotebook.Markdown
