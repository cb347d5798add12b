import BlockNotebook.Proofs.Code.Literal
import BlockNotebook.Text.Digit
/-!
Literals as the language of generated code reads them.

`evaluate?` reads source text that is one string literal: first the literal is
found, by its quotes, the backslashes and the ends of lines, then its escapes are
undone. `evaluate?_literal` says of which texts the literals of this library read
back: of all that hold no carriage return, no NUL and no surrogate. The literal
of any other text is no literal at all.
-/

namespace BlockNotebook.Code

open Text

namespace Source

/-! ## Source text -/

/-- Source text holds no NUL, and has to have bytes. -/
def isForeign (c : CodePoint) : Bool := c.isSurrogate || c == '\x00'

/-! ## Where a literal ends -/

/-- The inside of a literal up to the quotes that close it, and what follows. A backslash takes the next code point
with it; a literal between single marks ends before its line does. -/
def body? (quote : CodePoint) (long : Bool) : Text → Option (Text × Text)
  | [] => none
  | .char '\\' :: c :: rest => (body? quote long rest).map fun r => (.char '\\' :: c :: r.1, r.2)
  | c :: rest =>
    if c == quote && (!long || rest.take 2 == [quote, quote]) then
      some ([], if long then rest.drop 2 else rest)
    else if c == '\n' && !long then none
    else (body? quote long rest).map fun r => (c :: r.1, r.2)

/-- The inside of the literal at the head of a text, and what follows: between quotes, or between three and three. -/
def literal? : Text → Option (Text × Text)
  | [] => none
  | quote :: rest =>
    if !(quote == '\'' || quote == '"') then none
    else if rest.take 2 == [quote, quote] then body? quote true (rest.drop 2)
    else body? quote false rest

/-! ## What an escape stands for -/

/-- The letters and marks that stand for one code point after a backslash. -/
def letters : List (Char × Char) := [
  ('\\', '\\'), ('\'', '\''), ('"', '"'), ('a', '\x07'), ('b', '\x08'), ('f', '\x0c'), ('n', '\n'), ('r', '\r'),
  ('t', '\t'), ('v', '\x0b')]

def letter? : CodePoint → Option Char
  | .char c => letters.lookup c
  | .surrogate _ => none

/-- The value of a digit of a base, in ASCII. -/
def digit? (base : Nat) : CodePoint → Option Nat
  | .char c =>
    if isAsciiDigit c || isAsciiLetter c then (alphanumericValue? c).filter fun n => decide (n < base) else none
  | .surrogate _ => none

/-- The number that digits spell. -/
def ofDigits (base : Nat) (ds : List Nat) : Nat := ds.foldl (fun n d => n * base + d) 0

/-- The code point whose number is given by so many digits in base sixteen, and how much of the text that takes. -/
def numeric? (count : Nat) (t : Text) : Option (Text × Nat) :=
  match (t.take count).mapM (digit? 16) with
  | none => none
  | some ds =>
    if ds.length < count then none
    else (CodePoint.ofValue? (ofDigits 16 ds)).map fun c => ([c], count + 1)

/-- At most three digits in base eight. -/
def octal (t : Text) : List Nat := ((t.take 3).takeWhile fun c => (digit? 8 c).isSome).filterMap (digit? 8)

/-- What the text after a backslash makes of it, and how many code points it takes for that. The code points that
have names are given by `named`. A backslash stays if what follows has no meaning. -/
def escape? (named : Text → Option CodePoint) : Text → Option (Text × Nat)
  | [] => none
  | .char '\n' :: _ => some ([], 1)
  | .char 'x' :: rest => numeric? 2 rest
  | .char 'u' :: rest => numeric? 4 rest
  | .char 'U' :: rest => numeric? 8 rest
  | .char 'N' :: rest =>
    let name := (rest.drop 1).takeWhile (· != .char '\x7d')
    if rest.head? == some (.char '\x7b') && !name.isEmpty && name.length + 1 < rest.length then
      (named name).map fun c => ([c], name.length + 3)
    else none
  | c :: rest =>
    match letter? c, octal (c :: rest) with
    | some x, _ => some ([.char x], 1)
    | none, [] => some ([.char '\\'], 0)
    | none, d :: ds => (CodePoint.ofValue? (ofDigits 8 (d :: ds))).map fun x => ([x], ds.length + 1)

/-- What the inside of a literal stands for, after some code points that an escape has taken. -/
def value? (named : Text → Option CodePoint) : Nat → Text → Option Text
  | _, [] => some []
  | taken + 1, _ :: rest => value? named taken rest
  | 0, c :: rest =>
    if c == '\\' then (escape? named rest).bind fun r => (value? named r.2 rest).map (r.1 ++ ·)
    else (value? named 0 rest).map (c :: ·)

/-- The text that source text stands for, if it is one string literal and nothing else. The ends of lines are line
feeds, whichever way they are written. -/
def evaluate? (named : Text → Option CodePoint) (t : Text) : Option Text :=
  if t.any isForeign then none
  else
    match literal? (normalizeNewlines t) with
    | some (body, []) => value? named 0 body
    | _ => none

/-! ## Ends of lines -/

theorem normalizeNewlines_cons {c : CodePoint} (hc : c ≠ '\r') (t : Text) :
    normalizeNewlines (c :: t) = c :: normalizeNewlines t := by
  rw [normalizeNewlines]
  · rintro _ rfl; exact absurd rfl hc
  · rintro rfl; exact absurd rfl hc

theorem normalizeNewlines_return (t : Text) : ∃ rest, normalizeNewlines (.char '\r' :: t) = .char '\n' :: rest := by
  unfold normalizeNewlines
  split <;> simp_all

/-! ## The literal of a text -/

/-- The three escapes that literals are written with. -/
theorem escaped?_cases {d c : CodePoint} (h : escaped? d = some c) :
    (d = '\\' ∧ c = '\\') ∨ (d = '\'' ∧ c = '\'') ∨ (d = 'n' ∧ c = '\n') := by
  unfold escaped? at h
  split at h
  · simp_all
  · split at h
    · simp_all
    · split at h <;> simp_all

theorem body?_cons {quote c : CodePoint} (hbackslash : c ≠ '\\') (hquote : c ≠ quote) (hline : c ≠ '\n') (t : Text) :
    body? quote false (c :: t) = (body? quote false t).map fun r => (c :: r.1, r.2) := by
  rw [body?.eq_3 _ _ _ _ (fun _ _ h _ => hbackslash h)]
  simp [hquote, hline]

/-- The inside of a literal ends at its closing quote; a carriage return in the text would end the line before. -/
theorem body?_escaped (t s : Text) :
    body? '\'' false (normalizeNewlines (escaped t ++ .char '\'' :: s)) =
      if .char '\r' ∈ t then none else some (escaped t, normalizeNewlines s) := by
  induction t with
  | nil =>
    have hquote : CodePoint.char '\'' ≠ '\r' := by decide
    show body? '\'' false (normalizeNewlines (.char '\'' :: s)) = _
    rw [normalizeNewlines_cons hquote]
    simp [body?, escaped]
  | cons c rest ih =>
    rw [escaped_cons]
    rcases escapePoint_cases c with ⟨d, -, hd, he⟩ | ⟨hbackslash, hquote, hline, he⟩
    · -- Neither the backslash nor the code point after it ends a line, so the two stay together.
      have hnone : d ≠ '\r' ∧ c ≠ '\r' := by
        rcases escaped?_cases hd with ⟨rfl, rfl⟩ | ⟨rfl, rfl⟩ | ⟨rfl, rfl⟩ <;> decide
      have hmark : CodePoint.char '\\' ≠ '\r' := by decide
      have hmem : .char '\r' ∈ c :: rest ↔ .char '\r' ∈ rest := by simp [hnone.2.symm]
      simp only [he, List.cons_append, List.nil_append, normalizeNewlines_cons hmark,
        normalizeNewlines_cons hnone.1, body?, ih, hmem]
      split <;> rfl
    · rw [he, List.singleton_append, List.cons_append]
      by_cases hreturn : c = '\r'
      · subst hreturn
        obtain ⟨after, hafter⟩ := normalizeNewlines_return (escaped rest ++ .char '\'' :: s)
        rw [hafter, if_pos List.mem_cons_self]
        simp [body?]
      · have hmem : .char '\r' ∈ c :: rest ↔ .char '\r' ∈ rest := by simp [Ne.symm hreturn]
        rw [normalizeNewlines_cons hreturn, body?_cons hbackslash hquote hline, ih]
        simp only [hmem]
        split <;> rfl

theorem literal_eq (t : Text) : literal t = .char '\'' :: (escaped t ++ [.char '\'']) := rfl

/-- The literal of a text is no literal between three quotes. -/
theorem literal?_literal (t : Text) :
    literal? (normalizeNewlines (literal t)) = if .char '\r' ∈ t then none else some (escaped t, []) := by
  have hquote : CodePoint.char '\'' ≠ '\r' := by decide
  have hlong : (normalizeNewlines (escaped t ++ [.char '\''])).take 2 ≠ [.char '\'', .char '\''] := by
    -- Of two quotes at the head of the rest, the first would close the literal, with the second left over.
    intro h
    have hclosed (after : Text) :
        body? '\'' false (.char '\'' :: .char '\'' :: after) = some ([], .char '\'' :: after) := rfl
    have hbody := body?_escaped t []
    rw [← List.take_append_drop 2 (normalizeNewlines _), h, List.cons_append, List.singleton_append, hclosed] at hbody
    split at hbody
    · cases hbody
    · cases (Prod.mk.inj (Option.some_inj.1 hbody)).2
  rw [literal_eq, normalizeNewlines_cons hquote]
  simp only [literal?, beq_self_eq_true, Bool.true_or, Bool.not_true, Bool.false_eq_true, ↓reduceIte, beq_iff_eq,
    hlong]
  exact body?_escaped t []

/-- Undoing the escapes of the inside of a literal gives the text. -/
theorem value?_escaped (named : Text → Option CodePoint) (t : Text) : value? named 0 (escaped t) = some t := by
  induction t with
  | nil => rfl
  | cons c rest ih =>
    rw [escaped_cons]
    rcases escapePoint_cases c with ⟨d, -, hd, he⟩ | ⟨hbackslash, -, -, he⟩
    · have hescape : escape? named (d :: escaped rest) = some ([c], 1) := by
        rcases escaped?_cases hd with ⟨rfl, rfl⟩ | ⟨rfl, rfl⟩ | ⟨rfl, rfl⟩ <;> rfl
      simp [he, value?, hescape, ih]
    · simp [he, value?, hbackslash, ih]

theorem any_isForeign_escapePoint (c : CodePoint) : (escapePoint c).any isForeign = isForeign c := by
  rcases escapePoint_cases c with ⟨d, -, hd, he⟩ | ⟨-, -, -, he⟩
  · rw [he]
    rcases escaped?_cases hd with ⟨rfl, rfl⟩ | ⟨rfl, rfl⟩ | ⟨rfl, rfl⟩ <;> rfl
  · simp [he]

/-- A code point that stands for itself in a literal, or that literals have an escape for. -/
def isWritable (c : CodePoint) : Bool := !isForeign c && c != '\r'

/-- What the literal of a text evaluates to: the text, if that holds no carriage return, no NUL and no surrogate. The
literal of any other text is not one string literal. -/
theorem evaluate?_literal (named : Text → Option CodePoint) (t : Text) :
    evaluate? named (literal t) = if t.all isWritable then some t else none := by
  have hforeign : (literal t).any isForeign = t.any isForeign := by
    have hquote : isForeign (.char '\'') = false := rfl
    rw [literal_eq, List.any_cons, List.any_append, List.any_cons, List.any_nil, hquote, escaped, List.any_flatMap,
      funext any_isForeign_escapePoint, Bool.or_false, Bool.or_false, Bool.false_or]
  have hwritable : t.all isWritable ↔ t.any isForeign = false ∧ .char '\r' ∉ t := by
    simp only [List.all_eq_true, isWritable, Bool.and_eq_true, Bool.not_eq_true', bne_iff_ne, List.any_eq_false,
      Bool.not_eq_true, forall_and]
    exact and_congr_right fun _ => ⟨fun h hmem => h _ hmem rfl, fun h c hc he => h (he ▸ hc)⟩
  unfold evaluate?
  rw [hforeign, literal?_literal]
  simp only [hwritable]
  cases t.any isForeign with
  | true => rfl
  | false =>
    by_cases hreturn : .char '\r' ∈ t
    · simp [hreturn]
    · simp [hreturn, value?_escaped]

/-- A carriage return ends the line inside the literal. -/
example : evaluate? (fun _ => none) (literal "\r") = none := rfl

end Source

end BlockNotebook.Code
