import BlockNotebook.Proofs.Number.Reading
import BlockNotebook.Text.CodePoint
/-!
Numbers as the language of generated code reads them.

A number has digits of ASCII, with a point among them and an exponent after them or not. Whole numbers are special: they
have no zero in front of another digit, and not too many digits (`IsWhole`). In code a number stands between
gaps, and before the end of its line.
-/

namespace BlockNotebook.Code.Source

open Text

/-! ## The grammar -/

/-- Digits, with single low lines between them. -/
inductive DigitPart : List Char → Prop
  | last {d : Char} (hd : isAsciiDigit d) : DigitPart [d]
  | next {d : Char} {ds : List Char} (hd : isAsciiDigit d) (h : DigitPart ds) : DigitPart (d :: ds)
  | spaced {d : Char} {ds : List Char} (hd : isAsciiDigit d) (h : DigitPart ds) : DigitPart (d :: '_' :: ds)

/-- The mark of an exponent, a sign or none, and digits. -/
inductive Exponent : List Char → Prop
  | mk {mark : Char} {sign ds : List Char} (hmark : mark = 'e' ∨ mark = 'E') (hsign : sign ∈ [[], ['-'], ['+']])
      (hds : DigitPart ds) : Exponent (mark :: (sign ++ ds))

/-- Digits with a point before, after or among them. -/
inductive PointFloat : List Char → Prop
  | before {fs : List Char} (hfs : DigitPart fs) : PointFloat ('.' :: fs)
  | after {ds : List Char} (hds : DigitPart ds) : PointFloat (ds ++ ['.'])
  | among {ds fs : List Char} (hds : DigitPart ds) (hfs : DigitPart fs) : PointFloat (ds ++ '.' :: fs)

/-- A number without a sign. A whole number begins with no zero, unless it has only zeros, and is not too long. -/
inductive Numeral : List Char → Prop
  | whole {d : Char} {ds : List Char} (h : DigitPart (d :: ds)) (hd : d ≠ '0')
      (hlength : ((d :: ds).filter isAsciiDigit).length ≤ Number.maxDigits) : Numeral (d :: ds)
  | zero {ds : List Char} (h : DigitPart ds) (hzeros : ∀ c ∈ ds, c = '0' ∨ c = '_') : Numeral ds
  | point {cs : List Char} (h : PointFloat cs) : Numeral cs
  | exponent {cs es : List Char} (h : DigitPart cs ∨ PointFloat cs) (hes : Exponent es) : Numeral (cs ++ es)

inductive SignedNumeral : List Char → Prop
  | unsigned {cs : List Char} (h : Numeral cs) : SignedNumeral cs
  | signed {s : Char} {cs : List Char} (hs : s = '-' ∨ s = '+') (h : Numeral cs) : SignedNumeral (s :: cs)

/-- A character that parts what stands on one line. -/
def isGap (c : Char) : Bool := c == ' ' || c == '\t' || c == '\x0c'

def endsLine (c : Char) : Bool := c == '\n' || c == '\r'

/-- The text is one number on the line that it begins, with gaps around it and perhaps empty lines after it. -/
def ReadsNumber (t : Text) : Prop :=
  ∃ before number after, t = ofChars (before ++ number ++ after) ∧ (∀ c ∈ before, isGap c) ∧ SignedNumeral number ∧
    ∀ c ∈ after, isGap c || endsLine c

/-! ## Characters of numbers -/

/-- A character that stands in numbers. -/
def isNumeralChar (c : Char) : Bool := isAsciiDigit c || ['_', '.', 'e', 'E', '-', '+'].contains c

/-- They are no blanks, and the only decimals among them are those of ASCII. -/
theorem isNumeralChar_plain {c : Char} (h : isNumeralChar c) : isBlank c = false ∧ (isDecimal c → isAsciiDigit c) := by
  have hall : ∀ n < 128, isNumeralChar (Char.ofNat n) →
      isBlank (Char.ofNat n) = false ∧ (isDecimal (Char.ofNat n) → isAsciiDigit (Char.ofNat n)) := by decide +kernel
  have hlt : c.toNat < 128 := by
    rcases Bool.or_eq_true_iff.1 h with h | h
    · exact Number.toNat_lt_of_isAsciiDigit h
    · have hmem := List.contains_iff_mem.1 h
      simp only [List.mem_cons, List.not_mem_nil, or_false] at hmem
      rcases hmem with rfl | rfl | rfl | rfl | rfl | rfl <;> decide
  exact @Number.forall_ascii (fun c => isNumeralChar c → isBlank c = false ∧ (isDecimal c → isAsciiDigit c)) hall _ hlt h

theorem isNumeralChar_of_isAsciiDigit {c : Char} (h : isAsciiDigit c) : isNumeralChar c := by simp [isNumeralChar, h]

theorem DigitPart.chars {cs : List Char} (h : DigitPart cs) : ∀ c ∈ cs, isNumeralChar c := by
  induction h with
  | last hd => simpa using isNumeralChar_of_isAsciiDigit hd
  | next hd _ ih => exact List.forall_mem_cons.2 ⟨isNumeralChar_of_isAsciiDigit hd, ih⟩
  | spaced hd _ ih =>
    exact List.forall_mem_cons.2 ⟨isNumeralChar_of_isAsciiDigit hd, List.forall_mem_cons.2 ⟨rfl, ih⟩⟩

theorem Exponent.chars {cs : List Char} (h : Exponent cs) : ∀ c ∈ cs, isNumeralChar c := by
  obtain ⟨hmark, hsign, hds⟩ := h
  refine List.forall_mem_cons.2 ⟨by rcases hmark with rfl | rfl <;> rfl, List.forall_mem_append.2 ⟨?_, hds.chars⟩⟩
  have hall : ∀ sign ∈ [[], ['-'], ['+']], sign.all isNumeralChar := by decide
  exact List.all_eq_true.1 (hall _ hsign)

theorem PointFloat.chars {cs : List Char} (h : PointFloat cs) : ∀ c ∈ cs, isNumeralChar c := by
  cases h with
  | before hfs => exact List.forall_mem_cons.2 ⟨rfl, hfs.chars⟩
  | after hds => exact List.forall_mem_append.2 ⟨hds.chars, List.forall_mem_singleton.2 rfl⟩
  | among hds hfs => exact List.forall_mem_append.2 ⟨hds.chars, List.forall_mem_cons.2 ⟨rfl, hfs.chars⟩⟩

theorem Numeral.chars {cs : List Char} (h : Numeral cs) : ∀ c ∈ cs, isNumeralChar c := by
  cases h with
  | whole h _ _ => exact h.chars
  | zero h _ => exact h.chars
  | point h => exact h.chars
  | exponent h hes => exact List.forall_mem_append.2 ⟨h.elim DigitPart.chars PointFloat.chars, hes.chars⟩

theorem SignedNumeral.chars {cs : List Char} (h : SignedNumeral cs) : ∀ c ∈ cs, isNumeralChar c := by
  cases h with
  | unsigned h => exact h.chars
  | signed hs h => exact List.forall_mem_cons.2 ⟨by rcases hs with rfl | rfl <;> rfl, h.chars⟩

/-- A number between blanks is what is left when they are taken off. -/
theorem SignedNumeral.isTrimmed {before number after : List Char} (h : SignedNumeral number)
    (hblank : ∀ c ∈ before ++ after, isBlank c) : IsTrimmed isBlank (before ++ number ++ after) number where
  around := ⟨before, after, rfl, hblank⟩
  head c hc := (isNumeralChar_plain (h.chars c (List.mem_of_mem_head? hc))).1
  last c hc := (isNumeralChar_plain (h.chars c (List.mem_of_getLast? hc))).1

/-! ## Heads -/

theorem DigitPart.head {cs : List Char} (h : DigitPart cs) : ∃ d ds, cs = d :: ds ∧ isAsciiDigit d := by
  cases h with
  | last hd | next hd _ | spaced hd _ => exact ⟨_, _, rfl, hd⟩

theorem PointFloat.head {cs : List Char} (h : PointFloat cs) : ∃ d ds, cs = d :: ds ∧ (isAsciiDigit d ∨ d = '.') := by
  cases h with
  | before _ => exact ⟨_, _, rfl, .inr rfl⟩
  | after hds | among hds _ =>
    obtain ⟨d, ds, rfl, hd⟩ := hds.head
    exact ⟨d, _, rfl, .inl hd⟩

theorem Numeral.head {cs : List Char} (h : Numeral cs) : ∃ d ds, cs = d :: ds ∧ (isAsciiDigit d ∨ d = '.') := by
  have hdigits {cs : List Char} (h : DigitPart cs) : ∃ d ds, cs = d :: ds ∧ (isAsciiDigit d ∨ d = '.') := by
    obtain ⟨d, ds, hcs, hd⟩ := h.head
    exact ⟨d, ds, hcs, .inl hd⟩
  cases h with
  | whole h _ _ => exact hdigits h
  | zero h _ => exact hdigits h
  | point h => exact h.head
  | exponent h _ =>
    obtain ⟨d, ds, rfl, hd⟩ := h.elim hdigits PointFloat.head
    exact ⟨d, _, rfl, hd⟩

theorem SignedNumeral.ne_nil {cs : List Char} (h : SignedNumeral cs) : cs ≠ [] := by
  cases h with
  | unsigned h =>
    obtain ⟨d, ds, rfl, -⟩ := h.head
    exact List.cons_ne_nil d ds
  | signed _ _ => exact List.cons_ne_nil _ _

/-- The sign of a number is all that comes before the number itself. -/
theorem SignedNumeral.splitSign {cs : List Char} (h : SignedNumeral cs) : Numeral (Number.splitSign cs).2 := by
  cases h with
  | unsigned h =>
    obtain ⟨d, ds, rfl, hd⟩ := h.head
    have hnone : Number.splitSign (d :: ds) = (false, d :: ds) := by
      unfold Number.splitSign
      split
      · next hcs => cases hcs; exact absurd hd (by decide)
      · next hcs => cases hcs; exact absurd hd (by decide)
      · rfl
    rwa [hnone]
  | signed hs h => rcases hs with rfl | rfl <;> exact h

/-! ## Whole numbers -/

/-- A run of digits is a whole number if it has nothing but zeros, or begins with none and is not too long. -/
def IsWhole (ds : List Char) : Prop := (ds.head? ≠ some '0' ∧ ds.length ≤ Number.maxDigits) ∨ ∀ c ∈ ds, c = '0'

theorem Numeral.isWhole {cs : List Char} (h : Numeral cs) (hcs : ∀ c ∈ cs, isAsciiDigit c) : IsWhole cs := by
  cases h with
  | @whole d ds _ hd hlength =>
    rw [List.filter_eq_self.2 hcs] at hlength
    exact .inl ⟨fun he => hd (Option.some_inj.1 he), hlength⟩
  | zero _ hzeros =>
    refine .inr fun c hc => (hzeros c hc).resolve_right ?_
    rintro rfl
    exact absurd (hcs _ hc) (by decide)
  | point h =>
    have hpoint : '.' ∈ cs := by cases h <;> simp
    exact absurd (hcs _ hpoint) (by decide)
  | exponent _ hes =>
    obtain ⟨hmark, -, -⟩ := hes
    have hdigit := hcs _ (List.mem_append_right _ List.mem_cons_self)
    rcases hmark with rfl | rfl <;> exact absurd hdigit (by decide)

theorem DigitPart.of_digits {ds : List Char} (hne : ds ≠ []) (h : ∀ c ∈ ds, isAsciiDigit c) : DigitPart ds := by
  induction ds with
  | nil => exact absurd rfl hne
  | cons d ds ih =>
    obtain ⟨hd, hds⟩ := List.forall_mem_cons.1 h
    by_cases hrest : ds = []
    · subst hrest
      exact .last hd
    · exact .next hd (ih hrest hds)

/-- Digits with a point somewhere are a number, but for the point alone. -/
theorem PointFloat.of_digits {whole fraction : List Char} (hwhole : ∀ c ∈ whole, isAsciiDigit c)
    (hfraction : ∀ c ∈ fraction, isAsciiDigit c) (hne : whole ++ fraction ≠ []) : PointFloat (whole ++ '.' :: fraction) := by
  by_cases hw : whole = []
  · subst hw
    exact .before (.of_digits hne hfraction)
  · by_cases hf : fraction = []
    · subst hf
      exact .after (.of_digits hw hwhole)
    · exact .among (.of_digits hw hwhole) (.of_digits hf hfraction)

theorem Numeral.of_digits {ds : List Char} (hne : ds ≠ []) (h : ∀ c ∈ ds, isAsciiDigit c) (hwhole : IsWhole ds) :
    Numeral ds := by
  have hpart := DigitPart.of_digits hne h
  rcases hwhole with ⟨hhead, hlength⟩ | hzeros
  · obtain ⟨d, rest, rfl, -⟩ := hpart.head
    refine .whole hpart (fun hd => hhead (congrArg some hd)) ?_
    rwa [List.filter_eq_self.2 h]
  · exact .zero hpart fun c hc => .inl (hzeros c hc)

end BlockNotebook.Code.Source
