import BlockNotebook.Proofs.Number.Reading
import BlockNotebook.Proofs.Text.Split
import BlockNotebook.Yaml.Scalar
/-!
What is left of a number without its sign and its low lines.

Nearly every text that shows the tag of a number is one. `Strained` lists what
the others have.
-/

namespace BlockNotebook.Yaml.Scalar

open Text Tag

/-- The words for infinity and not-a-number, with or without a sign. -/
def isFloatWord (cs : List Char) : Bool := isOneOf [".inf", ".Inf", ".INF", ".nan", ".NaN", ".NAN"] (dropSign cs)

/-- What a text has that is not data of the tag it shows. -/
inductive Strained : List Char → Prop
  /-- A line feed after a word. -/
  | ended {word : List Char} (h : isFlagText word ∨ isFloatWord word) : Strained (word ++ ['\n'])
  /-- The mark of a base, and then low lines only. -/
  | noDigits {cs lines : List Char} {mark : Char} (hmark : mark = 'b' ∨ mark = 'x')
      (hcs : dropSign (dropLastLineFeed cs) = '0' :: mark :: lines) (hlines : lines.all (· == '_')) : Strained cs
  /-- More digits in a row than a whole number in base ten may have. -/
  | tooLong {cs ds : List Char} (hds : ds <:+: cs.filter (· != '_')) (hdigits : ds.all isAsciiDigit)
      (hlong : Number.maxDigits < ds.length) : Strained cs
  /-- More parts in base sixty than a floating point number can have. -/
  | tooManyParts {cs : List Char} (hpoint : '.' ∈ cs) (hparts : 174 ≤ cs.count ':') : Strained cs

/-! ## Low lines -/

/-- The characters other than low lines. -/
def strip (cs : List Char) : List Char := cs.filter (· != '_')

theorem withoutLines_ofChars (cs : List Char) : withoutLines (ofChars cs) = ofChars (strip cs) := by
  rw [withoutLines, ofChars, List.filter_map, strip, ofChars]
  refine congrArg _ (List.filter_congr fun c _ => ?_)
  rw [Bool.eq_iff_iff, Function.comp_apply, bne_iff_ne, bne_iff_ne, ne_eq, CodePoint.char.injEq]

theorem split_strip (cs : List Char) : split ':' (strip cs) = (split ':' cs).map strip := by
  induction cs with
  | nil => rfl
  | cons c rest ih =>
    by_cases hc : c = '_'
    · subst hc
      rw [strip, List.filter_cons_of_neg (by decide), ← strip, ih, split]
      cases h : split ':' rest with
      | nil => exact absurd h (split_ne_nil _ _)
      | cons part parts => rfl
    · rw [strip, List.filter_cons_of_pos (by simpa using hc), ← strip, split, ih, split]
      cases h : split ':' rest with
      | nil => exact absurd h (split_ne_nil _ _)
      | cons part parts =>
        simp only [List.map_cons]
        split
        · rfl
        · simp only [List.map_cons, strip]
          rw [List.filter_cons_of_pos (by simpa using hc)]

/-- Of a text in a class of characters and low lines, the characters of the class are left. -/
theorem strip_all {p : Char → Bool} {cs : List Char} (h : cs.all fun c => p c || c == '_') : (strip cs).all p := by
  refine List.all_eq_true.2 fun c hc => ?_
  obtain ⟨hmem, hline⟩ := List.mem_filter.1 hc
  exact (Bool.or_eq_true_iff.1 (List.all_eq_true.1 h c hmem)).resolve_right (by simpa using hline)

theorem strip_cons {c : Char} (hc : c ≠ '_') (cs : List Char) : strip (c :: cs) = c :: strip cs :=
  List.filter_cons_of_pos (by simpa using hc)

theorem ne_line_of_digit {c : Char} (h : isAsciiDigit c) : c ≠ '_' := by
  rintro rfl
  cases h

/-! ## Digits -/

/-- Digits and low lines, with a digit among them. -/
structure HasDigits (cs : List Char) : Prop where
  all : cs.all isDigitOrLine
  ne_nil : strip cs ≠ []

theorem HasDigits.of_digit {c : Char} {cs : List Char} (hc : isAsciiDigit c) (h : cs.all isDigitOrLine) :
    HasDigits (c :: cs) := by
  refine ⟨by rw [List.all_cons, h, isDigitOrLine, hc]; rfl, ?_⟩
  rw [strip_cons (ne_line_of_digit hc)]
  nofun

theorem HasDigits.of_isNumeral {cs : List Char} (h : isNumeral cs) : HasDigits cs := by
  cases cs with
  | nil => cases h
  | cons c rest =>
    obtain ⟨hc, hrest⟩ := Bool.and_eq_true_iff.1 h
    exact .of_digit hc hrest

theorem HasDigits.of_isSixtieth {cs : List Char} (h : isSixtieth cs) : HasDigits cs := by
  unfold isSixtieth at h
  split at h
  · exact .of_digit h rfl
  · rename_i c d
    simp only [Bool.and_eq_true, decide_eq_true_eq] at h
    obtain ⟨⟨hlow, hhigh⟩, hd⟩ := h
    have hc : isAsciiDigit c := by
      simp only [isAsciiDigit, Bool.and_eq_true, decide_eq_true_eq]
      exact ⟨hlow, Char.le_trans hhigh (by decide)⟩
    exact .of_digit hc (by simp [isDigitOrLine, hd])
  · cases h

theorem hasDigits_of_isSexagesimal {cs : List Char} (h : isSexagesimal cs) :
    ':' ∈ cs ∧ ∀ p ∈ split ':' cs, HasDigits p := by
  unfold isSexagesimal at h
  split at h
  · rename_i first part parts hsplit
    obtain ⟨hfirst, hparts⟩ := Bool.and_eq_true_iff.1 h
    refine ⟨?_, ?_⟩
    · refine List.count_pos_iff.1 ?_
      have hlength := length_split ':' cs
      rw [hsplit, List.length_cons, List.length_cons] at hlength
      omega
    · rw [hsplit]
      exact List.forall_mem_cons.2 ⟨.of_isNumeral hfirst, fun p hp => .of_isSixtieth (List.all_eq_true.1 hparts p hp)⟩
  · cases h

theorem isAsciiDigit_of_isSexagesimal {c : Char} {cs : List Char} (h : isSexagesimal (c :: cs)) : isAsciiDigit c := by
  unfold isSexagesimal at h
  rw [split] at h
  cases hsplit : split ':' cs with
  | nil => exact absurd hsplit (split_ne_nil _ _)
  | cons part parts =>
    rw [hsplit] at h
    dsimp only at h
    split at h
    · rename_i hparts
      obtain ⟨hfirst, -⟩ := Bool.and_eq_true_iff.1 h
      split at hparts
      · cases hparts
        cases hfirst
      · cases hparts
        exact (Bool.and_eq_true_iff.1 hfirst).1
    · cases h

theorem mem_of_isSexagesimal {cs : List Char} (h : isSexagesimal cs) {c : Char} (hc : c ∈ cs) : c = ':' ∨ isDigitOrLine c := by
  by_cases hcolon : c = ':'
  · exact .inl hcolon
  · obtain ⟨p, hp, hcp⟩ := mem_split_of_mem hc hcolon
    exact .inr (List.all_eq_true.1 ((hasDigits_of_isSexagesimal h).2 p hp).all c hcp)

/-- What holds of runs of digits, alone and with a rest, holds of the parts of a text in base sixty with the rest. -/
theorem forall_sixtieths {cs rest : List Char} (h : isSexagesimal cs) (hrest : ':' ∉ rest) {P : List Char → Prop}
    (hpart : ∀ ds, ds ≠ [] → ds.all isAsciiDigit → ds <:+: strip cs → P ds ∧ P (ds ++ rest)) :
    (∀ p ∈ split ':' (strip cs ++ rest), P p) ∧ (split ':' (strip cs ++ rest)).length = cs.count ':' + 1 := by
  obtain ⟨init, last, hsplit, happend⟩ := split_append (strip cs) hrest
  have hdigits : ∀ p ∈ init ++ [last], P p ∧ P (p ++ rest) := by
    intro p hp
    have hmem : p ∈ split ':' (strip cs) := hsplit ▸ hp
    have hstretch := infix_of_mem_split hmem
    rw [split_strip] at hmem
    obtain ⟨q, hq, rfl⟩ := List.mem_map.1 hmem
    obtain ⟨hall, hne⟩ := (hasDigits_of_isSexagesimal h).2 q hq
    exact hpart _ hne (strip_all hall) hstretch
  refine ⟨fun p hp => ?_, ?_⟩
  · rw [happend] at hp
    rcases List.mem_append.1 hp with hp | hp
    · exact (hdigits p (List.mem_append_left _ hp)).1
    · rw [List.mem_singleton.1 hp]
      exact (hdigits last (List.mem_append_right _ (List.mem_singleton_self _))).2
  · have hlength := congrArg List.length hsplit
    rw [split_strip, List.length_map, length_split] at hlength
    rw [happend, hlength, List.length_append, List.length_append]
    rfl

/-! ## Both ends -/

theorem dropSign_cases (cs : List Char) :
    (∃ sign, (sign = '-' ∨ sign = '+') ∧ cs = sign :: dropSign cs) ∨ dropSign cs = cs := by
  unfold dropSign
  split
  · exact .inl ⟨'-', .inl rfl, rfl⟩
  · exact .inl ⟨'+', .inr rfl, rfl⟩
  · exact .inr rfl

theorem dropSign_suffix (cs : List Char) : dropSign cs <:+ cs := by
  unfold dropSign
  split
  · exact List.suffix_cons _ _
  · exact List.suffix_cons _ _
  · exact List.suffix_refl _

/-- A line feed or nothing. -/
def IsTail (tail : List Char) : Prop := tail = [] ∨ tail = ['\n']

theorem IsTail.isWhiteSpace {tail : List Char} (h : IsTail tail) : ∀ c ∈ tail, isWhiteSpace c := by
  rcases h with rfl | rfl
  · nofun
  · intro c hc
    rw [List.mem_singleton.1 hc]
    rfl

/-- A text is what is before a line feed at its end, and that. -/
theorem exists_tail (cs : List Char) : ∃ tail, IsTail tail ∧ cs = dropLastLineFeed cs ++ tail := by
  unfold dropLastLineFeed
  split
  · rename_i h
    obtain ⟨init, rfl⟩ := List.getLast?_eq_some_iff.1 (eq_of_beq h)
    exact ⟨['\n'], .inr rfl, by rw [List.dropLast_concat]⟩
  · exact ⟨[], .inl rfl, (List.append_nil _).symm⟩

/-- A number without its sign, and without a line feed after it, is a stretch of its text. -/
theorem unsigned_isInfix (cs : List Char) : dropSign (dropLastLineFeed cs) <:+: cs := by
  obtain ⟨tail, -, hcs⟩ := exists_tail cs
  have hinit : dropLastLineFeed cs <+: cs := ⟨tail, hcs.symm⟩
  exact (dropSign_suffix _).isInfix.trans hinit.isInfix

theorem strip_append (cs tail : List Char) (htail : IsTail tail) : strip (cs ++ tail) = strip cs ++ tail := by
  rw [strip, List.filter_append, ← strip]
  rcases htail with rfl | rfl <;> rfl

theorem notMem_colon_of_digits {ds tail : List Char} (h : ds.all isAsciiDigit) (htail : IsTail tail) : ':' ∉ ds ++ tail := by
  intro hc
  rcases List.mem_append.1 hc with hc | hc
  · cases List.all_eq_true.1 h _ hc
  · rcases htail with rfl | rfl
    · cases hc
    · exact absurd hc (by decide)

end BlockNotebook.Yaml.Scalar
