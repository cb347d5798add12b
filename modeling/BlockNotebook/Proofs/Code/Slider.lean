import BlockNotebook.Proofs.Code.Data
import BlockNotebook.Proofs.Code.Numeral
import BlockNotebook.Proofs.Success
import BlockNotebook.Proofs.Text.Split
/-!
Sliders that are compiled without a warning.

The stored text stands in the code as it is. It is looked at without the blanks around it, of whatever kind, and with
digits of any script. The language is stricter: it has three gaps, digits of ASCII, and no zeros in front of a whole
number. `quiet_slider_code` says which of the texts that raise no warning it reads as a number on the line of the assignment.
-/

namespace BlockNotebook.Code

open Schema Text Source

/-! ## Numeric texts -/

theorem exists_sign (cs : List Char) : ∃ sign ∈ [[], ['-'], ['+']], cs = sign ++ (Number.splitSign cs).2 := by
  unfold Number.splitSign
  split
  · exact ⟨['-'], by simp, rfl⟩
  · exact ⟨['+'], by simp, rfl⟩
  · exact ⟨[], by simp, rfl⟩

/-- An exponent has a mark, a sign or none, and digits. -/
theorem isExponent_cases {cs : List Char} (h : isExponent cs) : cs = [] ∨ ∃ mark sign ds, cs = mark :: (sign ++ ds) ∧
    (mark = 'e' ∨ mark = 'E') ∧ sign ∈ [[], ['-'], ['+']] ∧ ds ≠ [] ∧ ∀ c ∈ ds, isDecimal c := by
  cases cs with
  | nil => exact .inl rfl
  | cons mark rest =>
    simp only [isExponent, Bool.and_eq_true, Bool.or_eq_true, beq_iff_eq, Bool.not_eq_true', List.isEmpty_eq_false_iff,
      List.all_eq_true] at h
    obtain ⟨⟨hmark, hne⟩, hds⟩ := h
    obtain ⟨sign, hsign, hrest⟩ := exists_sign rest
    exact .inr ⟨mark, sign, _, congrArg (mark :: ·) hrest, hmark, hsign, hne, hds⟩

/-- After its sign a numeric text has digits, or digits with a point, and then an exponent or nothing. -/
theorem isNumeric_cases {cs : List Char} (h : isNumeric cs) :
    (∃ whole exponent, (Number.splitSign cs).2 = whole ++ exponent ∧ whole ≠ [] ∧ (∀ c ∈ whole, isDecimal c) ∧
      isExponent exponent) ∨
    ∃ whole fraction exponent, (Number.splitSign cs).2 = whole ++ '.' :: (fraction ++ exponent) ∧
      whole ++ fraction ≠ [] ∧ (∀ c ∈ whole ++ fraction, isDecimal c) ∧ isExponent exponent := by
  unfold isNumeric at h
  extract_lets body whole at h
  have hwhole : ∀ c ∈ whole, isDecimal c := fun c hc => List.mem_takeWhile_imp hc
  have hbody : body = whole ++ body.dropWhile isDecimal := List.takeWhile_append_dropWhile.symm
  split at h
  · rename_i rest hrest
    obtain ⟨hne, hexponent⟩ := Bool.and_eq_true_iff.1 h
    refine .inr ⟨whole, rest.takeWhile isDecimal, rest.dropWhile isDecimal, ?_, ?_, ?_, hexponent⟩
    · rw [List.takeWhile_append_dropWhile, ← hrest]
      exact hbody
    · intro hnil
      obtain ⟨hw, hf⟩ := List.append_eq_nil_iff.1 hnil
      simp [hw, hf] at hne
    · exact List.forall_mem_append.2 ⟨hwhole, fun c hc => List.mem_takeWhile_imp hc⟩
  · obtain ⟨hne, hexponent⟩ := Bool.and_eq_true_iff.1 h
    exact .inl ⟨whole, _, hbody, by simpa using hne, hwhole, hexponent⟩

/-- No numeric text has the stand-in for surrogates. -/
theorem not_mem_of_isNumeric {cs : List Char} (h : isNumeric cs) : '\uFFFD' ∉ cs := by
  have hdecimal {ds : List Char} (hds : ∀ c ∈ ds, isDecimal c) : '\uFFFD' ∉ ds := fun hmem =>
    absurd (hds _ hmem) (by decide)
  have hsigns : ∀ sign ∈ [[], ['-'], ['+']], '\uFFFD' ∉ sign := by decide
  have hexponent {es : List Char} (hes : isExponent es) : '\uFFFD' ∉ es := by
    rcases isExponent_cases hes with rfl | ⟨mark, sign, ds, rfl, hmark, hsign, -, hds⟩
    · exact List.not_mem_nil
    · have hne : '\uFFFD' ≠ mark := by rcases hmark with rfl | rfl <;> decide
      simp only [List.mem_cons, List.mem_append, not_or]
      exact ⟨hne, hsigns sign hsign, hdecimal hds⟩
  obtain ⟨sign, hsign, hcs⟩ := exists_sign cs
  rw [hcs, List.mem_append, not_or]
  refine ⟨hsigns sign hsign, ?_⟩
  rcases isNumeric_cases h with ⟨whole, exponent, hbody, -, hds, hes⟩ | ⟨whole, fraction, exponent, hbody, -, hds, hes⟩
  · rw [hbody, List.mem_append, not_or]
    exact ⟨hdecimal hds, hexponent hes⟩
  · obtain ⟨hwhole, hfraction⟩ := List.forall_mem_append.1 hds
    rw [hbody]
    simp only [List.mem_append, List.mem_cons, not_or]
    exact ⟨hdecimal hwhole, by decide, hdecimal hfraction, hexponent hes⟩

theorem exponent_of_isExponent {cs : List Char} (h : isExponent cs) (hne : cs ≠ [])
    (hdigits : ∀ c ∈ cs, isDecimal c → isAsciiDigit c) : Exponent cs := by
  rcases isExponent_cases h with hnil | ⟨mark, sign, ds, rfl, hmark, hsign, hds, hdecimal⟩
  · exact absurd hnil hne
  · refine .mk hmark hsign (.of_digits hds fun c hc => hdigits c ?_ (hdecimal c hc))
    exact List.mem_cons_of_mem _ (List.mem_append_right _ hc)

/-! ## What the language reads -/

/-- The language has no objection to a numeric text with blanks around it: to the blanks, to the digits, nor, if it is
a whole number, to zeros in front or to its length. -/
structure IsPlain (before number after : List Char) : Prop where
  before : ∀ c ∈ before, isGap c
  after : ∀ c ∈ after, isGap c || endsLine c
  digits : ∀ c ∈ number, isDecimal c → isAsciiDigit c
  whole : (∀ c ∈ (Number.splitSign number).2, isDecimal c) → IsWhole (Number.splitSign number).2

/-- A numeric text without a sign is a number if its digits are those of ASCII and it is none of the whole numbers that
the language refuses. -/
theorem numeral_of_isNumeric {number : List Char} (h : isNumeric number)
    (hdigits : ∀ c ∈ (Number.splitSign number).2, isDecimal c → isAsciiDigit c)
    (hwhole : (∀ c ∈ (Number.splitSign number).2, isDecimal c) → IsWhole (Number.splitSign number).2) :
    Numeral (Number.splitSign number).2 := by
  rcases isNumeric_cases h with ⟨whole, exponent, hbody, hne, hdecimal, hexponent⟩ |
    ⟨whole, fraction, exponent, hbody, hne, hdecimal, hexponent⟩
  · rw [hbody] at hdigits hwhole ⊢
    obtain ⟨hw, he⟩ := List.forall_mem_append.1 hdigits
    have hascii : ∀ c ∈ whole, isAsciiDigit c := fun c hc => hw c hc (hdecimal c hc)
    by_cases hnil : exponent = []
    · subst hnil
      rw [List.append_nil] at hwhole ⊢
      exact .of_digits hne hascii (hwhole hdecimal)
    · exact .exponent (.inl (.of_digits hne hascii)) (exponent_of_isExponent hexponent hnil he)
  · rw [hbody] at hdigits ⊢
    obtain ⟨hdw, hdf⟩ := List.forall_mem_append.1 hdecimal
    obtain ⟨hw, hrest⟩ := List.forall_mem_append.1 hdigits
    obtain ⟨hf, he⟩ := List.forall_mem_append.1 (List.forall_mem_cons.1 hrest).2
    have hpoint : PointFloat (whole ++ '.' :: fraction) :=
      .of_digits (fun c hc => hw c hc (hdw c hc)) (fun c hc => hf c hc (hdf c hc)) hne
    by_cases hnil : exponent = []
    · subst hnil
      rw [List.append_nil]
      exact .point hpoint
    · have hnumeral := Numeral.exponent (.inr hpoint) (exponent_of_isExponent hexponent hnil he)
      simpa using hnumeral

theorem signedNumeral_of_splitSign {cs : List Char} (h : Numeral (Number.splitSign cs).2) : SignedNumeral cs := by
  obtain ⟨sign, hsign, hcs⟩ := exists_sign cs
  rw [hcs]
  simp only [List.mem_cons, List.not_mem_nil, or_false] at hsign
  rcases hsign with rfl | rfl | rfl
  · exact .unsigned h
  · exact .signed (.inl rfl) h
  · exact .signed (.inr rfl) h

/-- A gap or the end of a line is a blank. -/
theorem isBlank_of_isGap {c : Char} (h : isGap c || endsLine c) : isBlank c := by
  simp only [isGap, endsLine, Bool.or_eq_true, beq_iff_eq] at h
  rcases h with ((rfl | rfl) | rfl) | rfl | rfl <;> decide

/-- Of numeric texts with blanks around them, the language reads those that it has no objection to. -/
theorem readsNumber_iff {before number after : List Char} (hnumeric : isNumeric number)
    (htrimmed : IsTrimmed isBlank (before ++ number ++ after) number) (hbefore : ∀ c ∈ before, isBlank c) :
    ReadsNumber (ofChars (before ++ number ++ after)) ↔ IsPlain before number after := by
  obtain ⟨sign, -, hsign⟩ := exists_sign number
  have hbody : ∀ c ∈ (Number.splitSign number).2, c ∈ number := fun c hc => hsign ▸ List.mem_append_right sign hc
  constructor
  · rintro ⟨before', number', after', heq, hgaps, hsigned, hends⟩
    have heq : before ++ number ++ after = before' ++ number' ++ after' := by
      rw [← characters_ofChars (before ++ number ++ after), heq, characters_ofChars]
    have hbefore' : ∀ c ∈ before', isBlank c := fun c hc => isBlank_of_isGap (by simp [hgaps c hc])
    have hafter' : ∀ c ∈ after', isBlank c := fun c hc => isBlank_of_isGap (hends c hc)
    -- The number that the language reads can only be the numeric text.
    have htrimmed' := hsigned.isTrimmed (List.forall_mem_append.2 ⟨hbefore', hafter'⟩)
    obtain rfl : number = number' := by rw [← htrimmed.trim_eq, heq, htrimmed'.trim_eq]
    obtain ⟨rfl, rfl⟩ := htrimmed.around_unique hsigned.ne_nil rfl hbefore heq hbefore'
    have hdigits : ∀ c ∈ number, isDecimal c → isAsciiDigit c := fun c hc =>
      (isNumeralChar_plain (hsigned.chars c hc)).2
    exact ⟨hgaps, hends, hdigits, fun hdecimal =>
      hsigned.splitSign.isWhole fun c hc => hdigits c (hbody c hc) (hdecimal c hc)⟩
  · rintro ⟨hgaps, hends, hdigits, hwhole⟩
    have hnumeral := numeral_of_isNumeric hnumeric (fun c hc => hdigits c (hbody c hc)) hwhole
    exact ⟨before, number, after, rfl, hgaps, signedNumeral_of_splitSign hnumeral, hends⟩

/-! ## Sliders -/

theorem isNumeric_of_quiet {b : Block} (hb : b.IsRead) (hform : b.form = some .inputSlider) (hquiet : b.codeLog = []) :
    isNumeric (trim isBlank (storedText b).characters) := by
  obtain ⟨j, hj, htitle⟩ := Block.kind_of_form hb hform
  obtain rfl := Block.eq_of_title (j := .inputSlider) rfl htitle.symm
  have hlog : b.codeLog = sliderWarnings b := by simp [Block.codeLog, hj, hform]
  rw [hlog, sliderWarnings] at hquiet
  split at hquiet
  · assumption
  · cases hquiet

/-- A slider that is compiled without a warning assigns the stored text, and that is a numeric text with blanks around
it. The language reads it as a number on the line of the assignment exactly if the blanks are gaps, or after the number
also ends of lines, if the digits are those of ASCII, and if a whole number has no zeros in front and is not too long. -/
theorem quiet_slider_code {v : Value} {b : Block} (hb : Block.read v = .ok b) (hform : b.form = some .inputSlider)
    (hquiet : b.codeLog = []) (context : Option Context) :
    ∃ name value before number after, b.Stores "deepnote_variable_name" (.str name) ∧
      b.Stores "deepnote_variable_value" (.str value) ∧ b.code context = .ok (assign (nameOf name) value) ∧
      value = ofChars (before ++ number ++ after) ∧ (∀ c ∈ before ++ after, isBlank c) ∧ isNumeric number ∧
      (ReadsNumber value ↔ IsPlain before number after) := by
  have hread := Block.isRead_of_read hb
  obtain ⟨name, hname⟩ := stores_text hread hform "deepnote_variable_name" rfl
  obtain ⟨value, hvalue⟩ := stores_text hread hform "deepnote_variable_value" rfl
  have hnumeric := isNumeric_of_quiet hread hform hquiet
  rw [storedText_stored hvalue] at hnumeric
  have htrimmed := isTrimmed_trim isBlank value.characters
  obtain ⟨before, after, hcharacters, hblank⟩ := htrimmed.around
  generalize trim isBlank value.characters = number at hnumeric htrimmed hcharacters
  obtain ⟨hbefore, hafter⟩ := List.forall_mem_append.1 hblank
  -- Neither a blank nor a numeric text hides a surrogate.
  have hplain {cs : List Char} (hcs : ∀ c ∈ cs, isBlank c) : '\uFFFD' ∉ cs := fun hmem =>
    absurd (hcs _ hmem) (by decide)
  have hvalue' : value = ofChars (before ++ number ++ after) := by
    rw [← hcharacters]
    refine eq_ofChars ?_
    rw [hcharacters, List.mem_append, List.mem_append, not_or, not_or]
    exact ⟨⟨hplain hbefore, not_mem_of_isNumeric hnumeric⟩, hplain hafter⟩
  refine ⟨name, value, before, number, after, hname, hvalue, ?_, hvalue', hblank, hnumeric, ?_⟩
  · rw [code_of_form hread hform rfl]
    show Except.ok (slider b) = _
    rw [slider, variableOf_stored hname, storedText_stored hvalue]
  · rw [hcharacters] at htrimmed
    rw [hvalue']
    exact readsNumber_iff hnumeric htrimmed hbefore

/-- A slider with zeros in front of its number. -/
def zeroedSlider : Value := .map [
  (.str "id", .str "s"), (.str "type", .str "input-slider"), (.str "sortingKey", .str "0"),
  (.str "metadata", .map [(.str "deepnote_variable_name", .str "level"), (.str "deepnote_variable_value", .str "007")])]

/-- It is compiled without a warning, and to no number. -/
theorem zeroedSlider_code : ∃ b, Block.read zeroedSlider = .ok b ∧ b.form = some .inputSlider ∧ b.codeLog = [] ∧
    b.code none = .ok (ofString "level = 007") ∧ ¬ ReadsNumber (ofString "007") := by
  have h : ((Block.read zeroedSlider).toOption.map fun b => (b.form, b.codeLog.isEmpty, b.metadata.text? "deepnote_variable_name",
      b.metadata.text? "deepnote_variable_value")) =
      some (some .inputSlider, true, some (ofString "level"), some (ofString "007")) := by
    rw [zeroedSlider]
    repeat rw [ofString_ofList]
    decide +kernel
  obtain ⟨b, hb, hparts⟩ := exists_of_toOption h
  simp only [Prod.mk.injEq, List.isEmpty_iff] at hparts
  obtain ⟨hform, hquiet, hname, hvalue⟩ := hparts
  obtain ⟨name, value, before, number, after, hname', hvalue', hcode, hparts, hblank, -, hreads⟩ :=
    quiet_slider_code hb hform hquiet none
  obtain rfl : ofString "level" = name := Option.some_inj.1 (hname.symm.trans hname'.text?)
  obtain rfl : ofString "007" = value := Option.some_inj.1 (hvalue.symm.trans hvalue'.text?)
  have hcs : before ++ number ++ after = ['0', '0', '7'] := by
    rw [← characters_ofChars (before ++ number ++ after), ← hparts]
    rfl
  -- No character of the value is a blank, so all of it is the numeric text.
  have hnone : ∀ c ∈ before ++ after, c ∉ ['0', '0', '7'] := by
    have hall : ['0', '0', '7'].any isBlank = false := by decide
    exact fun c hc hmem => List.any_eq_false.1 hall c hmem (hblank c hc)
  have hbefore : before = [] := List.eq_nil_iff_forall_not_mem.2 fun c hc =>
    hnone c (List.mem_append_left _ hc) (hcs ▸ List.mem_append_left _ (List.mem_append_left _ hc))
  have hafter : after = [] := List.eq_nil_iff_forall_not_mem.2 fun c hc =>
    hnone c (List.mem_append_right _ hc) (hcs ▸ List.mem_append_right _ hc)
  obtain rfl : number = ['0', '0', '7'] := by simpa [hbefore, hafter] using hcs
  have hlevel : nameOf (ofString "level") = "level" := by decide +kernel
  refine ⟨b, hb, hform, hquiet, ?_, fun hnumber => ?_⟩
  · rw [hcode, hlevel]
    rfl
  · rcases (hreads.1 hnumber).whole (List.all_eq_true.1 (by decide)) with ⟨hhead, -⟩ | hzeros
    · exact hhead rfl
    · exact absurd (hzeros '7' (by decide)) (by decide)

end BlockNotebook.Code
