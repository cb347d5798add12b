import BlockNotebook.Proofs.Success
import BlockNotebook.Proofs.Yaml.Scalar.Digits
import Mathlib.Algebra.Group.Int.Defs
/-!
Texts that show the tag of a floating point number (`IsUnsignedFloat`), and how they are read.
-/

namespace BlockNotebook.Yaml.Scalar

open Text Tag

/-- A character of a floating point number in digits. -/
def isFloatChar (c : Char) : Bool := isDigitOrLine c || ['.', ':', 'e', 'E', '-', '+', '\n'].contains c

/-- A text in small letters and without low lines. -/
def small (cs : List Char) : List Char := (strip cs).map asciiLower

theorem toNat_lt_of_isFloatChar {c : Char} (h : isFloatChar c) : c.toNat < 128 := by
  rcases Bool.or_eq_true_iff.1 h with h | h
  · rcases Bool.or_eq_true_iff.1 h with h | h
    · exact Number.toNat_lt_of_isAsciiDigit h
    · rw [eq_of_beq h]
      decide
  · have hmem := List.contains_iff_mem.1 h
    simp only [List.mem_cons, List.not_mem_nil, or_false] at hmem
    rcases hmem with rfl | rfl | rfl | rfl | rfl | rfl | rfl <;> decide

theorem lower_ofChars {cs : List Char} (h : cs.all isFloatChar) (inWord : Bool) :
    lowerFrom inWord (ofChars cs) = ofChars (cs.map asciiLower) := by
  induction cs generalizing inWord with
  | nil => rfl
  | cons c rest ih =>
    rw [List.all_cons, Bool.and_eq_true_iff] at h
    obtain ⟨hc, hrest⟩ := h
    have hsmall : (CodePoint.char c == .char 'Σ') = false ∧ lowerMap.applyTo (.char c) = [.char (asciiLower c)] :=
      @Number.forall_ascii (fun c => isFloatChar c → (CodePoint.char c == .char 'Σ') = false ∧
        lowerMap.applyTo (.char c) = [.char (asciiLower c)]) (by decide +kernel) _ (toNat_lt_of_isFloatChar hc) hc
    rw [ofChars, List.map_cons, ← ofChars, lowerFrom]
    simp only [hsmall.1, hsmall.2, ih hrest]
    rfl

/-- The spellings of floating point numbers without a sign. -/
inductive IsUnsignedFloat : List Char → Prop
  | decimal {whole fraction exponent : List Char} (hwhole : whole.all isDigitOrLine) (hfraction : fraction.all isDigitOrLine)
      (hne : strip (whole ++ fraction) ≠ []) (hexponent : isSignedExponent exponent) :
      IsUnsignedFloat (whole ++ '.' :: (fraction ++ exponent))
  | sexagesimal {whole fraction : List Char} (h : isSexagesimal whole) (hfraction : fraction.all isDigitOrLine) :
      IsUnsignedFloat (whole ++ '.' :: fraction)

theorem isOneOf_point {cs : List Char} (h : isOneOf ["inf", "Inf", "INF"] cs ∨ isOneOf ["nan", "NaN", "NAN"] cs) :
    isOneOf [".inf", ".Inf", ".INF", ".nan", ".NaN", ".NAN"] ('.' :: cs) := by
  simp only [isOneOf, List.any_cons, List.any_nil, Bool.or_false, Bool.or_eq_true, beq_iff_eq] at h
  rcases h with (rfl | rfl | rfl) | rfl | rfl | rfl <;> decide

theorem isFloatText_cases {cs : List Char} (h : isFloatText cs) : isFloatWord cs ∨ IsUnsignedFloat (dropSign cs) := by
  unfold isFloatText at h
  extract_lets body whole at h
  split at h
  · cases h
  · rename_i d fraction hdrop
    have hpoint : d = '.' := by
      have hhead := List.head?_dropWhile_not (· != '.') body
      rw [hdrop] at hhead
      simpa using hhead
    have hbody : body = whole ++ '.' :: fraction := by
      rw [← hpoint, ← hdrop]
      exact (List.takeWhile_append_dropWhile).symm
    have hparts : fraction = fraction.takeWhile isDigitOrLine ++ fraction.dropWhile isDigitOrLine :=
      List.takeWhile_append_dropWhile.symm
    have htake : (fraction.takeWhile isDigitOrLine).all isDigitOrLine := List.all_takeWhile
    change isOneOf _ body ∨ IsUnsignedFloat body
    simp only [Bool.or_eq_true, Bool.and_eq_true] at h
    rcases h with ((⟨hnumeral, hexponent⟩ | ⟨hsixty, hfraction⟩) | ⟨hempty, hword⟩) | ⟨⟨hempty, -⟩, hword | ⟨⟨hdigit, hne⟩, hexponent⟩⟩
    · obtain ⟨hall, hne⟩ := HasDigits.of_isNumeral hnumeral
      rw [hbody, hparts]
      refine .inr (.decimal hall htake ?_ hexponent)
      rw [strip, List.filter_append, ← strip]
      exact List.append_ne_nil_of_left_ne_nil hne _
    · rw [hbody]
      exact .inr (.sexagesimal hsixty hfraction)
    · rw [hbody, List.isEmpty_iff.1 hempty]
      exact .inl (isOneOf_point (.inl hword))
    · rw [hbody, List.isEmpty_iff.1 hempty]
      exact .inl (isOneOf_point (.inr hword))
    · rw [hbody, hparts]
      refine .inr (.decimal (by rw [List.isEmpty_iff.1 hempty]; rfl) htake ?_ hexponent)
      cases fraction with
      | nil => cases hne
      | cons c rest =>
        have hc : isAsciiDigit c := (Bool.and_eq_true_iff.1 hdigit).1
        have hline : isDigitOrLine c := Bool.or_eq_true_iff.2 (.inl hc)
        rw [List.isEmpty_iff.1 hempty, List.nil_append, List.takeWhile_cons_of_pos hline, strip_cons (ne_line_of_digit hc)]
        exact List.cons_ne_nil _ _

theorem small_append (as bs : List Char) : small (as ++ bs) = small as ++ small bs := by
  rw [small, strip, List.filter_append, List.map_append]
  rfl

/-- Digits and colons are small. -/
theorem small_eq_strip {cs : List Char} (h : ∀ c ∈ cs, c = ':' ∨ isDigitOrLine c) : small cs = strip cs := by
  refine (List.map_congr_left fun c hc => ?_).trans (List.map_id' _)
  rcases h c (List.mem_filter.1 hc).1 with rfl | hdigit
  · rfl
  · have hascii : c.toNat < 128 := toNat_lt_of_isFloatChar (Bool.or_eq_true_iff.2 (.inl hdigit))
    exact @Number.forall_ascii (fun c => isDigitOrLine c → asciiLower c = c) (by decide +kernel) _ hascii hdigit

theorem small_digits {cs : List Char} (h : cs.all isDigitOrLine) : small cs = strip cs :=
  small_eq_strip fun c hc => .inr (List.all_eq_true.1 h c hc)

theorem isExponent_small {cs : List Char} (h : isSignedExponent cs) : Number.IsExponent (small cs) := by
  unfold isSignedExponent at h
  split at h
  · exact .none
  · rename_i e s ds
    simp only [Bool.and_eq_true, Bool.or_eq_true, beq_iff_eq] at h
    obtain ⟨⟨⟨he, hs⟩, hne⟩, hds⟩ := h
    have hlines : ds.all isDigitOrLine :=
      List.all_eq_true.2 fun c hc => Bool.or_eq_true_iff.2 (.inl (List.all_eq_true.1 hds c hc))
    have hstrip : strip ds = ds :=
      List.filter_eq_self.2 fun c hc => by simpa using ne_line_of_digit (List.all_eq_true.1 hds c hc)
    have hsmall : small (e :: s :: ds) = 'e' :: s :: ds := by
      rw [show e :: s :: ds = [e, s] ++ ds from rfl, small_append, small_digits hlines, hstrip]
      rcases he with rfl | rfl <;> rcases hs with rfl | rfl <;> rfl
    rw [hsmall]
    exact .some hs (by rintro rfl; cases hne) hds
  · cases h

theorem isDecimal_small {whole fraction exponent : List Char} (hwhole : whole.all isDigitOrLine)
    (hfraction : fraction.all isDigitOrLine) (hne : strip (whole ++ fraction) ≠ []) (hexponent : isSignedExponent exponent) :
    Number.IsDecimal (small (whole ++ '.' :: (fraction ++ exponent))) := by
  have hsmall : small (whole ++ '.' :: (fraction ++ exponent)) =
      strip whole ++ ('.' :: strip fraction) ++ small exponent := by
    rw [small_append, ← List.singleton_append, small_append, small_append, small_digits hwhole, small_digits hfraction]
    simp only [List.append_assoc, List.cons_append]
    rfl
  rw [hsmall]
  rw [strip, List.filter_append] at hne
  exact .mk (strip_all hwhole) (.inr rfl) (strip_all hfraction) hne (isExponent_small hexponent)

/-- Both words have this letter. -/
theorem not_word {cs : List Char} (h : 'n' ∉ cs) :
    (ofChars cs == (".inf" : Text)) = false ∧ (ofChars cs == (".nan" : Text)) = false := by
  have hne {word : String} (hword : 'n' ∈ word.toList) : (ofChars cs == (word : Text)) = false := by
    refine beq_eq_false_iff_ne.2 fun heq => h ?_
    have hchars := congrArg characters heq
    rw [characters_ofChars, ofString, characters_ofChars] at hchars
    rw [hchars]
    exact hword
  exact ⟨hne (by decide), hne (by decide)⟩

theorem isOk_readFraction {cs tail : List Char} (h : Number.IsDecimal cs) (htail : IsTail tail) :
    (readFraction (ofChars (cs ++ tail))).isOk := by
  obtain ⟨x, hx⟩ := h.readFraction htail.isWhiteSpace
  rw [readFraction, isOk_mapError, hx]
  rfl

theorem notMem_of_isDecimal {cs tail : List Char} (h : Number.IsDecimal cs) (htail : IsTail tail) {c : Char}
    (hc : Number.isDecimalChar c = false ∧ c ≠ '\n') : c ∉ cs ++ tail := by
  intro hmem
  rcases List.mem_append.1 hmem with hmem | hmem
  · exact Bool.false_ne_true (hc.1.symm.trans (List.all_eq_true.1 h.chars c hmem))
  · rcases htail with rfl | rfl
    · cases hmem
    · exact hc.2 (List.mem_singleton.1 hmem)

theorem isOk_readUnsignedFloat {cs tail : List Char} (h : Number.IsDecimal cs) (htail : IsTail tail) :
    (readUnsignedFloat (ofChars (cs ++ tail))).isOk := by
  obtain ⟨hinf, hnan⟩ := not_word (@notMem_of_isDecimal cs tail h htail 'n' (by decide))
  have hcolon := @notMem_of_isDecimal cs tail h htail ':' (by decide)
  rw [readUnsignedFloat, hinf, hnan, contains_ofChars, List.contains_eq_mem, decide_eq_false hcolon]
  exact isOk_readFraction h htail

/-! ### Parts in base sixty -/

/-- So many places in base sixty are floating point numbers. -/
theorem isSome_ofInt?_place : ∀ k < 174, (Binary64.ofInt? (60 ^ k)).isSome := by decide +kernel

theorem isOk_sumSixtieths {parts : List Binary64} {k : Nat} (h : k + parts.length ≤ 174) (sum : Binary64) :
    (sumSixtieths (60 ^ k) sum parts).isOk := by
  induction parts generalizing k sum with
  | nil => rfl
  | cons part parts ih =>
    rw [List.length_cons] at h
    obtain ⟨unit, hunit⟩ := Option.isSome_iff_exists.1 (isSome_ofInt?_place k (by omega))
    rw [sumSixtieths, hunit]
    exact ih (k := k + 1) (by omega) _

theorem notMem_sixtieths {whole fraction tail : List Char} (h : isSexagesimal whole) (hfraction : fraction.all isAsciiDigit)
    (htail : IsTail tail) : 'n' ∉ strip whole ++ ('.' :: fraction ++ tail) := by
  intro hn
  rcases List.mem_append.1 hn with hn | hn
  · exact absurd (mem_of_isSexagesimal h (List.mem_filter.1 hn).1) (by decide)
  rcases List.mem_append.1 hn with hn | hn
  · rcases List.mem_cons.1 hn with hn | hn
    · cases hn
    · cases List.all_eq_true.1 hfraction _ hn
  · rcases htail with rfl | rfl
    · cases hn
    · exact absurd hn (by decide)

theorem isOk_readSixtieths {whole fraction tail : List Char} (h : isSexagesimal whole)
    (hfraction : fraction.all isAsciiDigit) (htail : IsTail tail) (hcount : whole.count ':' < 174) :
    (readUnsignedFloat (ofChars (strip whole ++ ('.' :: fraction ++ tail)))).isOk := by
  have hrest : ':' ∉ '.' :: fraction ++ tail := by
    rw [List.cons_append]
    exact List.not_mem_cons_of_ne_of_not_mem (by decide) (notMem_colon_of_digits hfraction htail)
  obtain ⟨hread, hlength⟩ := forall_sixtieths h hrest (P := fun p => (readFraction (ofChars p)).isOk)
    fun ds hne hall _ => by
      have hok := isOk_readFraction (.of_digits hne hall) (.inl rfl)
      rw [List.append_nil] at hok
      rw [← List.append_assoc]
      exact ⟨hok, isOk_readFraction (.of_point hne hall hfraction) htail⟩
  obtain ⟨parts, hmap, hsize⟩ := exists_mapM (List.forall_mem_map.2 hread)
  have hsum : (sumSixtieths 1 (Binary64.zero false) parts.reverse).isOk := by
    refine isOk_sumSixtieths (k := 0) ?_ _
    rw [List.length_reverse, hsize, List.length_map, hlength]
    omega
  have hcolon : ':' ∈ strip whole ++ ('.' :: fraction ++ tail) :=
    List.mem_append_left _ (List.mem_filter.2 ⟨(hasDigits_of_isSexagesimal h).1, rfl⟩)
  obtain ⟨hinf, hnan⟩ := not_word (notMem_sixtieths h hfraction htail)
  rw [readUnsignedFloat, hinf, hnan, contains_ofChars, List.contains_eq_mem, decide_eq_true hcolon, split_ofChars, hmap]
  exact hsum

theorem all_isFloatChar_of_digits {cs : List Char} (h : cs.all isDigitOrLine) : cs.all isFloatChar :=
  List.all_eq_true.2 fun c hc => Bool.or_eq_true_iff.2 (.inl (List.all_eq_true.1 h c hc))

theorem all_isFloatChar_of_isSignedExponent {cs : List Char} (h : isSignedExponent cs) : cs.all isFloatChar := by
  unfold isSignedExponent at h
  split at h
  · rfl
  · rename_i e s ds
    simp only [Bool.and_eq_true, Bool.or_eq_true, beq_iff_eq] at h
    obtain ⟨⟨⟨he, hs⟩, -⟩, hds⟩ := h
    have hall : ds.all isFloatChar :=
      all_isFloatChar_of_digits (List.all_eq_true.2 fun c hc => Bool.or_eq_true_iff.2 (.inl (List.all_eq_true.1 hds c hc)))
    rw [List.all_cons, List.all_cons, hall]
    rcases he with rfl | rfl <;> rcases hs with rfl | rfl <;> rfl
  · cases h

theorem IsUnsignedFloat.chars {cs : List Char} (h : IsUnsignedFloat cs) : cs.all isFloatChar := by
  cases h with
  | decimal hwhole hfraction _ hexponent =>
    rw [List.all_append, List.all_cons, List.all_append, all_isFloatChar_of_digits hwhole,
      all_isFloatChar_of_digits hfraction, all_isFloatChar_of_isSignedExponent hexponent]
    rfl
  | @sexagesimal whole fraction h hfraction =>
    have hall : whole.all isFloatChar := List.all_eq_true.2 fun c hc => by
      rcases mem_of_isSexagesimal h hc with rfl | hdigit
      · rfl
      · exact Bool.or_eq_true_iff.2 (.inl hdigit)
    rw [List.all_append, List.all_cons, hall, all_isFloatChar_of_digits hfraction]
    rfl

/-- An unsigned floating point number is read, unless it has too many parts. -/
theorem IsUnsignedFloat.isOk {cs tail : List Char} (h : IsUnsignedFloat cs) (htail : IsTail tail)
    (hcount : cs.count ':' < 174) : (readUnsignedFloat (ofChars (small cs ++ tail))).isOk := by
  cases h with
  | decimal hwhole hfraction hne hexponent =>
    exact isOk_readUnsignedFloat (isDecimal_small hwhole hfraction hne hexponent) htail
  | @sexagesimal whole fraction h hfraction =>
    have hsmall : small (whole ++ '.' :: fraction) = strip whole ++ '.' :: strip fraction := by
      rw [small_append, ← List.singleton_append, small_append, small_eq_strip fun c => mem_of_isSexagesimal h,
        small_digits hfraction]
      rfl
    rw [List.count_append] at hcount
    rw [hsmall, List.append_assoc]
    exact isOk_readSixtieths h (strip_all hfraction) htail (by omega)

theorem IsUnsignedFloat.point {cs : List Char} (h : IsUnsignedFloat cs) : '.' ∈ cs := by
  cases h <;> exact List.mem_append_right _ List.mem_cons_self

/-- It begins with a digit or its point. -/
theorem IsUnsignedFloat.small_head {cs : List Char} (h : IsUnsignedFloat cs) :
    ∃ c rest, small cs = c :: rest ∧ (isAsciiDigit c ∨ c = '.') := by
  cases h with
  | decimal hwhole hfraction hne hexponent =>
    have hdecimal := isDecimal_small hwhole hfraction hne hexponent
    obtain ⟨c, rest, hcs⟩ := List.exists_cons_of_ne_nil hdecimal.ne_nil
    exact ⟨c, rest, hcs, hdecimal.head c (by rw [hcs]; rfl)⟩
  | @sexagesimal whole fraction h hfraction =>
    cases whole with
    | nil => cases h
    | cons c rest =>
      have hc := isAsciiDigit_of_isSexagesimal h
      have hsmall : small [c] = [c] := by
        rw [small_eq_strip fun d hd => .inr (Bool.or_eq_true_iff.2 (.inl (List.mem_singleton.1 hd ▸ hc))),
          strip_cons (ne_line_of_digit hc)]
        rfl
      exact ⟨c, small (rest ++ '.' :: fraction), by
        rw [List.cons_append, ← List.singleton_append, small_append, hsmall]; rfl, .inl hc⟩

theorem readFloat_of_head {c : Char} (hc : isAsciiDigit c ∨ c = '.') {t rest : Text} (ht : floatText t = .char c :: rest) :
    readFloat t = (readUnsignedFloat (.char c :: rest)).map .float := by
  unfold readFloat
  rw [ht]
  split
  · rename_i h
    cases h
  · rename_i h
    cases h
    exact absurd hc (by decide)
  · rename_i h
    cases h
    exact absurd hc (by decide)
  · rfl

theorem floatText_ofChars {cs : List Char} (h : cs.all isFloatChar) : floatText (ofChars cs) = ofChars (small cs) := by
  have hstrip : (strip cs).all isFloatChar :=
    List.all_eq_true.2 fun c hc => List.all_eq_true.1 h c (List.mem_filter.1 hc).1
  rw [floatText, withoutLines_ofChars, lower, lower_ofChars hstrip, small]

/-- The words for infinity and not-a-number are read. -/
theorem isOk_readFloat_word {cs : List Char} (h : isFloatWord cs) : (readFloat (ofChars cs)).isOk := by
  have hwords : ∀ word ∈ [".inf", ".Inf", ".INF", ".nan", ".NaN", ".NAN"], ∀ sign ∈ [[], ['-'], ['+']],
      (readFloat (ofChars (sign ++ word.toList))).isOk := by decide +kernel
  obtain ⟨word, hword, heq⟩ := List.any_eq_true.1 h
  have hread := hwords word hword
  rw [eq_of_beq heq] at hread
  rcases dropSign_cases cs with ⟨sign, hsign, hcs⟩ | hcs
  · rw [hcs]
    exact hread [sign] (by rcases hsign with rfl | rfl <;> decide)
  · rw [hcs] at hread
    exact hread [] (by decide)

/-- A text that shows the tag of a floating point number is one, unless it is strained. -/
theorem isOk_readFloat {cs : List Char} (h : isFloatText (dropLastLineFeed cs)) (hs : ¬ Strained cs) :
    (readFloat (ofChars cs)).isOk := by
  obtain ⟨tail, htail, hcs⟩ := exists_tail cs
  have hstretch := unsigned_isInfix cs
  generalize hinit : dropLastLineFeed cs = init at h hcs hstretch
  rcases isFloatText_cases h with hword | hfloat
  · rcases htail with rfl | rfl
    · rw [hcs, List.append_nil]
      exact isOk_readFloat_word hword
    · exact absurd (hcs ▸ Strained.ended (.inr hword)) hs
  · generalize hbody : dropSign init = body at hfloat hstretch
    have hcount : body.count ':' < 174 := by
      refine Nat.not_le.1 fun hmany => hs (.tooManyParts (hstretch.subset hfloat.point) ?_)
      exact Nat.le_trans hmany (hstretch.sublist.count_le _)
    have hread := hfloat.isOk htail hcount
    have htailchars : tail.all isFloatChar ∧ small tail = tail := by rcases htail with rfl | rfl <;> decide
    rcases dropSign_cases init with ⟨sign, hsign, heq⟩ | heq
    · have hchars : (init ++ tail).all isFloatChar := by
        rw [heq, hbody, List.cons_append, List.all_cons, List.all_append, hfloat.chars, htailchars.1]
        rcases hsign with rfl | rfl <;> rfl
      have htext := floatText_ofChars hchars
      rw [heq, hbody, ← List.singleton_append, small_append, small_append, htailchars.2] at htext
      rw [hcs, heq, hbody, ← List.singleton_append]
      unfold readFloat
      rcases hsign with rfl | rfl
      · rw [htext]
        exact isOk_map.trans hread
      · rw [htext]
        exact isOk_map.trans hread
    · have hchars : (init ++ tail).all isFloatChar := by
        rw [← heq, hbody, List.all_append, hfloat.chars, htailchars.1]
        rfl
      have htext := floatText_ofChars hchars
      rw [← heq, hbody, small_append, htailchars.2] at htext
      obtain ⟨c, rest, hsmall, hc⟩ := hfloat.small_head
      rw [hsmall] at htext hread
      rw [hcs, ← heq, hbody, readFloat_of_head hc htext]
      exact isOk_map.trans hread

end BlockNotebook.Yaml.Scalar
