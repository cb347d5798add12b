import BlockNotebook.Proofs.Success
import BlockNotebook.Proofs.Yaml.Scalar.Digits
import BlockNotebook.Yaml.Token.Tag
/-!
Texts that show the tag of a whole number (`IsUnsignedInt`), and how they are read.
-/

namespace BlockNotebook.Yaml.Scalar

open Text Tag

theorem isOk_readInteger {base : Nat} {ds tail : List Char} (hne : ds ≠ []) (h : ds.all (Number.isDigitOf base))
    (htail : IsTail tail) (hshort : Number.isBinaryBase base ∨ ds.length ≤ Number.maxDigits) :
    (readInteger base (ofChars (ds ++ tail))).isOk := by
  rw [readInteger, isOk_mapError]
  rcases Number.readInteger_digits hne (List.all_eq_true.1 h) htail.isWhiteSpace with ⟨i, hi⟩ | ⟨hbase, hlong⟩
  · rw [hi]
    rfl
  · rcases hshort with hbinary | hshort
    · rw [hbase] at hbinary
      cases hbinary
    · exact absurd hlong (Nat.not_lt.2 hshort)

/-- The characters of a class are digits of a base, which can be seen by looking at ASCII. -/
theorem all_isDigitOf {base : Nat} {p : Char → Bool} (hascii : ∀ c, p c → c.toNat < 128)
    (h : ∀ n < 128, p (Char.ofNat n) → Number.isDigitOf base (Char.ofNat n)) {ds : List Char} (hds : ds.all p) :
    ds.all (Number.isDigitOf base) :=
  List.all_eq_true.2 fun c hc =>
    have hp := List.all_eq_true.1 hds c hc
    @Number.forall_ascii (fun c => p c → Number.isDigitOf base c) h _ (hascii c hp) hp

theorem isDigitOf_ten {ds : List Char} (h : ds.all isAsciiDigit) : ds.all (Number.isDigitOf 10) :=
  all_isDigitOf (fun _ => Number.toNat_lt_of_isAsciiDigit) (by decide +kernel) h

def isBinaryDigit (c : Char) : Bool := c == '0' || c == '1'

def isOctalDigit (c : Char) : Bool := decide ('0' ≤ c) && decide (c ≤ '7')

/-- The spellings of whole numbers without a sign. -/
inductive IsUnsignedInt : List Char → Prop
  | binary {ds : List Char} (h : ds.all fun c => isBinaryDigit c || c == '_') : IsUnsignedInt ('0' :: 'b' :: ds)
  | hex {ds : List Char} (h : ds.all fun c => isHexDigit c || c == '_') : IsUnsignedInt ('0' :: 'x' :: ds)
  | octal {ds : List Char} (h : ds.all fun c => isOctalDigit c || c == '_') : IsUnsignedInt ('0' :: ds)
  | decimal {c : Char} {cs : List Char} (hc : c ≠ '0') (h : isNumeral (c :: cs)) : IsUnsignedInt (c :: cs)
  | sexagesimal {c : Char} {cs : List Char} (hc : c ≠ '0') (h : isSexagesimal (c :: cs)) : IsUnsignedInt (c :: cs)

theorem IsUnsignedInt.of_isIntText {cs : List Char} (h : isIntText cs) : IsUnsignedInt (dropSign cs) := by
  unfold isIntText at h
  dsimp only at h
  split at h
  · rename_i hcs
    exact hcs ▸ @IsUnsignedInt.octal [] rfl
  · rename_i ds hcs
    exact hcs ▸ .binary (Bool.and_eq_true_iff.1 h).2
  · rename_i ds hcs
    exact hcs ▸ .hex (Bool.and_eq_true_iff.1 h).2
  · rename_i ds _ _ _ hcs
    exact hcs ▸ .octal (Bool.and_eq_true_iff.1 h).2
  · rename_i hzero
    cases hcs : dropSign cs with
    | nil =>
      rw [hcs] at h
      cases h
    | cons c rest =>
      have hc : c ≠ '0' := by
        rintro rfl
        exact hzero _ hcs
      rw [hcs] at h
      rcases Bool.or_eq_true_iff.1 h with h | h
      · exact .decimal hc h
      · exact .sexagesimal hc h

/-- After the mark of its base, a number has digits unless the text is strained. -/
theorem isOk_marked {base : Nat} {p : Char → Bool} (hbase : Number.isBinaryBase base)
    (hp : ∀ {ds : List Char}, ds.all p → ds.all (Number.isDigitOf base)) {ds tail : List Char}
    (h : ds.all fun c => p c || c == '_') (hdigits : ¬ ds.all (· == '_')) (htail : IsTail tail) :
    (readInteger base (ofChars (strip ds ++ tail))).isOk := by
  refine isOk_readInteger (fun hnil => hdigits ?_) (hp (strip_all h)) htail (.inl hbase)
  refine List.all_eq_true.2 fun c hc => ?_
  simpa using List.filter_eq_nil_iff.1 hnil c hc

theorem readUnsigned_of_ne {c : Char} (hc : c ≠ '0') (cs : List Char) :
    readUnsigned (ofChars (c :: cs)) =
      if (c :: cs).contains ':' then (((split ':' (c :: cs)).map ofChars).mapM (readInteger 10)).map (ofParts 60)
      else readInteger 10 (ofChars (c :: cs)) := by
  rw [← contains_ofChars, ← split_ofChars]
  unfold readUnsigned
  split
  · rename_i h
    cases h
  · rename_i h
    exact absurd (CodePoint.char.inj (List.cons.inj h).1) hc
  · rename_i h
    exact absurd (CodePoint.char.inj (List.cons.inj h).1) hc
  · rename_i h
    exact absurd (CodePoint.char.inj (List.cons.inj h).1) hc
  · rename_i h
    exact absurd (CodePoint.char.inj (List.cons.inj h).1) hc
  · rfl

theorem readUnsigned_zero {c : Char} (hb : c ≠ 'b') (hx : c ≠ 'x') (cs : List Char) :
    readUnsigned (ofChars ('0' :: c :: cs)) = readInteger 8 (ofChars ('0' :: c :: cs)) := by
  unfold readUnsigned
  split
  · rename_i h
    cases h
  · rename_i h
    cases h
  · rename_i h
    exact absurd (CodePoint.char.inj (List.cons.inj (List.cons.inj h).2).1) hb
  · rename_i h
    exact absurd (CodePoint.char.inj (List.cons.inj (List.cons.inj h).2).1) hx
  · rfl
  · rename_i h
    exact absurd rfl (h _)

theorem all_isDigitOf_eight {ds : List Char} (h : ds.all isOctalDigit) : ds.all (Number.isDigitOf 8) := by
  refine all_isDigitOf (fun c hc => ?_) (by decide +kernel) h
  have hle : c ≤ '7' := of_decide_eq_true (Bool.and_eq_true_iff.1 hc).2
  exact Nat.lt_of_le_of_lt hle (by decide)

theorem all_isDigitOf_two {ds : List Char} (h : ds.all isBinaryDigit) : ds.all (Number.isDigitOf 2) := by
  refine all_isDigitOf (fun c hc => ?_) (by decide +kernel) h
  rcases Bool.or_eq_true_iff.1 hc with hc | hc <;> rw [eq_of_beq hc] <;> decide

theorem all_isDigitOf_sixteen {ds : List Char} (h : ds.all isHexDigit) : ds.all (Number.isDigitOf 16) := by
  refine all_isDigitOf (fun c hc => ?_) (by decide +kernel) h
  simp only [isHexDigit, Bool.or_eq_true, Bool.and_eq_true, decide_eq_true_eq] at hc
  rcases hc with (hc | ⟨-, hc⟩) | ⟨-, hc⟩
  · exact Number.toNat_lt_of_isAsciiDigit hc
  · exact Nat.lt_of_le_of_lt hc (by decide)
  · exact Nat.lt_of_le_of_lt hc (by decide)

/-- A zero and then octal digits, or none. -/
theorem isOk_octal {ds tail : List Char} (h : ds.all isOctalDigit) (htail : IsTail tail) :
    (readUnsigned (ofChars ('0' :: ds ++ tail))).isOk := by
  cases hcs : ds ++ tail with
  | nil =>
    rw [List.cons_append, hcs]
    rfl
  | cons c cs =>
    have hc : c ≠ 'b' ∧ c ≠ 'x' := by
      rcases List.mem_append.1 (hcs ▸ List.mem_cons_self : c ∈ ds ++ tail) with hc | hc
      · have hdigit := List.all_eq_true.1 h c hc
        constructor <;> rintro rfl <;> cases hdigit
      · rcases htail with rfl | rfl
        · cases hc
        · rw [List.mem_singleton.1 hc]
          decide
    rw [List.cons_append, hcs, readUnsigned_zero hc.1 hc.2, ← hcs, ← List.cons_append]
    refine isOk_readInteger (List.cons_ne_nil _ _) (all_isDigitOf_eight ?_) htail (.inl rfl)
    rw [List.all_cons, h]
    rfl

/-- An unsigned whole number is read, unless it has no digits or too many. -/
theorem IsUnsignedInt.isOk {cs tail : List Char} (h : IsUnsignedInt cs) (htail : IsTail tail)
    (hdigits : ∀ mark lines, mark = 'b' ∨ mark = 'x' → lines.all (· == '_') → cs ≠ '0' :: mark :: lines)
    (hshort : ∀ ds, ds <:+: strip cs → ds.all isAsciiDigit → ds.length ≤ Number.maxDigits) :
    (readUnsigned (ofChars (strip cs ++ tail))).isOk := by
  cases h with
  | binary h =>
    rw [strip_cons (by decide), strip_cons (by decide)]
    exact isOk_marked rfl all_isDigitOf_two h (fun hl => hdigits _ _ (.inl rfl) hl rfl) htail
  | hex h =>
    rw [strip_cons (by decide), strip_cons (by decide)]
    exact isOk_marked rfl all_isDigitOf_sixteen h (fun hl => hdigits _ _ (.inr rfl) hl rfl) htail
  | octal h =>
    rw [strip_cons (by decide)]
    exact isOk_octal (strip_all h) htail
  | @decimal c cs hc h =>
    have hline := ne_line_of_digit (Bool.and_eq_true_iff.1 h).1
    obtain ⟨hall, hne⟩ := HasDigits.of_isNumeral h
    have hds := strip_all hall
    have hread := isOk_readInteger hne (isDigitOf_ten hds) htail (.inr (hshort _ (List.infix_refl _) hds))
    have hcolon := notMem_colon_of_digits hds htail
    rw [strip_cons hline, List.cons_append] at hread hcolon ⊢
    rw [readUnsigned_of_ne hc, if_neg (by simpa using hcolon)]
    exact hread
  | @sexagesimal c cs hc h =>
    have hline := ne_line_of_digit (isAsciiDigit_of_isSexagesimal h)
    have hcolon : ':' ∈ strip (c :: cs) ++ tail :=
      List.mem_append_left _ (List.mem_filter.2 ⟨(hasDigits_of_isSexagesimal h).1, rfl⟩)
    have hread := (@forall_sixtieths _ tail h (@notMem_colon_of_digits [] tail rfl htail)
      (fun p => (readInteger 10 (ofChars p)).isOk) fun ds hne hall hds => by
        have hshort : Number.isBinaryBase 10 ∨ ds.length ≤ Number.maxDigits := .inr (hshort ds hds hall)
        have hok := isOk_readInteger hne (isDigitOf_ten hall) (.inl rfl) hshort
        rw [List.append_nil] at hok
        exact ⟨hok, isOk_readInteger hne (isDigitOf_ten hall) htail hshort⟩).1
    obtain ⟨ns, hns, -⟩ := exists_mapM (List.forall_mem_map.2 hread)
    rw [strip_cons hline, List.cons_append] at hcolon hns ⊢
    rw [readUnsigned_of_ne hc, if_pos (by simpa using hcolon), isOk_map, hns]
    rfl

theorem IsUnsignedInt.head {cs : List Char} (h : IsUnsignedInt cs) : ∃ c rest, cs = c :: rest ∧ isAsciiDigit c := by
  cases h with
  | binary => exact ⟨_, _, rfl, rfl⟩
  | hex => exact ⟨_, _, rfl, rfl⟩
  | octal => exact ⟨_, _, rfl, rfl⟩
  | decimal _ h => exact ⟨_, _, rfl, (Bool.and_eq_true_iff.1 h).1⟩
  | sexagesimal _ h => exact ⟨_, _, rfl, isAsciiDigit_of_isSexagesimal h⟩

theorem readInt_of_digit {c : Char} (hc : isAsciiDigit c) {t rest : Text} (ht : withoutLines t = .char c :: rest) :
    readInt t = (readUnsigned (.char c :: rest)).map .int := by
  unfold readInt
  rw [ht]
  split
  · rename_i h
    cases h
  · rename_i h
    cases h
    cases hc
  · rename_i h
    cases h
    cases hc
  · rfl

/-- A text that shows the tag of a whole number is one, unless it is strained. -/
theorem isOk_readInt {cs : List Char} (h : isIntText (dropLastLineFeed cs)) (hs : ¬ Strained cs) :
    (readInt (ofChars cs)).isOk := by
  obtain ⟨tail, htail, hcs⟩ := exists_tail cs
  have hstretch := unsigned_isInfix cs
  have hunsigned := IsUnsignedInt.of_isIntText h
  generalize hbody : dropSign (dropLastLineFeed cs) = body at hstretch hunsigned
  have hread : (readUnsigned (ofChars (strip body ++ tail))).isOk := by
    refine hunsigned.isOk htail (fun mark lines hmark hlines heq => ?_) fun ds hds hall => ?_
    · exact hs (.noDigits hmark (hbody.trans heq) hlines)
    · exact Nat.not_lt.1 fun hlong => hs (.tooLong (hds.trans (hstretch.filter _)) hall hlong)
  have hstrip : withoutLines (ofChars cs) = ofChars (strip (dropLastLineFeed cs) ++ tail) := by
    rw [withoutLines_ofChars, ← strip_append _ _ htail, ← hcs]
  rcases dropSign_cases (dropLastLineFeed cs) with ⟨sign, hsign, heq⟩ | heq
  · rw [heq, hbody] at hstrip
    unfold readInt
    rcases hsign with rfl | rfl
    · rw [hstrip]
      exact isOk_map.trans hread
    · rw [hstrip]
      exact isOk_map.trans hread
  · obtain ⟨c, rest, rfl, hc⟩ := hunsigned.head
    rw [← heq, hbody, strip_cons (ne_line_of_digit hc)] at hstrip
    rw [strip_cons (ne_line_of_digit hc)] at hread
    rw [readInt_of_digit hc hstrip]
    exact isOk_map.trans hread

end BlockNotebook.Yaml.Scalar
