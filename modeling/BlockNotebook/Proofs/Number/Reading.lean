import BlockNotebook.Number.Reading
import BlockNotebook.Proofs.Text.Trim
/-!
Texts that are read as numbers.

A run of digits is a whole number, unless it is too long for base ten
(`readInteger_digits`). Digits with a point and an exponent are always a number
(`IsDecimal.readFraction`). White space after them does not matter.
-/

namespace BlockNotebook.Number

open Text

/-! ## Characters -/

/-- What holds of each code point of ASCII holds of each of its characters. -/
theorem forall_ascii {p : Char → Prop} (h : ∀ n < 128, p (Char.ofNat n)) {c : Char} (hc : c.toNat < 128) : p c := by
  have hp := h c.toNat hc
  rwa [Char.ofNat_toNat] at hp

theorem toNat_lt_of_isAsciiDigit {c : Char} (h : isAsciiDigit c) : c.toNat < 128 := by
  simp only [isAsciiDigit, Bool.and_eq_true, decide_eq_true_eq] at h
  have hle : c.toNat ≤ 57 := h.2
  omega

/-- White space after a text is trimmed off. -/
theorem trim_append {cs tail : List Char} (hcs : ∀ c ∈ cs, isWhiteSpace c = false) (htail : ∀ c ∈ tail, isWhiteSpace c) :
    trim isWhiteSpace (cs ++ tail) = cs :=
  IsTrimmed.trim_eq ⟨⟨[], tail, rfl, htail⟩, fun c hc => hcs c (List.mem_of_mem_head? hc),
    fun c hc => hcs c (List.mem_of_getLast? hc)⟩

/-! ## Whole numbers -/

/-- A digit of a base, other than white space and low lines. -/
def isDigitOf (base : Nat) (c : Char) : Bool :=
  c != '_' && !isWhiteSpace c && (alphanumericValue? c).any fun d => decide (d < base)

theorem digitsFrom_digits {base : Nat} {ds : List Char} (h : ∀ c ∈ ds, isDigitOf base c) {afterLine : Bool}
    (hline : ds = [] → afterLine = false) (value count : Nat) :
    ∃ v, digitsFrom base value count afterLine ds = some (v, count + ds.length, []) := by
  induction ds generalizing value count afterLine with
  | nil => exact ⟨value, by rw [digitsFrom, hline rfl]; rfl⟩
  | cons c rest ih =>
    obtain ⟨hc, hrest⟩ := List.forall_mem_cons.1 h
    simp only [isDigitOf, Bool.and_eq_true, bne_iff_ne, ne_eq] at hc
    obtain ⟨⟨hline, -⟩, hvalue⟩ := hc
    cases hd : alphanumericValue? c with
    | none => rw [hd] at hvalue; cases hvalue
    | some d =>
      rw [hd, Option.any_some, decide_eq_true_eq] at hvalue
      obtain ⟨v, hv⟩ := ih hrest (fun _ => rfl) (value * base + d) (count + 1)
      refine ⟨v, ?_⟩
      rw [digitsFrom, if_neg (by simpa using hline), hd, List.length_cons, Nat.add_comm rest.length, ← Nat.add_assoc,
        ← hv]
      exact if_pos hvalue

/-- No mark of a base is made of digits of that base. -/
theorem dropBaseMark_digits {base : Nat} {ds : List Char} (h : ∀ c ∈ ds, isDigitOf base c) : dropBaseMark base ds = ds := by
  unfold dropBaseMark
  extract_lets marked
  have hmarked {low high : Char} (hlow : isDigitOf base low = false) (hhigh : isDigitOf base high = false) :
      marked low high = ds := by
    have hno {c : Char} (hc : c ∈ ds) : ¬ (c == low || c == high) = true := by
      intro hor
      have hdigit := h c hc
      rcases Bool.or_eq_true_iff.1 hor with hmark | hmark
      · rw [eq_of_beq hmark, hlow] at hdigit
        cases hdigit
      · rw [eq_of_beq hmark, hhigh] at hdigit
        cases hdigit
    simp only [marked]
    split
    · exact if_neg (hno (by simp))
    · exact if_neg (hno (by simp))
    · rfl
  split
  · rename_i hbase
    obtain rfl := eq_of_beq hbase
    exact hmarked (by decide) (by decide)
  split
  · rename_i hbase
    obtain rfl := eq_of_beq hbase
    exact hmarked (by decide) (by decide)
  split
  · rename_i hbase
    obtain rfl := eq_of_beq hbase
    exact hmarked (by decide) (by decide)
  · rfl

theorem splitSign_digits {base : Nat} {ds : List Char} (h : ∀ c ∈ ds, isDigitOf base c) : splitSign ds = (false, ds) := by
  have hsign (c : Char) (hc : alphanumericValue? c = none) : c ∉ ds := by
    intro hmem
    have hdigit := h c hmem
    simp [isDigitOf, hc] at hdigit
  unfold splitSign
  split
  · exact absurd List.mem_cons_self (hsign '-' (by decide))
  · exact absurd List.mem_cons_self (hsign '+' (by decide))
  · rfl

/-- A run of digits is a whole number, unless it is too long. -/
theorem readInteger_digits {base : Nat} {ds tail : List Char} (hne : ds ≠ []) (h : ∀ c ∈ ds, isDigitOf base c)
    (htail : ∀ c ∈ tail, isWhiteSpace c) :
    (∃ i, readInteger base (ofChars (ds ++ tail)) = .ok i) ∨ isBinaryBase base = false ∧ maxDigits < ds.length := by
  have hspace : ∀ c ∈ ds, isWhiteSpace c = false := fun c hc => by
    have hdigit := h c hc
    simp only [isDigitOf, Bool.and_eq_true, Bool.not_eq_true'] at hdigit
    exact hdigit.1.2
  obtain ⟨v, hv⟩ := @digitsFrom_digits base ds h true (fun hnil => absurd hnil hne) 0 0
  have hlength : ¬ (0 + ds.length == 0) = true := by simpa using hne
  unfold readInteger
  rw [characters_ofChars, trim_append hspace htail, splitSign_digits h]
  simp only [dropBaseMark_digits h, hv]
  rw [if_neg hlength]
  split
  · rename_i hlong
    simp only [Bool.and_eq_true, Bool.not_eq_true', decide_eq_true_eq, Nat.zero_add] at hlong
    exact .inr hlong
  · exact .inl ⟨_, rfl⟩

/-! ## Decimal fractions -/

/-- An exponent with a sign, or none. -/
inductive IsExponent : List Char → Prop
  | none : IsExponent []
  | some {s : Char} {ds : List Char} (hs : s = '-' ∨ s = '+') (hne : ds ≠ []) (hds : ds.all isAsciiDigit) :
    IsExponent ('e' :: s :: ds)

/-- Digits with or without a point among them, and an exponent. -/
inductive IsDecimal : List Char → Prop
  | mk {whole point fraction exponent : List Char} (hwhole : whole.all isAsciiDigit)
      (hpoint : point = [] ∧ fraction = [] ∨ point = '.' :: fraction) (hfraction : fraction.all isAsciiDigit)
      (hne : whole ++ fraction ≠ []) (hexponent : IsExponent exponent) : IsDecimal (whole ++ point ++ exponent)

theorem IsDecimal.of_digits {ds : List Char} (hne : ds ≠ []) (h : ds.all isAsciiDigit) : IsDecimal ds := by
  have hdecimal := IsDecimal.mk h (.inl ⟨rfl, rfl⟩) rfl (by rwa [List.append_nil]) .none
  rwa [List.append_nil, List.append_nil] at hdecimal

theorem IsDecimal.of_point {ds fraction : List Char} (hne : ds ≠ []) (h : ds.all isAsciiDigit)
    (hfraction : fraction.all isAsciiDigit) : IsDecimal (ds ++ '.' :: fraction) := by
  have hdecimal := IsDecimal.mk h (.inr rfl) hfraction (List.append_ne_nil_of_left_ne_nil hne _) .none
  rwa [List.append_nil] at hdecimal

/-- A character of a decimal fraction. -/
def isDecimalChar (c : Char) : Bool := isAsciiDigit c || c == '.' || c == 'e' || c == '-' || c == '+'

theorem isDecimalChar_plain {c : Char} (h : isDecimalChar c) : c ≠ '_' ∧ isWhiteSpace c = false ∧ toAsciiDigit c = c := by
  have hall : ∀ n < 128, isDecimalChar (Char.ofNat n) → Char.ofNat n ≠ '_' ∧ isWhiteSpace (Char.ofNat n) = false ∧
      toAsciiDigit (Char.ofNat n) = Char.ofNat n := by decide +kernel
  have hlt : c.toNat < 128 := by
    simp only [isDecimalChar, Bool.or_eq_true, beq_iff_eq] at h
    rcases h with (((h | rfl) | rfl) | rfl) | rfl
    · exact toNat_lt_of_isAsciiDigit h
    all_goals decide
  exact @forall_ascii (fun c => isDecimalChar c → c ≠ '_' ∧ isWhiteSpace c = false ∧ toAsciiDigit c = c) hall _ hlt h

theorem all_isDecimalChar_of_digits {ds : List Char} (h : ds.all isAsciiDigit) : ds.all isDecimalChar :=
  List.all_eq_true.2 fun c hc => by simp [isDecimalChar, List.all_eq_true.1 h c hc]

theorem IsExponent.chars {cs : List Char} (h : IsExponent cs) : cs.all isDecimalChar := by
  cases h with
  | none => rfl
  | some hs hne hds =>
    have hdigits := all_isDecimalChar_of_digits hds
    rcases hs with rfl | rfl <;> simp [isDecimalChar, hdigits]

theorem IsDecimal.chars {cs : List Char} (h : IsDecimal cs) : cs.all isDecimalChar := by
  obtain ⟨hwhole, hpoint, hfraction, -, hexponent⟩ := h
  rw [List.all_append, List.all_append, all_isDecimalChar_of_digits hwhole, hexponent.chars]
  rcases hpoint with ⟨rfl, -⟩ | rfl
  · rfl
  · rw [List.all_cons, all_isDecimalChar_of_digits hfraction]
    rfl

/-- Without low lines nothing is taken out. -/
theorem dropLowLines_of_notMem {cs : List Char} (h : '_' ∉ cs) {previous : Char} (hp : previous ≠ '_') :
    dropLowLines previous cs = some cs := by
  induction cs generalizing previous with
  | nil => exact if_neg (by simpa using hp)
  | cons c rest ih =>
    have hc : c ≠ '_' := fun hc => h (hc ▸ List.mem_cons_self)
    rw [dropLowLines, if_neg (by simpa using hc), if_neg (by simp [hp]), ih (fun hr => h (List.mem_cons_of_mem _ hr)) hc]
    rfl

/-- Digits, and then what does not begin with one. -/
theorem span_digits {ds rest : List Char} (hds : ds.all isAsciiDigit) (hrest : ∀ c ∈ rest.head?, isAsciiDigit c = false) :
    (ds ++ rest).takeWhile isAsciiDigit = ds ∧ (ds ++ rest).dropWhile isAsciiDigit = rest := by
  have hall := List.all_eq_true.1 hds
  rw [List.takeWhile_append_of_pos hall, List.dropWhile_append_of_pos hall]
  cases rest with
  | nil => exact ⟨List.append_nil _, rfl⟩
  | cons c rest =>
    have hc := hrest c rfl
    rw [List.takeWhile_cons_of_neg (by simp [hc]), List.dropWhile_cons_of_neg (by simp [hc])]
    exact ⟨List.append_nil _, rfl⟩

theorem IsExponent.head {cs : List Char} (h : IsExponent cs) : ∀ c ∈ cs.head?, isAsciiDigit c = false := by
  cases h with
  | none => nofun
  | some => rintro _ ⟨⟩; rfl

theorem IsExponent.exponent? {cs : List Char} (h : IsExponent cs) : (exponent? cs).isSome := by
  cases h with
  | none => rfl
  | some hs hne hds =>
    rcases hs with rfl | rfl
    all_goals
      unfold Number.exponent? splitSign
      simp [hne, hds]

theorem IsDecimal.unsignedDecimal? {cs : List Char} (h : IsDecimal cs) (negative : Bool) :
    (unsignedDecimal? negative cs).isSome := by
  obtain ⟨hwhole, hpoint, hfraction, hne, hexponent⟩ := h
  rename_i whole point fraction exponent
  have hrest : ∀ c ∈ (point ++ exponent).head?, isAsciiDigit c = false := by
    rcases hpoint with ⟨rfl, -⟩ | rfl
    · exact hexponent.head
    · rintro _ ⟨⟩
      rfl
  obtain ⟨htake, hdrop⟩ := span_digits hwhole hrest
  obtain ⟨htake', hdrop'⟩ := span_digits hfraction hexponent.head
  unfold Number.unsignedDecimal?
  rw [List.append_assoc, htake, hdrop]
  rcases hpoint with ⟨rfl, rfl⟩ | rfl
  · have hexp := hexponent.exponent?
    cases hexponent
    all_goals
      dsimp only [List.nil_append]
      rw [if_neg (by simpa using hne), Option.isSome_map]
      exact hexp
  · simp only [List.cons_append, htake', hdrop']
    rw [if_neg (by simpa using hne), Option.isSome_map]
    exact hexponent.exponent?

theorem IsDecimal.ne_nil {cs : List Char} (h : IsDecimal cs) : cs ≠ [] := by
  obtain ⟨-, hpoint, -, hne, -⟩ := h
  rintro hnil
  obtain ⟨hnil, -⟩ := List.append_eq_nil_iff.1 hnil
  obtain ⟨rfl, rfl⟩ := List.append_eq_nil_iff.1 hnil
  rcases hpoint with ⟨-, rfl⟩ | h
  · exact hne rfl
  · cases h

/-- Neither a sign nor a word begins a decimal fraction. -/
theorem IsDecimal.head {cs : List Char} (h : IsDecimal cs) : ∀ c ∈ cs.head?, isAsciiDigit c ∨ c = '.' := by
  obtain ⟨hwhole, hpoint, -, hne, -⟩ := h
  rename_i whole point fraction exponent
  cases whole with
  | cons d ds =>
    rintro _ ⟨⟩
    exact .inl (List.all_eq_true.1 hwhole _ List.mem_cons_self)
  | nil =>
    rcases hpoint with ⟨rfl, rfl⟩ | rfl
    · exact absurd rfl hne
    · rintro _ ⟨⟩
      exact .inr rfl

theorem IsDecimal.decimal? {cs : List Char} (h : IsDecimal cs) : (decimal? cs).isSome := by
  have hsign : splitSign cs = (false, cs) := by
    unfold splitSign
    split
    · exact absurd (h.head _ rfl) (by decide)
    · exact absurd (h.head _ rfl) (by decide)
    · rfl
  have hword {word : String} {a : Char} (hhead : word.toList.head? = some a) (ha : isAsciiDigit a = false ∧ a ≠ '.') :
      (String.ofList (cs.map decimal?.asciiLowerLetter) == word) = false := by
    refine beq_eq_false_iff_ne.2 fun heq => ?_
    cases hcs : cs with
    | nil => exact h.ne_nil hcs
    | cons c rest =>
      have hc := h.head c (by rw [hcs]; rfl)
      have hlower : decimal?.asciiLowerLetter c = c := by
        rcases hc with hc | rfl
        · exact @forall_ascii (fun c => isAsciiDigit c → decimal?.asciiLowerLetter c = c) (by decide +kernel) _
            (toNat_lt_of_isAsciiDigit hc) hc
        · rfl
      rw [← heq, String.toList_ofList, hcs, List.map_cons, hlower] at hhead
      cases hhead
      rcases hc with hc | hc
      · exact Bool.false_ne_true (ha.1.symm.trans hc)
      · exact ha.2 hc
  unfold Number.decimal?
  rw [hsign]
  have hinf := @hword "inf" 'i' rfl (by decide)
  have hinfinity := @hword "infinity" 'i' rfl (by decide)
  have hnan := @hword "nan" 'n' rfl (by decide)
  simp only [hinf, hinfinity, hnan]
  exact h.unsignedDecimal? false

/-- A decimal fraction is a number. -/
theorem IsDecimal.readFraction {cs tail : List Char} (h : IsDecimal cs) (htail : ∀ c ∈ tail, isWhiteSpace c) :
    ∃ x, readFraction (ofChars (cs ++ tail)) = .ok x := by
  have hplain (c : Char) (hc : c ∈ cs) := isDecimalChar_plain (List.all_eq_true.1 h.chars c hc)
  have hmap : cs.map toAsciiDigit = cs :=
    (List.map_congr_left fun c hc => (hplain c hc).2.2).trans (List.map_id' cs)
  have hlines : dropLowLines ' ' cs = some cs := dropLowLines_of_notMem (fun hc => (hplain _ hc).1 rfl) (by decide)
  obtain ⟨x, hx⟩ := Option.isSome_iff_exists.1 h.decimal?
  refine ⟨x, ?_⟩
  rw [Number.readFraction, characters_ofChars, trim_append (fun c hc => (hplain c hc).2.1) htail, hmap, hlines,
    Option.bind_some, hx]

end BlockNotebook.Number
