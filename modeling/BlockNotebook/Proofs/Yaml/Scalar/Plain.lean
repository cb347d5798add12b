import BlockNotebook.Proofs.Yaml.Scalar.Float
import BlockNotebook.Proofs.Yaml.Scalar.Int
/-!
Texts that show their tag are data of that tag, unless they are strained.
-/

namespace BlockNotebook.Yaml.Scalar

open Text Tag

/-! ## Truth values -/

theorem isOk_readFlag {cs : List Char} (h : isFlagText cs) : (readFlag (ofChars cs)).isOk := by
  have hwords : ∀ word ∈ ["yes", "Yes", "YES", "no", "No", "NO", "true", "True", "TRUE", "false", "False", "FALSE",
      "on", "On", "ON", "off", "Off", "OFF"], (readFlag (ofChars word.toList)).isOk := by decide +kernel
  obtain ⟨word, hword, heq⟩ := List.any_eq_true.1 h
  exact eq_of_beq heq ▸ hwords word hword

/-! ## All texts -/

/-- No character of the text stands in for a surrogate. -/
def HasNoStandIn (cs : List Char) : Prop := '\uFFFD' ∉ cs

theorem hasNoStandIn_of_isOneOf {words : List String} (hwords : ∀ word ∈ words, '\uFFFD' ∉ word.toList) {cs : List Char}
    (h : isOneOf words cs) : HasNoStandIn cs := by
  obtain ⟨word, hword, heq⟩ := List.any_eq_true.1 h
  exact eq_of_beq heq ▸ hwords word hword

theorem HasNoStandIn.of_dropSign {cs : List Char} (h : HasNoStandIn (dropSign cs)) : HasNoStandIn cs := by
  rcases dropSign_cases cs with ⟨sign, hsign, hcs⟩ | hcs
  · rw [hcs]
    exact List.not_mem_cons_of_ne_of_not_mem (by rcases hsign with rfl | rfl <;> decide) h
  · exact hcs ▸ h

theorem IsUnsignedFloat.hasNoStandIn {cs : List Char} (h : IsUnsignedFloat cs) : HasNoStandIn cs := fun hc =>
  absurd (List.all_eq_true.1 h.chars _ hc) (by decide)

theorem hasNoStandIn_of_all {p : Char → Bool} (hp : p '\uFFFD' = false) {cs : List Char} (h : cs.all p) : HasNoStandIn cs :=
  fun hc => Bool.false_ne_true (hp.symm.trans (List.all_eq_true.1 h _ hc))

theorem HasNoStandIn.cons {c : Char} (hc : c ≠ '\uFFFD') {cs : List Char} (h : HasNoStandIn cs) : HasNoStandIn (c :: cs) :=
  List.not_mem_cons_of_ne_of_not_mem (Ne.symm hc) h

theorem IsUnsignedInt.hasNoStandIn {cs : List Char} (h : IsUnsignedInt cs) : HasNoStandIn cs := by
  cases h with
  | binary h => exact .cons (by decide) (.cons (by decide) (hasNoStandIn_of_all (by decide) h))
  | hex h => exact .cons (by decide) (.cons (by decide) (hasNoStandIn_of_all (by decide) h))
  | octal h => exact .cons (by decide) (hasNoStandIn_of_all (by decide) h)
  | decimal _ h => exact hasNoStandIn_of_all (by decide) (HasDigits.of_isNumeral h).all
  | sexagesimal _ h => exact fun hc => absurd (mem_of_isSexagesimal h hc) (by decide)

theorem HasNoStandIn.of_dropLastLineFeed {cs : List Char} (h : HasNoStandIn (dropLastLineFeed cs)) : HasNoStandIn cs := by
  obtain ⟨tail, htail, hcs⟩ := exists_tail cs
  rw [hcs]
  intro hc
  rcases List.mem_append.1 hc with hc | hc
  · exact h hc
  · rcases htail with rfl | rfl
    · cases hc
    · exact absurd hc (by decide)

/-- A text from which the data of its own tag cannot be read is strained. -/
theorem read_ofText {t : Text} {start : Mark} {f : ScalarFault}
    (h : read (ofText false t) t start = .error (.scalar f)) : Strained t.characters := by
  have hbad {x : Except ScalarFault Value} (hx : x.mapError Fault.scalar = .error (.scalar f)) : ¬ x.isOk := by
    cases x with
    | ok a => cases hx
    | error e => exact Bool.false_ne_true
  have hwhole (hinit : HasNoStandIn (dropLastLineFeed t.characters)) : t = ofChars t.characters :=
    eq_ofChars hinit.of_dropLastLineFeed
  by_contra hs
  have hshown := shown_ofText false t
  generalize ofText false t = tag at h hshown
  cases hshown with
  | flag hflag =>
    have hread : (readFlag t).isOk := by
      obtain ⟨tail, rfl | rfl, hcs⟩ := exists_tail t.characters
      · rw [hwhole (hasNoStandIn_of_isOneOf (by decide +kernel) hflag), hcs, List.append_nil]
        exact isOk_readFlag hflag
      · exact absurd (hcs ▸ .ended (.inl hflag)) hs
    exact hbad h hread
  | float hfloat =>
    have hinit : HasNoStandIn (dropLastLineFeed t.characters) := by
      rcases isFloatText_cases hfloat with hword | hfloat
      · exact .of_dropSign (hasNoStandIn_of_isOneOf (by decide +kernel) hword)
      · exact .of_dropSign hfloat.hasNoStandIn
    have hread := isOk_readFloat hfloat hs
    rw [← hwhole hinit] at hread
    exact hbad h hread
  | int hint =>
    have hread := isOk_readInt hint hs
    rw [← hwhole (.of_dropSign (IsUnsignedInt.of_isIntText hint).hasNoStandIn)] at hread
    exact hbad h hread
  | date hdates => cases hdates
  | other htag =>
    -- the tags that are left take every text
    simp only [List.mem_cons, List.not_mem_nil, or_false] at htag
    rcases htag with rfl | rfl | rfl | rfl | rfl <;> cases h

end BlockNotebook.Yaml.Scalar
