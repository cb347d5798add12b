import BlockNotebook.Proofs.Notebook.SortingKey
/-!
Sorting keys as numerals.

`IsKey` says what a key looks like and `numeral` what number it spells, both without saying how
keys are made. The places counted from one and the keys are then the same thing: `ofIndex` writes
the key that spells the number of a place, it has one for as many places as there are keys
(`placeCount`), and every key belongs to one place.
-/

namespace BlockNotebook.SortingKey

/-- The number that digits spell, the first one counting most. A digit stands for its position among
the digits, plus one, so that none of them is a zero. -/
def numeral (cs : List Char) : Nat := cs.foldl (fun n c => n * base + (digits.idxOf c + 1)) 0

/-- One to six digits. -/
structure IsKey (key : String) : Prop where
  ne_empty : key ≠ ""
  length_le : key.length ≤ 6
  digits : ∀ c ∈ key.toList, c ∈ digits

/-- How many places have a key: as many as there are rows of one to six digits. -/
def placeCount : Int := 36 + 36 ^ 2 + 36 ^ 3 + 36 ^ 4 + 36 ^ 5 + 36 ^ 6

/-- The fault of a place beyond those with a key. A number that is too long to be written is not
in the message, but a fault of its own. -/
def tooFar (index : Int) : Fault :=
  if index.natAbs < Nat.pow 10 Number.maxDigits then .tooLarge index else .number .tooLongToWrite

/-! ## Texts of digits -/

theorem idxOf_digit (d : Fin base) : digits.idxOf (digit d.val) = d.val := by
  revert d
  decide +kernel

theorem digit_mem (d : Fin base) : digit d.val ∈ digits := by
  revert d
  decide +kernel

theorem exists_digit {c : Char} (h : c ∈ digits) : ∃ d : Fin base, c = digit d.val := by
  have hlt : digits.idxOf c < digits.length := List.idxOf_lt_length_iff.2 h
  refine ⟨⟨digits.idxOf c, hlt⟩, ?_⟩
  rw [digit, List.getD_eq_getElem?_getD, List.getElem?_eq_getElem hlt, List.getElem_idxOf hlt, Option.getD_some]

theorem numeral_written (ds : List (Fin base)) : numeral (written ds) = value ds := by
  simp [numeral, value, written, List.foldl_map, idxOf_digit]

theorem mem_digits_of_written {ds : List (Fin base)} {c : Char} (h : c ∈ written ds) : c ∈ digits := by
  obtain ⟨d, -, rfl⟩ := List.mem_map.1 h
  exact digit_mem d

theorem exists_written {cs : List Char} (h : ∀ c ∈ cs, c ∈ digits) : ∃ ds, cs = written ds := by
  induction cs with
  | nil => exact ⟨[], rfl⟩
  | cons c cs ih =>
    obtain ⟨hc, hcs⟩ := List.forall_mem_cons.1 h
    obtain ⟨d, rfl⟩ := exists_digit hc
    obtain ⟨ds, rfl⟩ := ih hcs
    exact ⟨d :: ds, rfl⟩

theorem isKey_written_iff {ds : List (Fin base)} : IsKey (String.ofList (written ds)) ↔ ds ≠ [] ∧ ds.length ≤ 6 := by
  constructor
  · intro h
    refine ⟨?_, by simpa using h.length_le⟩
    rintro rfl
    exact h.ne_empty rfl
  · rintro ⟨hne, hlength⟩
    refine ⟨?_, by simpa using hlength, ?_⟩
    · intro hempty
      have hnil : written ds = [] := by simpa using congrArg String.toList hempty
      exact hne (List.map_eq_nil_iff.1 hnil)
    · intro c hc
      rw [String.toList_ofList] at hc
      exact mem_digits_of_written hc

/-! ## Keys of places -/

/-- A place has a key exactly if one spells its number. -/
theorem ofIndex_eq_ok_iff_numeral {i : Int} {key : String} :
    ofIndex i = .ok key ↔ IsKey key ∧ (numeral key.toList : Int) = i + 1 := by
  rw [ofIndex_eq_ok_iff]
  constructor
  · rintro ⟨hi, ds, rfl, hlength, hvalue⟩
    refine ⟨isKey_written_iff.2 ⟨?_, hlength⟩, ?_⟩
    · rintro rfl
      simp at hvalue
      omega
    · rw [String.toList_ofList, numeral_written, hvalue]
  · rintro ⟨hkey, hnumeral⟩
    obtain ⟨ds, hds⟩ := exists_written hkey.digits
    obtain rfl : key = String.ofList (written ds) := by rw [← hds, String.ofList_toList]
    obtain ⟨hne, hlength⟩ := isKey_written_iff.1 hkey
    rw [String.toList_ofList, numeral_written] at hnumeral
    have hpos : 1 ≤ ds.length := List.length_pos_iff.2 hne
    have hleast : least 1 ≤ value ds := Nat.le_trans (least_mono hpos) (least_le_value ds)
    have hone : least 1 = 1 := rfl
    exact ⟨by omega, ds, rfl, hlength, hnumeral⟩

/-- Nothing is left of a number once all its digits are taken. One digit taken leaves a number with
one digit less, so it is the least number with more digits that decides. -/
theorem digitsBefore_rest (key : List Char) (length n : Nat) :
    (digitsBefore key length n).2 = 0 ↔ n < least (length + 1) := by
  induction length generalizing key n with
  | zero => simp [digitsBefore, least]
  | succ length ih =>
    rw [digitsBefore, least]
    by_cases hn : n = 0
    · simp [hn]
    · rw [if_neg (by simpa using hn), ih]
      simp only [base]
      omega

/-- The fault of a place for which digits are left over. -/
theorem ofIndex_of_rest {i : Int} {key : List Char} {rest : Nat} (hi : ¬ i < 0)
    (h : digitsBefore [] maxLength (i.toNat + 1) = (key, rest + 1)) : ofIndex i = .error (tooFar i) := by
  rw [ofIndex, if_neg hi, h, Number.integerText, tooFar]
  by_cases hshort : i.natAbs < Nat.pow 10 Number.maxDigits
  · simp only [if_pos hshort]
  · simp only [if_neg hshort]

theorem ofIndex_eq_error_iff {i : Int} {f : Fault} :
    ofIndex i = .error f ↔ (i < 0 ∧ f = .negative) ∨ (placeCount ≤ i ∧ f = tooFar i) := by
  have hleast : (least (maxLength + 1) : Int) = placeCount + 1 := by decide +kernel
  have hcount : 0 < placeCount := by decide
  by_cases hi : i < 0
  · simp only [ofIndex, if_pos hi, Except.error.injEq]
    constructor
    · intro hf
      exact .inl ⟨hi, hf.symm⟩
    · rintro (⟨-, rfl⟩ | ⟨hfar, -⟩)
      · rfl
      · omega
  · have hrest := digitsBefore_rest [] maxLength (i.toNat + 1)
    cases hdigits : digitsBefore [] maxLength (i.toNat + 1) with
    | mk key rest =>
      rw [hdigits] at hrest
      cases rest with
      | zero =>
        have hnear : i.toNat + 1 < least (maxLength + 1) := hrest.1 rfl
        rw [ofIndex, if_neg hi, hdigits]
        constructor
        · intro h
          cases h
        · rintro (⟨hneg, -⟩ | ⟨hfar, -⟩) <;> omega
      | succ rest =>
        have hfar : ¬ i.toNat + 1 < least (maxLength + 1) := fun h => absurd (hrest.2 h) (by simp)
        rw [ofIndex_of_rest hi hdigits, Except.error.injEq]
        constructor
        · intro hf
          exact .inr ⟨by omega, hf.symm⟩
        · rintro (⟨hneg, -⟩ | ⟨-, hf⟩)
          · omega
          · exact hf.symm

theorem exists_key {i : Int} (h : 0 ≤ i) (hcount : i < placeCount) : ∃ key, ofIndex i = .ok key := by
  cases hkey : ofIndex i with
  | ok key => exact ⟨key, rfl⟩
  | error f =>
    rcases ofIndex_eq_error_iff.1 hkey with ⟨hneg, -⟩ | ⟨hfar, -⟩ <;> omega

/-- Places and keys are one to one. A place has no key exactly if it is negative or beyond the last
one, and each with its fault; the key of any other spells its number, counted from one. So no two
places share a key, and every key is that of one place. -/
theorem ofIndex_bijective :
    (∀ i f, ofIndex i = .error f ↔ (i < 0 ∧ f = .negative) ∨ (placeCount ≤ i ∧ f = tooFar i)) ∧
    (∀ i, 0 ≤ i → i < placeCount →
      ∃ key, ofIndex i = .ok key ∧ IsKey key ∧ (numeral key.toList : Int) = i + 1) ∧
    (∀ i j key, ofIndex i = .ok key → ofIndex j = .ok key → i = j) ∧
    (∀ key, IsKey key → ∃! i, ofIndex i = .ok key) := by
  refine ⟨fun i f => ofIndex_eq_error_iff, ?_, fun i j key hi hj => ofIndex_inj hi hj, ?_⟩
  · intro i h hcount
    obtain ⟨key, hkey⟩ := exists_key h hcount
    exact ⟨key, hkey, ofIndex_eq_ok_iff_numeral.1 hkey⟩
  · intro key hkey
    have hplace : ofIndex ((numeral key.toList : Int) - 1) = .ok key :=
      ofIndex_eq_ok_iff_numeral.2 ⟨hkey, by omega⟩
    exact ⟨_, hplace, fun j hj => ofIndex_inj hj hplace⟩

/-- The last place with a key, and the key. -/
theorem lastPlace_bijective :
    (0 : Int) ≤ 2238976115 ∧ 2238976115 < placeCount ∧
      (∃ key, ofIndex 2238976115 = .ok key ∧ IsKey key ∧ (numeral key.toList : Int) = 2238976115 + 1) ∧
      ofIndex 2238976115 = .ok "zzzzzz" ∧ ofIndex (placeCount - 1) = .ok "zzzzzz" ∧
      (2238976115 : Int) = placeCount - 1 ∧
      IsKey "zzzzzz" ∧ ∃! i, ofIndex i = .ok "zzzzzz" := by
  have hlast : ofIndex 2238976115 = .ok "zzzzzz" := by decide +kernel
  have hcounted : ofIndex (placeCount - 1) = .ok "zzzzzz" := by decide +kernel
  have hdigits : "zzzzzz".toList.all digits.contains := by decide +kernel
  have hkey : IsKey "zzzzzz" :=
    ⟨by decide, by decide, fun c hc => List.contains_iff_mem.1 (List.all_eq_true.1 hdigits c hc)⟩
  exact ⟨by decide, by decide, ofIndex_bijective.2.1 _ (by decide) (by decide), hlast, hcounted,
    ofIndex_bijective.2.2.1 _ _ _ hlast hcounted, hkey, ofIndex_bijective.2.2.2 _ hkey⟩

end BlockNotebook.SortingKey
