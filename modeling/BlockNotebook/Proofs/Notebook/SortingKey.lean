import BlockNotebook.Notebook.SortingKey
import BlockNotebook.Proofs.Notebook.Order
import Mathlib.Data.List.Induction
import Mathlib.Data.List.Nodup
import Mathlib.Tactic.Ring
/-!
Sorting keys of places, and what sorting by them does.

A key is read as digits, of which none is a zero: every number from one on has
exactly one row of digits (`ofIndex_eq_ok_iff`). So a later place never has a
shorter key, and among keys of one length later places sort later. A longer key
sorts by its first digits, though, as if the rest were not there: `key_order`
says which of two places comes first, and `sortBlocks_inPlace` that blocks with
the keys of their places sort in the order of the places up to the 36th only.
-/

namespace BlockNotebook

namespace SortingKey

/-! ## Numbers by their digits -/

/-- The number that digits spell, the first one first. The digit at place zero stands for one. -/
def value (ds : List (Fin base)) : Nat := ds.foldl (fun n d => n * base + (d.val + 1)) 0

/-- The least number of so many digits. -/
def least : Nat → Nat
  | 0 => 0
  | length + 1 => base * least length + 1

@[simp] theorem value_nil : value [] = 0 := rfl

@[simp] theorem value_append_singleton (ds : List (Fin base)) (d : Fin base) :
    value (ds ++ [d]) = value ds * base + (d.val + 1) := by
  simp [value]

theorem value_cons (d : Fin base) (ds : List (Fin base)) :
    value (d :: ds) = (d.val + 1) * base ^ ds.length + value ds := by
  induction ds using List.reverseRecOn with
  | nil => simp [value]
  | append_singleton ds e ih =>
    rw [← List.cons_append, value_append_singleton, ih, value_append_singleton, List.length_append,
      List.length_singleton]
    ring

theorem least_succ (length : Nat) : least (length + 1) = base ^ length + least length := by
  induction length with
  | zero => rfl
  | succ length ih =>
    calc least (length + 1 + 1) = base * least (length + 1) + 1 := rfl
      _ = base * (base ^ length + least length) + 1 := by rw [ih]
      _ = base ^ (length + 1) + (base * least length + 1) := by ring
      _ = base ^ (length + 1) + least (length + 1) := rfl

theorem least_le_value (ds : List (Fin base)) : least ds.length ≤ value ds := by
  induction ds using List.reverseRecOn with
  | nil => exact Nat.le_refl _
  | append_singleton ds d ih =>
    rw [List.length_append, List.length_singleton, least, value_append_singleton]
    simp only [base] at ih ⊢
    omega

theorem value_lt_least (ds : List (Fin base)) : value ds < least (ds.length + 1) := by
  induction ds using List.reverseRecOn with
  | nil => decide
  | append_singleton ds d ih =>
    have hd := d.isLt
    rw [List.length_append, List.length_singleton, least, value_append_singleton]
    simp only [base] at ih hd ⊢
    omega

theorem least_mono {m n : Nat} (h : m ≤ n) : least m ≤ least n := by
  induction h with
  | refl => exact Nat.le_refl _
  | step _ ih =>
    simp only [least, base]
    omega

/-- A greater number never has fewer digits. -/
theorem length_le_of_value_le {ds es : List (Fin base)} (h : value ds ≤ value es) : ds.length ≤ es.length := by
  by_contra hlength
  have hleast : least (es.length + 1) ≤ least ds.length := least_mono (by omega)
  have hds := least_le_value ds
  have hes := value_lt_least es
  omega

/-! ## Digits in order -/

theorem lt_or_eq_of_not_lt {ds es : List (Fin base)} (h : ¬ ds < es) : es < ds ∨ es = ds :=
  List.le_iff_lt_or_eq.1 (List.not_lt.1 h)

theorem eq_of_not_lt {ds es : List (Fin base)} (h : ¬ ds < es) (h' : ¬ es < ds) : ds = es := by
  rcases lt_or_eq_of_not_lt h with hlt | heq
  · exact absurd hlt h'
  · exact heq.symm

theorem value_lt_of_lt {ds es : List (Fin base)} (hlength : ds.length = es.length) (h : ds < es) :
    value ds < value es := by
  induction ds generalizing es with
  | nil =>
    obtain rfl := List.length_eq_zero_iff.1 hlength.symm
    exact absurd h (List.lt_irrefl _)
  | cons d ds ih =>
    cases es with
    | nil => cases hlength
    | cons e es =>
      have hrest : ds.length = es.length := Nat.succ.inj hlength
      rw [value_cons, value_cons, hrest]
      rcases List.cons_lt_cons_iff.1 h with hde | ⟨rfl, hlt⟩
      · -- a greater first digit outweighs all that follow
        have hds := value_lt_least ds
        have hes := least_le_value es
        rw [hrest, least_succ] at hds
        have hmul : (d.val + 1 + 1) * base ^ es.length ≤ (e.val + 1) * base ^ es.length :=
          Nat.mul_le_mul_right _ (by omega)
        rw [Nat.add_mul _ 1, Nat.one_mul] at hmul
        omega
      · have := ih hrest hlt
        omega

/-- Among numbers with as many digits, the order of the digits is that of the numbers. -/
theorem lt_iff_value_lt {ds es : List (Fin base)} (hlength : ds.length = es.length) : ds < es ↔ value ds < value es := by
  constructor
  · exact value_lt_of_lt hlength
  · intro hvalue
    by_contra hnot
    rcases lt_or_eq_of_not_lt hnot with hlt | rfl
    · have := value_lt_of_lt hlength.symm hlt
      omega
    · exact Nat.lt_irrefl _ hvalue

theorem value_inj {ds es : List (Fin base)} (h : value ds = value es) : ds = es := by
  have hlength : ds.length = es.length :=
    Nat.le_antisymm (length_le_of_value_le (Nat.le_of_eq h)) (length_le_of_value_le (Nat.le_of_eq h.symm))
  apply eq_of_not_lt
  · rw [lt_iff_value_lt hlength]
    omega
  · rw [lt_iff_value_lt hlength.symm]
    omega

/-- Fewer digits are compared with as many of the others; if these are the same, they come first. -/
theorem lt_iff_take {ds es : List (Fin base)} (hlength : ds.length < es.length) :
    ds < es ↔ ¬ es.take ds.length < ds := by
  induction ds generalizing es with
  | nil =>
    cases es with
    | nil => cases hlength
    | cons e es => simp
  | cons d ds ih =>
    cases es with
    | nil => cases hlength
    | cons e es =>
      have hrest := ih (Nat.lt_of_succ_lt_succ hlength)
      rw [List.length_cons, List.take_succ_cons, List.cons_lt_cons_iff, List.cons_lt_cons_iff, hrest]
      constructor
      · rintro (hlt | ⟨rfl, hnot⟩) (hgt | ⟨heq, htake⟩)
        · omega
        · omega
        · omega
        · exact hnot htake
      · intro hnot
        rcases Nat.lt_trichotomy d.val e.val with hlt | heq | hgt
        · exact .inl hlt
        · exact .inr ⟨Fin.ext heq, fun htake => hnot (.inr ⟨Fin.ext heq.symm, htake⟩)⟩
        · exact absurd (.inl hgt) hnot

/-- The digits of a number come before those of a greater one exactly if its number is at most that of as many digits
of the other. -/
theorem lt_iff_value_le_take {ds es : List (Fin base)} (h : value ds < value es) :
    ds < es ↔ value ds ≤ value (es.take ds.length) := by
  rcases Nat.lt_or_eq_of_le (length_le_of_value_le (Nat.le_of_lt h)) with hlength | hlength
  · have htake : (es.take ds.length).length = ds.length := by
      rw [List.length_take]
      omega
    rw [lt_iff_take hlength, lt_iff_value_lt htake, Nat.not_lt]
  · have htake : es.take ds.length = es := by rw [hlength, List.take_length]
    rw [lt_iff_value_lt hlength, htake]
    omega

/-! ## Keys -/

/-- Digits as they are written. -/
def written (ds : List (Fin base)) : List Char := ds.map fun d => digit d.val

@[simp] theorem length_written (ds : List (Fin base)) : (written ds).length = ds.length := List.length_map _

theorem written_take (ds : List (Fin base)) (n : Nat) : written (ds.take n) = (written ds).take n := List.map_take

theorem digit_lt {d e : Fin base} (h : d < e) : CodePoint.char (digit d.val) < CodePoint.char (digit e.val) := by
  revert d e
  decide +kernel

/-- Written digits are in the order of the digits. -/
theorem written_lt_iff {ds es : List (Fin base)} : Text.ofChars (written ds) < Text.ofChars (written es) ↔ ds < es := by
  have hlt {ds es : List (Fin base)} (h : ds < es) : Text.ofChars (written ds) < Text.ofChars (written es) := by
    rw [Text.ofChars, Text.ofChars, written, written, List.map_map, List.map_map]
    exact List.map_lt (fun _ _ hde => digit_lt hde) h
  refine ⟨fun h => ?_, hlt⟩
  by_contra hnot
  rcases lt_or_eq_of_not_lt hnot with hgt | rfl
  · exact List.lt_asymm h (hlt hgt)
  · exact List.lt_irrefl _ h

theorem written_inj {ds es : List (Fin base)} (h : written ds = written es) : ds = es := by
  apply eq_of_not_lt
  · rw [← written_lt_iff, h]
    exact List.lt_irrefl _
  · rw [← written_lt_iff, h]
    exact List.lt_irrefl _

theorem digitsBefore_value {ds : List (Fin base)} {length : Nat} (h : ds.length ≤ length) (key : List Char) :
    digitsBefore key length (value ds) = (written ds ++ key, 0) := by
  induction ds using List.reverseRecOn generalizing length key with
  | nil => cases length <;> rfl
  | append_singleton ds d ih =>
    rw [List.length_append, List.length_singleton] at h
    cases length with
    | zero => omega
    | succ length =>
      have hd := d.isLt
      have hmod : (value ds * base + (d.val + 1) - 1) % base = d.val := by
        simp only [base] at hd ⊢
        omega
      have hdiv : (value ds * base + (d.val + 1) - 1) / base = value ds := by
        simp only [base] at hd ⊢
        omega
      rw [value_append_singleton, digitsBefore, if_neg (by simp), hmod, hdiv, ih (Nat.le_of_succ_le_succ h)]
      simp [written]

theorem digitsBefore_eq {key ks : List Char} {length n : Nat} (h : digitsBefore key length n = (ks, 0)) :
    ∃ ds : List (Fin base), ks = written ds ++ key ∧ ds.length ≤ length ∧ value ds = n := by
  induction length generalizing key n with
  | zero =>
    obtain ⟨rfl, rfl⟩ := Prod.mk.inj h
    exact ⟨[], rfl, Nat.le_refl _, rfl⟩
  | succ length ih =>
    rw [digitsBefore] at h
    split at h
    · rename_i hn
      obtain ⟨rfl, -⟩ := Prod.mk.inj h
      exact ⟨[], rfl, Nat.zero_le _, (eq_of_beq hn).symm⟩
    · rename_i hn
      obtain ⟨ds, rfl, hlength, hvalue⟩ := ih h
      refine ⟨ds ++ [⟨(n - 1) % base, Nat.mod_lt _ (by decide)⟩], by simp [written], ?_, ?_⟩
      · rw [List.length_append, List.length_singleton]
        omega
      · have hpos : n ≠ 0 := fun hzero => hn (by simp [hzero])
        rw [value_append_singleton, hvalue]
        simp only [base]
        omega

/-- A key is the digits of the number of its place, counted from one. -/
theorem ofIndex_eq_ok_iff {i : Int} {key : String} :
    ofIndex i = .ok key ↔
      0 ≤ i ∧ ∃ ds : List (Fin base), key = String.ofList (written ds) ∧ ds.length ≤ maxLength ∧ (value ds : Int) = i + 1 := by
  constructor
  · intro h
    unfold ofIndex at h
    split at h
    · cases h
    · rename_i hnegative
      split at h
      · rename_i ks hks
        cases h
        obtain ⟨ds, rfl, hlength, hvalue⟩ := digitsBefore_eq hks
        exact ⟨by omega, ds, by rw [List.append_nil], hlength, by omega⟩
      · split at h <;> cases h
  · rintro ⟨hi, ds, rfl, hlength, hvalue⟩
    have hn : i.toNat + 1 = value ds := by omega
    rw [ofIndex, if_neg (by omega), hn, digitsBefore_value hlength]
    simp

/-- No two places have one key. -/
theorem ofIndex_inj {i j : Int} {key : String} (hi : ofIndex i = .ok key) (hj : ofIndex j = .ok key) : i = j := by
  obtain ⟨-, ds, rfl, -, hds⟩ := ofIndex_eq_ok_iff.1 hi
  obtain ⟨-, es, hkey, -, hes⟩ := ofIndex_eq_ok_iff.1 hj
  have hwritten : written ds = written es := by simpa using congrArg String.toList hkey
  obtain rfl := written_inj hwritten
  omega

/-! ## Keys in order -/

/-- Of two places the later one never has the shorter key. Its key cut to the length of the other is the key of a
place itself, and the keys are in the order of the places exactly if that is not before the other place. -/
theorem key_order {i j : Int} {key later : String} (hi : ofIndex i = .ok key) (hj : ofIndex j = .ok later) (h : i < j) :
    key.length ≤ later.length ∧
      ∃ k, ofIndex k = .ok (String.ofList (later.toList.take key.length)) ∧
        (Text.ofString key < Text.ofString later ↔ i ≤ k) := by
  obtain ⟨hi0, ds, rfl, hds, hvalue⟩ := ofIndex_eq_ok_iff.1 hi
  obtain ⟨-, es, rfl, hes, hlater⟩ := ofIndex_eq_ok_iff.1 hj
  have hlt : value ds < value es := by omega
  have hlength : ds.length ≤ es.length := length_le_of_value_le (Nat.le_of_lt hlt)
  have htext (cs : List Char) : Text.ofString (String.ofList cs) = Text.ofChars cs := by
    rw [Text.ofString, String.toList_ofList]
  have hpos : 0 < (es.take ds.length).length := by
    rw [List.length_take, Nat.min_eq_left hlength]
    cases ds with
    | nil => simp at hvalue; omega
    | cons d ds => simp
  have hleast : 0 < value (es.take ds.length) := by
    have hmono : least 1 ≤ least (es.take ds.length).length := least_mono hpos
    exact Nat.lt_of_lt_of_le hmono (least_le_value _)
  simp only [String.length_ofList, length_written, String.toList_ofList, ← written_take, htext, written_lt_iff]
  refine ⟨hlength, (value (es.take ds.length) : Int) - 1, ?_, ?_⟩
  · refine ofIndex_eq_ok_iff.2 ⟨by omega, _, rfl, ?_, by omega⟩
    exact Nat.le_trans (List.length_take_le' _ _) hes
  · rw [lt_iff_value_le_take hlt]
    omega

/-- Keys of one length are in the order of their places. -/
theorem lt_of_length_eq {i j : Int} {key later : String} (hi : ofIndex i = .ok key) (hj : ofIndex j = .ok later)
    (h : i < j) (hlength : key.length = later.length) : Text.ofString key < Text.ofString later := by
  obtain ⟨-, k, hk, hlt⟩ := key_order hi hj h
  have htake : later.toList.take key.length = later.toList := by
    rw [hlength, ← String.length_toList, List.take_length]
  rw [htake, String.ofList_toList] at hk
  have hkj : k = j := ofIndex_inj hk hj
  rw [hlt]
  omega

theorem length_eq_one {i : Int} {key : String} (h : ofIndex i = .ok key) (hi : i < base) : key.length = 1 := by
  obtain ⟨hi0, ds, rfl, -, hvalue⟩ := ofIndex_eq_ok_iff.1 h
  have hlast : value [⟨35, by decide⟩] = base := rfl
  have hbelow : value ds ≤ value [⟨35, by decide⟩] := by omega
  have hle : ds.length ≤ 1 := length_le_of_value_le hbelow
  have hne : ds ≠ [] := by
    rintro rfl
    rw [value_nil] at hvalue
    omega
  have hpos := List.length_pos_iff.2 hne
  rw [String.length_ofList, length_written]
  omega

end SortingKey

namespace Notebook

open SortingKey

/-! ## Blocks with the keys of their places -/

/-- The blocks of a list have the keys of their places in it. -/
def InPlace (bs : List Block) : Prop :=
  ∀ (i : Nat) (h : i < bs.length), ∃ key, ofIndex i = .ok key ∧ bs[i].sortingKey = Text.ofString key

/-- Blocks with different keys are sorted in one way, whatever order they are stored in. -/
theorem sortBlocks_eq_of_nodup {stored sorted : List Block} (hperm : stored.Perm sorted)
    (hascending : sorted.Pairwise fun a b => a.sortingKey ≤ b.sortingKey) (hnodup : (sorted.map Block.sortingKey).Nodup) :
    sortBlocks stored = sorted := by
  refine List.Perm.eq_of_pairwise ?_ (sortBlocks_inKeyOrder stored).ascending hascending ?_
  · intro a b ha hb hab hba
    have ha : a ∈ sorted := hperm.subset ((sortBlocks_perm stored).subset ha)
    exact List.inj_on_of_nodup_map hnodup ha hb (Text.le_antisymm hab hba)
  · exact (sortBlocks_perm stored).trans hperm

/-- The first 36 places have keys of one length, so they sort as they are numbered. -/
theorem InPlace.pairwise_lt {bs : List Block} (h : InPlace bs) (hlength : bs.length ≤ base) :
    bs.Pairwise fun a b => a.sortingKey < b.sortingKey := by
  apply List.pairwise_iff_getElem.2
  intro i j hi hj hij
  obtain ⟨key, hkey, hi⟩ := h i hi
  obtain ⟨later, hlater, hj⟩ := h j hj
  have hone : key.length = later.length := by
    rw [length_eq_one hkey (by omega), length_eq_one hlater (by omega)]
  rw [hi, hj]
  exact lt_of_length_eq hkey hlater (by omega) hone

/-- Blocks with the keys of their places sort in the order of the places exactly if there are at most 36 of them. -/
theorem sortBlocks_inPlace {stored places : List Block} (h : InPlace places) (hperm : stored.Perm places) :
    sortBlocks stored = places ↔ places.length ≤ base := by
  constructor
  · intro hsort
    by_contra hlength
    simp only [base] at hlength
    have hascending := (sortBlocks_inKeyOrder stored).ascending
    rw [hsort] at hascending
    -- the key of the 37th block sorts before that of the second
    have hle := List.pairwise_iff_getElem.1 hascending 1 36 (by omega) (by omega) (by omega)
    obtain ⟨key, hkey, hsecond⟩ := h 1 (by omega)
    obtain ⟨later, hlater, hlast⟩ := h 36 (by omega)
    cases (show ofIndex (1 : Nat) = .ok "1" by decide +kernel).symm.trans hkey
    cases (show ofIndex (36 : Nat) = .ok "00" by decide +kernel).symm.trans hlater
    rw [hsecond, hlast] at hle
    exact absurd hle (by decide +kernel)
  · intro hlength
    have hlt := h.pairwise_lt hlength
    refine sortBlocks_eq_of_nodup hperm (hlt.imp fun h => List.le_of_lt h) ?_
    apply List.pairwise_map.2
    refine hlt.imp ?_
    rintro a b hab heq
    rw [heq] at hab
    exact List.lt_irrefl _ hab

/-- A block of which only the sorting key is known. -/
def withKey (key : Text) : Block := ⟨none, .record [("sortingKey", .plain (.str key))] []⟩

/-- As many blocks as there are places, with the keys of these. -/
def rowOf (n : Nat) : List Block := (List.range n).map fun (i : Nat) => withKey ((ofIndex i).toOption.getD "")

theorem rowOf_inPlace {n : Nat} (h : ∀ i < n, (ofIndex i).isOk) : InPlace (rowOf n) := by
  intro i hi
  have hn : i < n := by simpa [rowOf] using hi
  cases hkey : ofIndex i with
  | error f =>
    have := h i hn
    rw [hkey] at this
    cases this
  | ok key =>
    refine ⟨key, rfl, ?_⟩
    simp only [rowOf, List.getElem_map, List.getElem_range, hkey]
    rfl

/-- How the keys of places sort. Those of one length are in the order of the places; a longer key counts by as many
digits as the other has. So blocks with the keys of their places sort in the order of the places up to the 36th, and
no further. -/
theorem places_sort :
    (∀ (i j : Int) (key later : String), ofIndex i = .ok key → ofIndex j = .ok later → i < j →
      (key.length = later.length → Text.ofString key < Text.ofString later) ∧
      key.length ≤ later.length ∧
      ∃ k, ofIndex k = .ok (String.ofList (later.toList.take key.length)) ∧
        (Text.ofString key < Text.ofString later ↔ i ≤ k)) ∧
    (∀ stored places : List Block, InPlace places → stored.Perm places →
      (sortBlocks stored = places ↔ places.length ≤ 36)) := by
  refine ⟨fun i j key later hi hj h => ⟨?_, key_order hi hj h⟩, fun stored places h hperm => ?_⟩
  · exact lt_of_length_eq hi hj h
  · exact sortBlocks_inPlace h hperm

/-- The second place and the 41st: the key of the later one counts by its first digit, which is that of the first place. -/
theorem second_place_sorts :
    ofIndex 1 = .ok "1" ∧ ofIndex 40 = .ok "04" ∧
      (("1".length = "04".length → Text.ofString "1" < Text.ofString "04") ∧
        "1".length ≤ "04".length ∧
        ∃ k, ofIndex k = .ok (String.ofList ("04".toList.take "1".length)) ∧
          (Text.ofString "1" < Text.ofString "04" ↔ (1 : Int) ≤ k)) ∧
      InPlace (rowOf 3) ∧ (sortBlocks (rowOf 3).reverse = rowOf 3 ↔ (rowOf 3).length ≤ 36) := by
  have hrow : InPlace (rowOf 3) := rowOf_inPlace (by decide +kernel)
  have hone : ofIndex 1 = .ok "1" := by decide +kernel
  have hforty : ofIndex 40 = .ok "04" := by decide +kernel
  exact ⟨hone, hforty, places_sort.1 1 40 "1" "04" hone hforty (by decide), hrow,
    places_sort.2 _ _ hrow (List.reverse_perm _)⟩

/-- Keys do not sort as their places are numbered: that of the 37th place comes before that of the second, and so do
the blocks with these keys. -/
theorem places_out_of_order :
    (ofIndex 1 = .ok "1" ∧ ofIndex 36 = .ok "00" ∧ ¬ Text.ofString "1" < Text.ofString "00") ∧
      (InPlace (rowOf 37) ∧ sortBlocks (rowOf 37) ≠ rowOf 37) := by
  have hrow : InPlace (rowOf 37) := rowOf_inPlace (by decide +kernel)
  refine ⟨by decide +kernel, hrow, ?_⟩
  intro hsort
  exact absurd ((sortBlocks_inPlace hrow (.refl _)).1 hsort) (by decide)

end Notebook

end BlockNotebook
