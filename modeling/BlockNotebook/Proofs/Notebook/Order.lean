import BlockNotebook.Notebook.Basic
/-!
The order of blocks.

`InKeyOrder` says what sorting blocks by their keys means, without saying how it
is done: the same blocks, keys that never descend, and blocks with one key in
stored order. `sortBlocks` does that, and nothing else does (`InKeyOrder.unique`).
So whatever keeps `InKeyOrder` commutes with sorting; leaving out blocks is the
case that compiling needs (`sortBlocks_filter`).
-/

namespace BlockNotebook

/-! ## Texts in order -/

namespace CodePoint

theorem value_inj {a b : CodePoint} (h : a.value = b.value) : a = b := by
  cases a with
  | char c =>
    cases b with
    | char d => rw [Char.ext (UInt32.toNat_inj.1 h)]
    | surrogate n =>
      -- no character has the number of a surrogate
      have hc := c.valid
      simp only [value, firstSurrogate, Char.toNat] at h
      have hn := n.isLt
      simp only [UInt32.isValidChar, Nat.isValidChar] at hc
      omega
  | surrogate m =>
    cases b with
    | char d =>
      have hd := d.valid
      simp only [value, firstSurrogate, Char.toNat] at h
      have hm := m.isLt
      simp only [UInt32.isValidChar, Nat.isValidChar] at hd
      omega
    | surrogate n =>
      simp only [value, firstSurrogate, Nat.add_left_cancel_iff] at h
      rw [Fin.ext h]

theorem lt_iff (a b : CodePoint) : a < b ↔ a.value < b.value := Iff.rfl

instance : Std.Asymm (α := CodePoint) (· < ·) where
  asymm a b h := by rw [lt_iff] at h ⊢; omega

instance : Std.Trichotomous (α := CodePoint) (· < ·) where
  trichotomous a b h k := by rw [lt_iff] at h k; exact value_inj (by omega)

instance : Trans (α := CodePoint) (¬ · < ·) (¬ · < ·) (¬ · < ·) where
  trans h k := by rw [lt_iff] at h k ⊢; omega

end CodePoint

namespace Text

theorem le_trans {s t u : Text} (h : s ≤ t) (k : t ≤ u) : s ≤ u :=
  letI := LE.ofLT CodePoint
  haveI := Std.IsLinearOrder.of_lt (α := CodePoint)
  List.le_trans h k

theorem le_refl (t : Text) : t ≤ t := List.le_refl t

theorem le_total (s t : Text) : s ≤ t ∨ t ≤ s := List.le_total s t

theorem le_antisymm {s t : Text} (h : s ≤ t) (k : t ≤ s) : s = t :=
  letI := LE.ofLT CodePoint
  haveI := Std.IsLinearOrder.of_lt (α := CodePoint)
  List.le_antisymm h k

/-- Of texts that begin with parts of one length, the parts are compared first. -/
theorem append_lt_append_iff {a b c d : Text} (h : a.length = b.length) : a ++ c < b ++ d ↔ a < b ∨ a = b ∧ c < d := by
  induction a generalizing b with
  | nil =>
    obtain rfl := List.length_eq_zero_iff.1 h.symm
    simp [List.lt_irrefl]
  | cons x a ih =>
    cases b with
    | nil => cases h
    | cons y b =>
      rw [List.cons_append, List.cons_append, List.cons_lt_cons_iff, List.cons_lt_cons_iff, ih (Nat.succ.inj h),
        List.cons.injEq, and_or_left, or_assoc, and_assoc]

end Text

namespace Notebook

/-- `sorted` are the blocks of `stored` by their keys. -/
structure InKeyOrder (stored sorted : List Block) : Prop where
  perm : sorted.Perm stored
  ascending : sorted.Pairwise fun a b => a.sortingKey ≤ b.sortingKey
  /-- Blocks with one key stand as they were stored. -/
  stable : ∀ key, sorted.filter (·.sortingKey == key) = stored.filter (·.sortingKey == key)

/-! ## Sorting puts blocks in key order -/

theorem inOrder_iff {a b : Block} : inOrder a b = true ↔ a.sortingKey ≤ b.sortingKey := by
  simp [inOrder]

theorem insertBlock_ascending (b : Block) {bs : List Block}
    (h : bs.Pairwise fun a b => a.sortingKey ≤ b.sortingKey) :
    (insertBlock b bs).Pairwise fun a b => a.sortingKey ≤ b.sortingKey := by
  induction bs with
  | nil => exact List.pairwise_singleton _ _
  | cons c rest ih =>
    obtain ⟨hc, hrest⟩ := List.pairwise_cons.1 h
    rw [insertBlock]
    split
    · rename_i hbc
      have hbc := inOrder_iff.1 hbc
      refine List.pairwise_cons.2 ⟨fun d hd => ?_, h⟩
      rcases List.mem_cons.1 hd with rfl | hd
      · exact hbc
      · exact Text.le_trans hbc (hc d hd)
    · rename_i hbc
      have hcb : c.sortingKey ≤ b.sortingKey :=
        (Text.le_total c.sortingKey b.sortingKey).resolve_right (fun h => hbc (inOrder_iff.2 h))
      refine List.pairwise_cons.2 ⟨fun d hd => ?_, ih hrest⟩
      rcases List.mem_cons.1 ((insertBlock_perm b rest).subset hd) with rfl | hd
      · exact hcb
      · exact hc d hd

/-- A block put in its place stands in front of those with its key. -/
theorem insertBlock_stable (b : Block) (bs : List Block) (key : Text) :
    (insertBlock b bs).filter (·.sortingKey == key) = (b :: bs).filter (·.sortingKey == key) := by
  induction bs with
  | nil => rfl
  | cons c rest ih =>
    rw [insertBlock]
    split
    · rfl
    · rename_i hbc
      -- `b` passes only blocks with a smaller key, so never one with the key of `b`
      have hne : ¬ (b.sortingKey = key ∧ c.sortingKey = key) := by
        rintro ⟨hb, hc⟩
        exact hbc (inOrder_iff.2 (by rw [hb, hc]; exact Text.le_refl key))
      rw [List.filter_cons, ih]
      simp only [List.filter_cons, beq_iff_eq]
      by_cases hb : b.sortingKey = key <;> by_cases hc : c.sortingKey = key <;> simp_all

theorem sortBlocks_inKeyOrder (bs : List Block) : InKeyOrder bs (sortBlocks bs) where
  perm := sortBlocks_perm bs
  ascending := by
    induction bs with
    | nil => exact .nil
    | cons b rest ih => exact insertBlock_ascending b ih
  stable key := by
    induction bs with
    | nil => rfl
    | cons b rest ih =>
      rw [sortBlocks, List.foldr_cons, insertBlock_stable, List.filter_cons, List.filter_cons]
      rw [sortBlocks] at ih
      rw [ih]

/-! ## Key order is unique -/

theorem mem_of_classes {s t : List Block}
    (h : ∀ key, s.filter (·.sortingKey == key) = t.filter (·.sortingKey == key)) {b : Block} (hb : b ∈ s) :
    b ∈ t := by
  have : b ∈ s.filter (·.sortingKey == b.sortingKey) := List.mem_filter.2 ⟨hb, by simp⟩
  rw [h] at this
  exact (List.mem_filter.1 this).1

/-- Two ascending lists with the same blocks under every key are one list. -/
theorem eq_of_ascending {s t : List Block} (hs : s.Pairwise fun a b => a.sortingKey ≤ b.sortingKey)
    (ht : t.Pairwise fun a b => a.sortingKey ≤ b.sortingKey)
    (h : ∀ key, s.filter (·.sortingKey == key) = t.filter (·.sortingKey == key)) : s = t := by
  induction s generalizing t with
  | nil =>
    cases t with
    | nil => rfl
    | cons b rest => exact absurd (mem_of_classes (fun key => (h key).symm) List.mem_cons_self) (by simp)
  | cons a s ih =>
    cases t with
    | nil => exact absurd (mem_of_classes h List.mem_cons_self) (by simp)
    | cons b t =>
      obtain ⟨has, hs'⟩ := List.pairwise_cons.1 hs
      obtain ⟨hbt, ht'⟩ := List.pairwise_cons.1 ht
      have hab : a.sortingKey ≤ b.sortingKey := by
        rcases List.mem_cons.1 (mem_of_classes (fun key => (h key).symm) List.mem_cons_self) with rfl | hb
        · exact Text.le_refl _
        · exact has b hb
      have hba : b.sortingKey ≤ a.sortingKey := by
        rcases List.mem_cons.1 (mem_of_classes h List.mem_cons_self) with rfl | ha
        · exact Text.le_refl _
        · exact hbt a ha
      -- the two heads have one key, so each is the first block under it on its side
      have hkey := Text.le_antisymm hab hba
      have heads := h a.sortingKey
      simp only [List.filter_cons, beq_self_eq_true, if_true, hkey, List.cons.injEq] at heads
      obtain ⟨rfl, -⟩ := heads
      refine congrArg (a :: ·) (ih hs' ht' fun key => ?_)
      have := h key
      simp only [List.filter_cons] at this
      split at this
      · exact (List.cons.inj this).2
      · exact this

theorem InKeyOrder.unique {stored s t : List Block} (hs : InKeyOrder stored s) (ht : InKeyOrder stored t) : s = t :=
  eq_of_ascending hs.ascending ht.ascending fun key => (hs.stable key).trans (ht.stable key).symm

/-- Blocks in key order stay so when some are left out of both lists. -/
theorem InKeyOrder.filter {stored sorted : List Block} (h : InKeyOrder stored sorted) (keep : Block → Bool) :
    InKeyOrder (stored.filter keep) (sorted.filter keep) where
  perm := h.perm.filter keep
  ascending := h.ascending.filter keep
  stable key := by
    have := congrArg (List.filter keep) (h.stable key)
    simp only [List.filter_filter] at this ⊢
    simpa only [Bool.and_comm] using this

theorem sortBlocks_filter (keep : Block → Bool) (bs : List Block) :
    sortBlocks (bs.filter keep) = (sortBlocks bs).filter keep :=
  (sortBlocks_inKeyOrder _).unique ((sortBlocks_inKeyOrder bs).filter keep)

end Notebook

end BlockNotebook
