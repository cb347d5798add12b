import BlockNotebook.Proofs.Value.Place
/-!
Data whose mappings have texts for keys.

The data is made of such mappings, of lists, and of scalars of any kind. It may
contain itself. Its items and entries, taken out of it, are such data again.
-/

namespace BlockNotebook

namespace Value

mutual

/-- All keys inside the data are texts. -/
def hasTextKeys : Value → Bool
  | .list items => listHasTextKeys items
  | .pair a b => a.hasTextKeys && b.hasTextKeys
  | .set items => listHasTextKeys items
  | .map entries => entriesHaveTextKeys entries
  | _ => true

def listHasTextKeys : List Value → Bool
  | [] => true
  | v :: vs => v.hasTextKeys && listHasTextKeys vs

def entriesHaveTextKeys : List (Value × Value) → Bool
  | [] => true
  | (key, v) :: rest => (key matches .str _) && v.hasTextKeys && entriesHaveTextKeys rest

end

theorem hasTextKeys_mem {items : List Value} (h : listHasTextKeys items) {v : Value} (hv : v ∈ items) :
    v.hasTextKeys := by
  induction items with
  | nil => cases hv
  | cons w rest ih =>
    obtain ⟨hw, hrest⟩ := Bool.and_eq_true_iff.1 h
    rcases List.mem_cons.1 hv with rfl | hv
    · exact hw
    · exact ih hrest hv

theorem hasTextKeys_entry {entries : List (Value × Value)} (h : entriesHaveTextKeys entries) {e : Value × Value}
    (he : e ∈ entries) : (∃ t, e.1 = .str t) ∧ e.2.hasTextKeys := by
  induction entries with
  | nil => cases he
  | cons d rest ih =>
    simp only [entriesHaveTextKeys, Bool.and_eq_true] at h
    obtain ⟨⟨hkey, hd⟩, hrest⟩ := h
    rcases List.mem_cons.1 he with rfl | he
    · refine ⟨?_, hd⟩
      split at hkey
      · exact ⟨_, by assumption⟩
      · cases hkey
    · exact ih hrest he

/-! ## Parts -/

mutual

theorem hasTextKeys_replace {outer : Value} (ho : outer.hasTextKeys) : ∀ (v : Value), v.hasTextKeys → ∀ (depth : Nat),
    (replace outer depth v).hasTextKeys
  | .list items, h, depth => listHasTextKeys_replace ho items h (depth + 1)
  | .pair a b, h, depth => by
    obtain ⟨ha, hb⟩ := Bool.and_eq_true_iff.1 h
    exact Bool.and_eq_true_iff.2 ⟨hasTextKeys_replace ho a ha (depth + 1), hasTextKeys_replace ho b hb (depth + 1)⟩
  | .set _, h, _ => h
  | .map entries, h, depth => entriesHaveTextKeys_replace ho entries h (depth + 1)
  | .enclosing n, _, depth => by
    rw [replace]
    split
    · exact ho
    · rfl
  | .null, _, _ => rfl
  | .bool _, _, _ => rfl
  | .int _, _, _ => rfl
  | .float _, _, _ => rfl
  | .str _, _, _ => rfl
  | .bytes _, _, _ => rfl
  | .date _, _, _ => rfl
  | .moment _, _, _ => rfl

theorem listHasTextKeys_replace {outer : Value} (ho : outer.hasTextKeys) : ∀ (items : List Value),
    listHasTextKeys items → ∀ (depth : Nat), listHasTextKeys (replaceList outer depth items)
  | [], _, _ => rfl
  | v :: vs, h, depth => by
    obtain ⟨hv, hvs⟩ := Bool.and_eq_true_iff.1 h
    exact Bool.and_eq_true_iff.2 ⟨hasTextKeys_replace ho v hv depth, listHasTextKeys_replace ho vs hvs depth⟩

theorem entriesHaveTextKeys_replace {outer : Value} (ho : outer.hasTextKeys) : ∀ (entries : List (Value × Value)),
    entriesHaveTextKeys entries → ∀ (depth : Nat), entriesHaveTextKeys (replaceEntries outer depth entries)
  | [], _, _ => rfl
  | (key, v) :: rest, h, depth => by
    simp only [entriesHaveTextKeys, replaceEntries, Bool.and_eq_true] at h ⊢
    obtain ⟨⟨hkey, hv⟩, hrest⟩ := h
    exact ⟨⟨hkey, hasTextKeys_replace ho v hv depth⟩, entriesHaveTextKeys_replace ho rest hrest depth⟩

end

/-- An item has texts for keys if the collection has. -/
theorem hasTextKeys_item {v : Value} (h : v.hasTextKeys) {items : List Value} (hi : v.items? = some items) {x : Value}
    (hx : x ∈ items) : x.hasTextKeys := by
  cases v with
  | list parts =>
    cases hi
    obtain ⟨y, hy, rfl⟩ := List.mem_map.1 hx
    exact hasTextKeys_replace h y (hasTextKeys_mem h hy) 0
  | pair a b =>
    cases hi
    obtain ⟨ha, hb⟩ := Bool.and_eq_true_iff.1 h
    rcases List.mem_cons.1 hx with rfl | hx
    · exact hasTextKeys_replace h a ha 0
    · cases List.mem_singleton.1 hx
      exact hasTextKeys_replace h b hb 0
  | set parts =>
    cases hi
    exact hasTextKeys_mem h hx
  | _ => cases hi

/-- The entries of a mapping are under texts, and hold such data. -/
theorem hasTextKeys_entries {v : Value} (h : v.hasTextKeys) {entries : List (Value × Value)}
    (he : v.entries? = some entries) : ∀ e ∈ entries, (∃ t, e.1 = .str t) ∧ e.2.hasTextKeys := by
  cases v with
  | map parts =>
    cases he
    intro e hmem
    obtain ⟨d, hd, rfl⟩ := List.mem_map.1 hmem
    obtain ⟨hkey, hvalue⟩ := hasTextKeys_entry h hd
    exact ⟨hkey, hasTextKeys_replace h d.2 hvalue 0⟩
  | _ => cases he

end Value

end BlockNotebook
