import BlockNotebook.Proofs.Notebook.Skip
import Mathlib.Data.List.Nodup
/-!
What the stored order of blocks decides.

Blocks are sorted before they are compiled, and sorting looks at their keys and, among blocks with
one key, at which is stored first. So all that a notebook compiles to hangs on the blocks under each
key in their stored order (`Rearranged.compile_eq`). Where no two blocks share a key, it does not
hang on the stored order at all.
-/

namespace BlockNotebook.Notebook

/-! ## Blocks under one key -/

/-- Blocks sort alike exactly if under every key they are the same, in the same order. -/
theorem sortBlocks_eq_iff {s t : List Block} :
    sortBlocks s = sortBlocks t ↔
      ∀ key, s.filter (·.sortingKey == key) = t.filter (·.sortingKey == key) := by
  have hs := sortBlocks_inKeyOrder s
  have ht := sortBlocks_inKeyOrder t
  constructor
  · intro h key
    rw [← hs.stable, h, ht.stable]
  · intro h
    apply eq_of_ascending hs.ascending ht.ascending
    intro key
    rw [hs.stable, h, ht.stable]

/-- No two blocks share a key. -/
def HasDistinctKeys (bs : List Block) : Prop := (bs.map Block.sortingKey).Nodup

instance (bs : List Block) : Decidable (HasDistinctKeys bs) := inferInstanceAs (Decidable (List.Nodup _))

theorem HasDistinctKeys.length_filter_le {bs : List Block} (h : HasDistinctKeys bs) (key : Text) :
    (bs.filter (·.sortingKey == key)).length ≤ 1 := by
  have hcount : (bs.map Block.sortingKey).count key ≤ 1 := List.nodup_iff_count_le_one.1 h key
  rw [List.count, List.countP_map, List.countP_eq_length_filter] at hcount
  exact hcount

/-- With one block at most under every key, there is nothing left to arrange. -/
theorem HasDistinctKeys.filter_eq {s t : List Block} (h : HasDistinctKeys t) (hperm : s.Perm t) (key : Text) :
    s.filter (·.sortingKey == key) = t.filter (·.sortingKey == key) := by
  have hfilter := hperm.filter (·.sortingKey == key)
  have hlength := h.length_filter_le key
  cases hclass : t.filter (·.sortingKey == key) with
  | nil =>
    rw [hclass] at hfilter
    exact List.perm_nil.1 hfilter
  | cons b rest =>
    rw [hclass, List.length_cons] at hlength
    obtain rfl : rest = [] := List.length_eq_zero_iff.1 (by omega)
    rw [hclass] at hfilter
    exact List.perm_singleton.1 hfilter

/-! ## Notebooks stored in another order -/

/-- The second notebook is the first one with its blocks stored in another order. -/
structure Rearranged (n m : Notebook) : Prop where
  blocks : m.blocks.Perm n.blocks
  others : ∀ name ≠ "blocks", m.content.field? name = n.content.field? name

/-- The notebook with other items in place of its blocks. -/
def storing (items : List Schema.Checked) (n : Notebook) : Notebook :=
  ⟨n.content.updateField "blocks" fun _ => .list items⟩

/-- Every arrangement of the blocks of a notebook is stored by some notebook. -/
theorem rearranged_storing {n : Notebook} {items items' : List Schema.Checked}
    (h : n.content.items? "blocks" = some items) (hperm : items'.Perm items) : Rearranged n (n.storing items') := by
  constructor
  · have hitems : (n.storing items').content.items? "blocks" = some items' := by
      unfold Schema.Checked.items? at h ⊢
      rw [storing, Schema.Checked.field?_updateField]
      cases hfield : n.content.field? "blocks" with
      | none =>
        rw [hfield] at h
        cases h
      | some c => rfl
    rw [blocks, blocks, hitems, h]
    exact hperm.map Block.ofChecked
  · intro name hname
    rw [storing, Schema.Checked.field?_updateField]
    simp [hname]

theorem Rearranged.name_eq {n m : Notebook} (h : Rearranged n m) : m.name = n.name := by
  rw [name, name, Schema.Checked.text?, Schema.Checked.text?, h.others "name" (by decide)]

/-- The log counts the blocks and names the notebook; all else comes of the blocks in key order. -/
theorem Rearranged.compile_eq {n m : Notebook} (h : Rearranged n m)
    (hclasses : ∀ key, m.blocks.filter (·.sortingKey == key) = n.blocks.filter (·.sortingKey == key))
    (context : Option Code.Context) (policy : OnError) : m.compile context policy = n.compile context policy := by
  have hsort : sortBlocks m.blocks = sortBlocks n.blocks := sortBlocks_eq_iff.2 hclasses
  have hcounted (compiled : List Compiled) : m.counted compiled = n.counted compiled := by
    rw [counted, counted, h.blocks.length_eq, h.name_eq]
  simp only [compile, hsort, hcounted]

/-- The stored order of blocks with different keys is irrelevant: however they are arranged, a
notebook compiles to the same blocks or ends with the same fault, and logs the same. For any keys
`sortBlocks` gives the one list that has the same blocks, never descends by their keys, and leaves
blocks with one key as they were stored. -/
theorem stored_order_irrelevant :
    (∀ n m : Notebook, HasDistinctKeys n.blocks → Rearranged n m →
      ∀ (context : Option Code.Context) (policy : OnError), m.compile context policy = n.compile context policy) ∧
    (∀ stored sorted : List Block, InKeyOrder stored sorted ↔ sorted = sortBlocks stored) := by
  constructor
  · intro n m hkeys h context policy
    exact h.compile_eq (hkeys.filter_eq h.blocks) context policy
  · intro stored sorted
    constructor
    · intro h
      exact h.unique (sortBlocks_inKeyOrder stored)
    · rintro rfl
      exact sortBlocks_inKeyOrder stored

/-- An input with a variable of the name and the key, and a value. -/
def keyedInput (name value : String) : Schema.Checked :=
  .arm "input-text" (.record [
    ("type", .plain (.str "input-text")), ("sortingKey", .plain (.str name)),
    ("metadata", .record [("deepnote_variable_name", .plain (.str name)),
      ("deepnote_variable_value", .plain (.str value))] [])] [])

def storedItems : List Schema.Checked := [keyedInput "b" "1", keyedInput "c" "2", keyedInput "a" "3"]

def threeInputs : Notebook := ⟨.record [("name", .plain (.str "Inputs")), ("blocks", .list storedItems)] []⟩

theorem threeInputs_reversed :
    HasDistinctKeys threeInputs.blocks ∧ Rearranged threeInputs (threeInputs.storing storedItems.reverse) ∧
      (threeInputs.storing storedItems.reverse).compile none .fail = threeInputs.compile none .fail ∧
      (threeInputs.compile none .fail).result.toOption.map (·.map Compiled.text) =
        some [Text.ofString "a = '3'", Text.ofString "b = '1'", Text.ofString "c = '2'"] := by
  have hkeys : HasDistinctKeys threeInputs.blocks := by decide +kernel
  have hreversed : Rearranged threeInputs (threeInputs.storing storedItems.reverse) :=
    rearranged_storing rfl (List.reverse_perm _)
  exact ⟨hkeys, hreversed, stored_order_irrelevant.1 _ _ hkeys hreversed none .fail, by decide +kernel⟩

end BlockNotebook.Notebook
