import BlockNotebook.Proofs.Json.Returned
import BlockNotebook.Proofs.Schema.Exported
import BlockNotebook.Proofs.Schema.Reload
/-!
Exported data: what is left out, and what stands as it was.

A tree is exported as it is, unless a key inside it holds a surrogate. Of records, entries that are null are
left out; `Checked.withoutNulls` is what is left, and is exported to the same data.
-/

namespace BlockNotebook

open Schema

/-! ## Keys without surrogates -/

namespace Value

mutual

/-- Some key inside the data holds a surrogate. -/
def hasBrokenKey : Value → Bool
  | .list items => anyHasBrokenKey items
  | .map entries => entriesHaveBrokenKey entries
  | _ => false

def anyHasBrokenKey : List Value → Bool
  | [] => false
  | v :: vs => v.hasBrokenKey || anyHasBrokenKey vs

def entriesHaveBrokenKey : List (Value × Value) → Bool
  | [] => false
  | (key, v) :: rest => isBrokenKey key || v.hasBrokenKey || entriesHaveBrokenKey rest

end

end Value

namespace Schema

theorem keyExportable_str (t : Text) : KeyExportable (.str t) ↔ isBrokenKey (.str t) = false := by
  rw [isBrokenKey, List.any_eq_false]
  simp [KeyExportable]

theorem anyHasBrokenKey_iff {items : List Value} :
    Value.anyHasBrokenKey items = false ↔ ∀ v ∈ items, v.hasBrokenKey = false := by
  induction items with
  | nil => exact ⟨fun _ => List.forall_mem_nil _, fun _ => rfl⟩
  | cons v vs ih => rw [Value.anyHasBrokenKey, Bool.or_eq_false_iff, ih, List.forall_mem_cons]

theorem entriesHaveBrokenKey_iff {entries : List (Value × Value)} : Value.entriesHaveBrokenKey entries = false ↔
    ∀ e ∈ entries, isBrokenKey e.1 = false ∧ e.2.hasBrokenKey = false := by
  induction entries with
  | nil => exact ⟨fun _ => List.forall_mem_nil _, fun _ => rfl⟩
  | cons e es ih => rw [Value.entriesHaveBrokenKey, Bool.or_eq_false_iff, Bool.or_eq_false_iff, ih, List.forall_mem_cons]

/-- Of trees, those with a broken key cannot be exported. -/
theorem exportable_iff {v : Value} (hv : Json.Tree v) : Exportable v ↔ v.hasBrokenKey = false := by
  induction hv with
  | null => exact ⟨fun _ => rfl, fun _ => .null⟩
  | bool b => exact ⟨fun _ => rfl, fun _ => .bool b⟩
  | @int i _ => exact ⟨fun _ => rfl, fun _ => .int i⟩
  | str t => exact ⟨fun _ => rfl, fun _ => .str t⟩
  | @list items _ ih =>
    rw [Value.hasBrokenKey, anyHasBrokenKey_iff]
    constructor
    · intro h v hv
      cases h with
      | list h => exact (ih v hv).1 (h v hv)
    · exact fun h => .list fun v hv => (ih v hv).2 (h v hv)
  | @map entries hkeys _ _ ih =>
    rw [Value.hasBrokenKey, entriesHaveBrokenKey_iff]
    have hkey {e : Value × Value} (he : e ∈ entries) : KeyExportable e.1 ↔ isBrokenKey e.1 = false := by
      obtain ⟨t, ht⟩ := hkeys e he
      rw [ht]
      exact keyExportable_str t
    constructor
    · intro h e he
      cases h with
      | map hkeys' h => exact ⟨(hkey he).1 (hkeys' e he), (ih e he).1 (h e he)⟩
    · exact fun h => .map (fun e he => (hkey he).2 (h e he).1) fun e he => (ih e he).2 (h e he).2

/-! ## Trees are exported as they are -/

theorem exportKey_str {t : Text} (h : KeyExportable (.str t)) : exportKey (.str t) = .ok t := by
  rw [exportKey.eq_def]
  dsimp only
  rw [(unencodable?_utf8 t).2 h]

theorem exportValues_of_fixed {items : List Value} (h : ∀ v ∈ items, exportValue v = .ok v) :
    exportValues items = .ok items := by
  induction items with
  | nil => rfl
  | cons v vs ih =>
    obtain ⟨hv, hvs⟩ := List.forall_mem_cons.1 h
    rw [exportValues, hv, ih hvs]
    rfl

theorem exportEntries_of_fixed {entries : List (Value × Value)} (hkeys : ∀ e ∈ entries, ∃ t, e.1 = .str t)
    (hexport : ∀ e ∈ entries, KeyExportable e.1) (h : ∀ e ∈ entries, exportValue e.2 = .ok e.2)
    (known : List (Value × Value)) : exportEntries entries known = .ok (Value.gather known entries) := by
  induction entries generalizing known with
  | nil => rfl
  | cons e es ih =>
    obtain ⟨key, v⟩ := e
    obtain ⟨⟨t, ht⟩, hrestKeys⟩ := List.forall_mem_cons.1 hkeys
    obtain ⟨hkey, hrestExport⟩ := List.forall_mem_cons.1 hexport
    obtain ⟨hv, hrest⟩ := List.forall_mem_cons.1 h
    obtain rfl : key = .str t := ht
    rw [exportEntries, exportKey_str hkey, hv]
    exact ih hrestKeys hrestExport hrest _

theorem exportValue_tree {v : Value} (hv : Json.Tree v) (h : Exportable v) : exportValue v = .ok v := by
  induction hv with
  | null | bool | int | str => rfl
  | list _ ih =>
    cases h with
    | list h => rw [exportValue, exportValues_of_fixed fun v hv => ih v hv (h v hv)]; rfl
  | @map entries hkeys hdistinct _ ih =>
    cases h with
    | map hexport h =>
      have hgather : Value.gather [] entries = entries := Value.gather_of_keysDistinct hdistinct
      rw [exportValue, exportEntries_of_fixed hkeys hexport fun e he => ih e he (h e he), hgather]
      rfl

/-! ## Without nulls -/

/-- The entry is not null. -/
def isGiven (e : Value × Value) : Bool := !(e.2 matches .null)

mutual

/-- Checked data without the entries of records that are null, apart from their fields. -/
def Checked.withoutNulls : Checked → Checked
  | .plain v => .plain v
  | .list items => .list (itemsWithoutNulls items)
  | .record fields others => .record (fieldsWithoutNulls fields) (others.filter isGiven)
  | .arm tag c => .arm tag c.withoutNulls

def itemsWithoutNulls : List Checked → List Checked
  | [] => []
  | c :: cs => c.withoutNulls :: itemsWithoutNulls cs

def fieldsWithoutNulls : List (String × Checked) → List (String × Checked)
  | [] => []
  | (name, c) :: rest => (name, c.withoutNulls) :: fieldsWithoutNulls rest

end

theorem fieldsWithoutNulls_eq_map (fs : List (String × Checked)) :
    fieldsWithoutNulls fs = fs.map fun e => (e.1, e.2.withoutNulls) := by
  induction fs with
  | nil => rfl
  | cons e rest ih => rw [fieldsWithoutNulls, ih, List.map_cons]

theorem withoutNulls_ne_null {c : Checked} (h : c ≠ .plain .null) : c.withoutNulls ≠ .plain .null := by
  cases c with
  | plain v => exact h
  | _ => nofun

theorem isGiven_of_ne_null {k v : Value} (h : v ≠ .null) : isGiven (k, v) := by
  cases v <;> first | rfl | exact absurd rfl h

theorem exportOthers_of_fixed {others : List (Value × Value)} (h : ∀ e ∈ others, exportValue e.2 = .ok e.2) :
    exportOthers others = .ok (others.filter isGiven) := by
  induction others with
  | nil => rfl
  | cons e rest ih =>
    obtain ⟨k, v⟩ := e
    obtain ⟨hv, hrest⟩ := List.forall_mem_cons.1 h
    by_cases hnull : v = .null
    · subst hnull
      exact ih hrest
    · rw [exportOthers.eq_3 k v rest hnull, hv, ih hrest, List.filter_cons_of_pos (isGiven_of_ne_null hnull)]
      rfl

theorem exportOthers_filter (others : List (Value × Value)) : exportOthers (others.filter isGiven) = exportOthers others := by
  induction others with
  | nil => rfl
  | cons e rest ih =>
    obtain ⟨k, v⟩ := e
    by_cases hnull : v = .null
    · subst hnull
      exact ih
    · rw [List.filter_cons_of_pos (isGiven_of_ne_null hnull), exportOthers.eq_3 k v _ hnull, exportOthers.eq_3 k v _ hnull, ih]

mutual

/-- What is null is not exported anyway. -/
theorem exported_withoutNulls : ∀ c : Checked, c.withoutNulls.exported = c.exported
  | .plain _ => rfl
  | .list items => by rw [Checked.withoutNulls, Checked.exported, Checked.exported, exportItems_withoutNulls items]
  | .record fields others => by
    rw [Checked.withoutNulls, Checked.exported, Checked.exported, exportFields_withoutNulls fields, exportOthers_filter]
  | .arm _ c => by rw [Checked.withoutNulls, Checked.exported, Checked.exported, exported_withoutNulls c]

theorem exportItems_withoutNulls : ∀ cs : List Checked, exportItems (itemsWithoutNulls cs) = exportItems cs
  | [] => rfl
  | c :: cs => by
    rw [itemsWithoutNulls, exportItems, exportItems, exported_withoutNulls c, exportItems_withoutNulls cs]

theorem exportFields_withoutNulls : ∀ fs : List (String × Checked), exportFields (fieldsWithoutNulls fs) = exportFields fs
  | [] => rfl
  | (name, c) :: rest => by
    rw [fieldsWithoutNulls]
    by_cases hnull : c = .plain .null
    · subst hnull
      exact exportFields_withoutNulls rest
    · rw [exportFields.eq_3 name c rest hnull, exportFields.eq_3 name c.withoutNulls _ (withoutNulls_ne_null hnull),
        exported_withoutNulls c, exportFields_withoutNulls rest]

end

/-! ## Fields in exported data -/

/-- What is exported of a field, unless it is null. -/
def Checked.given? (c : Checked) : Option Value :=
  match c with
  | .plain .null => none
  | c => c.exported.toOption

/-- The fields that are not null, exported under their keys. -/
def givenFields (fs : List (String × Checked)) : List (Value × Value) :=
  fs.filterMap fun e => e.2.given?.map fun w => (.str e.1, w)

theorem given?_of_ne_null {c : Checked} (h : c ≠ .plain .null) : c.given? = c.exported.toOption := by
  unfold Checked.given?
  split
  · exact absurd rfl h
  · rfl

theorem exportFields_of_isOk {fs : List (String × Checked)} (h : ∀ e ∈ fs, e.2.exported.isOk) :
    exportFields fs = .ok (givenFields fs) := by
  induction fs with
  | nil => rfl
  | cons e rest ih =>
    obtain ⟨name, c⟩ := e
    obtain ⟨hc, hrest⟩ := List.forall_mem_cons.1 h
    by_cases hnull : c = .plain .null
    · subst hnull
      exact ih hrest
    · have hgiven := given?_of_ne_null hnull
      rw [exportFields.eq_3 name c rest hnull, ih hrest]
      cases hw : c.exported with
      | error f =>
        rw [hw] at hc
        cases hc
      | ok w =>
        rw [hw] at hgiven
        rw [givenFields, givenFields, List.filterMap_cons_some (by rw [hgiven]; rfl)]
        rfl

theorem mem_givenFields {fs : List (String × Checked)} {e : Value × Value} (h : e ∈ givenFields fs) :
    ∃ f ∈ fs, e.1 = .str f.1 ∧ f.2.given? = some e.2 := by
  obtain ⟨f, hf, he⟩ := List.mem_filterMap.1 h
  obtain ⟨w, hw, rfl⟩ := Option.map_eq_some_iff.1 he
  exact ⟨f, hf, rfl, hw⟩

theorem lookup_append (key : Text) (a b : List (Value × Value)) :
    Value.lookup key (a ++ b) = (Value.lookup key a).or (Value.lookup key b) := by
  induction a with
  | nil => rfl
  | cons e rest ih =>
    obtain ⟨k, x⟩ := e
    cases k with
    | str k =>
      rw [List.cons_append, Value.lookup, Value.lookup, ih]
      split <;> rfl
    | _ => exact ih

theorem lookup_eq_none {key : Text} {entries : List (Value × Value)} (h : ∀ e ∈ entries, e.1 ≠ .str key) :
    Value.lookup key entries = none := by
  cases hx : Value.lookup key entries with
  | none => rfl
  | some x => exact absurd rfl (h _ (Value.mem_of_lookup hx))

theorem lookup_of_mem {entries : List (Value × Value)} (hdistinct : Value.KeysDistinct entries) {e : Value × Value}
    (he : e ∈ entries) {key : Text} (hkey : e.1 = .str key) : Value.lookup key entries = some e.2 := by
  induction entries with
  | nil => cases he
  | cons d rest ih =>
    obtain ⟨hd, hrest⟩ := List.pairwise_cons.1 hdistinct
    obtain ⟨k, x⟩ := d
    rcases List.mem_cons.1 he with rfl | hmem
    · obtain rfl : k = .str key := hkey
      rw [Value.lookup, if_pos (beq_self_eq_true _)]
    · have hne := hd e hmem
      cases k with
      | str t =>
        rw [hkey] at hne
        have hne : (t == key) = false := hne
        rw [Value.lookup, hne]
        exact ih hrest hmem
      | _ => exact ih hrest hmem

/-- The exported data of a field stands under its key. -/
theorem lookup_givenFields {fs : List (String × Checked)} (hdistinct : fs.Pairwise fun e f => e.1 ≠ f.1) (name : String) :
    Value.lookup name (givenFields fs) = (fs.lookup name).bind Checked.given? := by
  induction fs with
  | nil => rfl
  | cons e rest ih =>
    obtain ⟨k, c⟩ := e
    obtain ⟨hk, hrest⟩ := List.pairwise_cons.1 hdistinct
    rw [List.lookup_cons]
    by_cases hname : name = k
    · subst hname
      rw [beq_self_eq_true]
      cases hgiven : c.given? with
      | none =>
        -- no other field has this key
        rw [givenFields, List.filterMap_cons_none (by rw [hgiven]; rfl)]
        refine (lookup_eq_none ?_).trans hgiven.symm
        intro e he
        obtain ⟨f, hf, hkey, -⟩ := mem_givenFields he
        rw [hkey]
        exact fun heq => hk f hf (Text.ofString_inj.1 (Value.str.inj heq)).symm
      | some w =>
        rw [givenFields, List.filterMap_cons_some (by rw [hgiven]; rfl), Value.lookup, if_pos (beq_self_eq_true _)]
        exact hgiven.symm
    · rw [beq_eq_false_iff_ne.2 hname]
      dsimp only
      rw [← ih hrest]
      cases hgiven : c.given? with
      | none => rw [givenFields, List.filterMap_cons_none (by rw [hgiven]; rfl)]; rfl
      | some w =>
        rw [givenFields, List.filterMap_cons_some (by rw [hgiven]; rfl), Value.lookup, Text.ofString_beq,
          if_neg (by simpa using fun h => hname h.symm)]
        rfl

theorem keysDistinct_givenFields {fs : List (String × Checked)} (hdistinct : fs.Pairwise fun e f => e.1 ≠ f.1) :
    Value.KeysDistinct (givenFields fs) := by
  refine hdistinct.filterMap _ ?_
  intro e f hne a ha b hb
  obtain ⟨x, -, rfl⟩ := Option.map_eq_some_iff.1 ha
  obtain ⟨y, -, rfl⟩ := Option.map_eq_some_iff.1 hb
  show (Text.ofString e.1 == Text.ofString f.1) = false
  rw [Text.ofString_beq, beq_eq_false_iff_ne]
  exact hne

end Schema

end BlockNotebook
