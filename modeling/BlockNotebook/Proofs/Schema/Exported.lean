import BlockNotebook.Proofs.Json.Written
import BlockNotebook.Schema.Export
import Mathlib.Data.List.TakeWhile
/-!
Which checked data can be exported.

`Exportable` says it of the data: bytes have to be UTF-8, keys have to have a
text, and no collection may contain itself.
-/

namespace BlockNotebook.Schema

open Text

/-- A key that has a text when it is exported. -/
def KeyExportable : Value → Prop
  | .int i => Json.IsShort i
  | .str t => ∀ c ∈ t, c.isSurrogate = false
  | .bytes bs => (Utf8.decode bs).isOk
  | _ => True

/-- Open data that can be exported. -/
inductive Exportable : Value → Prop
  | null : Exportable .null
  | bool (b : Bool) : Exportable (.bool b)
  | int (i : Int) : Exportable (.int i)
  | float (x : Binary64) : Exportable (.float x)
  | str (t : Text) : Exportable (.str t)
  | bytes {bs : List UInt8} (h : (Utf8.decode bs).isOk) : Exportable (.bytes bs)
  | date (d : Calendar.Date) : Exportable (.date d)
  | moment (m : Calendar.Moment) : Exportable (.moment m)
  | list {items : List Value} (h : ∀ v ∈ items, Exportable v) : Exportable (.list items)
  | pair {a b : Value} (ha : Exportable a) (hb : Exportable b) : Exportable (.pair a b)
  | set {items : List Value} (h : ∀ v ∈ items, Exportable v) : Exportable (.set items)
  | map {entries : List (Value × Value)} (hkeys : ∀ e ∈ entries, KeyExportable e.1)
      (h : ∀ e ∈ entries, Exportable e.2) : Exportable (.map entries)

theorem isOk_exportBytes (bs : List UInt8) : (exportBytes bs).isOk = (Utf8.decode bs).isOk := by
  unfold exportBytes
  cases Utf8.decode bs <;> rfl

theorem unencodable?_utf8 (t : Text) : unencodable? .utf8 t = none ↔ ∀ c ∈ t, c.isSurrogate = false := by
  have hnil : unencodable? .utf8 t = none ↔ t.dropWhile Coding.utf8.covers = [] := by
    unfold unencodable?
    cases t.dropWhile Coding.utf8.covers <;> simp
  rw [hnil, List.dropWhile_eq_nil_iff]
  simp [Coding.covers]

theorem isOk_exportKey (k : Value) : (exportKey k).isOk = true ↔ KeyExportable k := by
  cases k with
  | int i =>
    show (exportKey (.int i)).isOk = true ↔ Json.IsShort i
    rw [← Json.isOk_integerText, exportKey.eq_def]
    dsimp only
    cases Number.integerText i with
    | ok s => exact ⟨fun _ => rfl, fun _ => rfl⟩
    | error f => exact ⟨nofun, nofun⟩
  | str t =>
    show (exportKey (.str t)).isOk = true ↔ ∀ c ∈ t, c.isSurrogate = false
    rw [← unencodable?_utf8, exportKey.eq_def]
    dsimp only
    cases unencodable? .utf8 t with
    | none => exact ⟨fun _ => rfl, fun _ => rfl⟩
    | some u => exact ⟨nofun, nofun⟩
  | bytes bs => exact Iff.of_eq (congrArg (· = true) (isOk_exportBytes bs))
  | _ => exact ⟨fun _ => trivial, fun _ => rfl⟩

mutual

theorem isOk_exportValue : ∀ v : Value, (exportValue v).isOk = true ↔ Exportable v
  | .null => ⟨fun _ => .null, fun _ => rfl⟩
  | .bool b => ⟨fun _ => .bool b, fun _ => rfl⟩
  | .int i => ⟨fun _ => .int i, fun _ => rfl⟩
  | .float x => ⟨fun _ => .float x, fun _ => rfl⟩
  | .str t => ⟨fun _ => .str t, fun _ => rfl⟩
  | .date d => ⟨fun _ => .date d, fun _ => rfl⟩
  | .moment m => ⟨fun _ => .moment m, fun _ => rfl⟩
  | .enclosing _ => ⟨nofun, nofun⟩
  | .bytes bs => by
    rw [exportValue, isOk_map, isOk_exportBytes]
    exact ⟨.bytes, fun h => by cases h; assumption⟩
  | .list items => by
    rw [exportValue, isOk_map, isOk_exportValues items]
    exact ⟨.list, fun h => by cases h; assumption⟩
  | .set items => by
    rw [exportValue, isOk_map, isOk_exportValues items]
    exact ⟨.set, fun h => by cases h; assumption⟩
  | .pair a b => by
    rw [exportValue, isOk_two, isOk_exportValue a, isOk_exportValue b]
    exact ⟨fun h => .pair h.1 h.2, fun h => by cases h with | pair ha hb => exact ⟨ha, hb⟩⟩
  | .map entries => by
    rw [exportValue, isOk_map, isOk_exportEntries entries []]
    exact ⟨fun h => .map h.1 h.2, fun h => by cases h with | map hkeys h => exact ⟨hkeys, h⟩⟩

theorem isOk_exportValues : ∀ items : List Value, (exportValues items).isOk = true ↔ ∀ v ∈ items, Exportable v
  | [] => ⟨fun _ => nofun, fun _ => rfl⟩
  | v :: vs => by rw [exportValues, isOk_two, isOk_exportValue v, isOk_exportValues vs, List.forall_mem_cons]

/-- What is known already does not matter. -/
theorem isOk_exportEntries : ∀ entries known : List (Value × Value), (exportEntries entries known).isOk = true ↔
    (∀ e ∈ entries, KeyExportable e.1) ∧ ∀ e ∈ entries, Exportable e.2
  | [], _ => ⟨fun _ => ⟨nofun, nofun⟩, fun _ => rfl⟩
  | (k, v) :: rest, known => by
    rw [exportEntries, isOk_bind fun _ => isOk_bind fun _ => isOk_exportEntries rest _, isOk_exportKey,
      isOk_exportValue v]
    simp only [List.forall_mem_cons]
    exact ⟨fun ⟨hk, hv, hks, hvs⟩ => ⟨⟨hk, hks⟩, hv, hvs⟩, fun ⟨⟨hk, hks⟩, hv, hvs⟩ => ⟨hk, hv, hks, hvs⟩⟩

end

theorem isOk_exportOthers (others : List (Value × Value)) :
    (exportOthers others).isOk = true ↔ ∀ e ∈ others, Exportable e.2 := by
  induction others with
  | nil => exact ⟨fun _ => nofun, fun _ => rfl⟩
  | cons e rest ih =>
    obtain ⟨k, v⟩ := e
    rw [List.forall_mem_cons, ← ih]
    -- Null is left out, and can be exported anyway.
    by_cases hv : v = .null
    · subst hv
      exact ⟨fun h => ⟨.null, h⟩, fun h => h.2⟩
    · rw [exportOthers.eq_3 k v rest hv, isOk_two, isOk_exportValue]

/-! ## Checked data -/

/-- Checked data that can be exported. -/
inductive Checked.Exportable : Checked → Prop
  | plain {v : Value} (h : Schema.Exportable v) : Exportable (.plain v)
  | list {items : List Checked} (h : ∀ c ∈ items, Exportable c) : Exportable (.list items)
  | record {fields : List (String × Checked)} {others : List (Value × Value)} (h : ∀ f ∈ fields, Exportable f.2)
      (hothers : ∀ e ∈ others, Schema.Exportable e.2) : Exportable (.record fields others)
  | arm {tag : String} {c : Checked} (h : Exportable c) : Exportable (.arm tag c)

mutual

/-- Checked data is exported exactly if it can be. -/
theorem isOk_exported : ∀ c : Checked, c.exported.isOk = true ↔ c.Exportable
  | .plain v => by
    rw [Checked.exported, isOk_exportValue]
    exact ⟨.plain, fun h => by cases h; assumption⟩
  | .list items => by
    rw [Checked.exported, isOk_map, isOk_exportItems items]
    exact ⟨.list, fun h => by cases h; assumption⟩
  | .record fields others => by
    rw [Checked.exported, isOk_two, isOk_exportFields fields, isOk_exportOthers]
    exact ⟨fun h => .record h.1 h.2, fun h => by cases h with | record h hothers => exact ⟨h, hothers⟩⟩
  | .arm _ c => by
    rw [Checked.exported, isOk_exported c]
    exact ⟨.arm, fun h => by cases h; assumption⟩

theorem isOk_exportItems : ∀ items : List Checked, (exportItems items).isOk = true ↔ ∀ c ∈ items, c.Exportable
  | [] => ⟨fun _ => nofun, fun _ => rfl⟩
  | c :: cs => by rw [exportItems, isOk_two, isOk_exported c, isOk_exportItems cs, List.forall_mem_cons]

theorem isOk_exportFields : ∀ fields : List (String × Checked),
    (exportFields fields).isOk = true ↔ ∀ f ∈ fields, f.2.Exportable
  | [] => ⟨fun _ => nofun, fun _ => rfl⟩
  | (name, c) :: rest => by
    rw [List.forall_mem_cons, ← isOk_exportFields rest]
    by_cases hc : c = .plain .null
    · subst hc
      exact ⟨fun h => ⟨.plain .null, h⟩, fun h => h.2⟩
    · rw [exportFields.eq_3 name c rest hc, isOk_two, isOk_exported c]

end

end BlockNotebook.Schema
