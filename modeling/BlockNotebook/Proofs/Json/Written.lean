import BlockNotebook.Json.Text
import BlockNotebook.Proofs.Success
import Mathlib.Algebra.Group.Nat.Defs
/-!
Which data has a JSON text.

`HasText` says it of the data alone: bytes, dates, moments and sets have no JSON
text, nor has a collection inside itself or a whole number that is too long; all
other data has one if its parts and its keys have.
-/

namespace BlockNotebook

namespace Json

open Number

/-! ## Data with a text -/

/-- Whole numbers have a text if they have few digits. -/
def IsShort (i : Int) : Prop := i.natAbs < 10 ^ maxDigits

/-- A key that has a text. -/
inductive KeyHasText : Value → Prop
  | null : KeyHasText .null
  | bool (b : Bool) : KeyHasText (.bool b)
  | int {i : Int} (h : IsShort i) : KeyHasText (.int i)
  | float (x : Binary64) : KeyHasText (.float x)
  | str (t : Text) : KeyHasText (.str t)

/-- Data that has a JSON text. -/
inductive HasText : Value → Prop
  | null : HasText .null
  | bool (b : Bool) : HasText (.bool b)
  | int {i : Int} (h : IsShort i) : HasText (.int i)
  | float (x : Binary64) : HasText (.float x)
  | str (t : Text) : HasText (.str t)
  | list {items : List Value} (h : ∀ v ∈ items, HasText v) : HasText (.list items)
  | pair {a b : Value} (ha : HasText a) (hb : HasText b) : HasText (.pair a b)
  | map {entries : List (Value × Value)} (hkeys : ∀ e ∈ entries, KeyHasText e.1) (h : ∀ e ∈ entries, HasText e.2) :
      HasText (.map entries)

theorem isOk_integerText (i : Int) : (integerText i).isOk = true ↔ IsShort i := by
  unfold integerText IsShort
  split <;> simp_all [Except.isOk, Except.toBool]

theorem isOk_integer (i : Int) : (integer i).isOk = true ↔ IsShort i := by
  rw [← isOk_integerText]
  unfold integer
  cases integerText i with
  | ok s => exact ⟨fun _ => rfl, fun _ => rfl⟩
  | error f => exact ⟨nofun, nofun⟩

theorem isOk_keyText (v : Value) : (keyText v).isOk = true ↔ KeyHasText v := by
  cases v with
  | null => exact ⟨fun _ => .null, fun _ => rfl⟩
  | bool b => exact ⟨fun _ => .bool b, fun _ => rfl⟩
  | int i =>
    rw [keyText, isOk_integer]
    exact ⟨.int, fun h => by cases h; assumption⟩
  | float x => exact ⟨fun _ => .float x, fun _ => rfl⟩
  | str t => exact ⟨fun _ => .str t, fun _ => rfl⟩
  | _ => exact ⟨nofun, nofun⟩

mutual

/-- Data is written as JSON exactly if it has a text. -/
theorem isOk_write : ∀ v : Value, (write v).isOk = true ↔ HasText v
  | .null => ⟨fun _ => .null, fun _ => rfl⟩
  | .bool b => ⟨fun _ => .bool b, fun _ => rfl⟩
  | .int i => by
    rw [write, isOk_integer]
    exact ⟨.int, fun h => by cases h; assumption⟩
  | .float x => ⟨fun _ => .float x, fun _ => rfl⟩
  | .str t => ⟨fun _ => .str t, fun _ => rfl⟩
  | .bytes _ => ⟨nofun, nofun⟩
  | .date _ => ⟨nofun, nofun⟩
  | .moment _ => ⟨nofun, nofun⟩
  | .set _ => ⟨nofun, nofun⟩
  | .enclosing _ => ⟨nofun, nofun⟩
  | .list items => by
    rw [write, isOk_one, isOk_writeItems items]
    exact ⟨.list, fun h => by cases h; assumption⟩
  | .pair a b => by
    rw [write, isOk_two, isOk_write a, isOk_write b]
    exact ⟨fun h => .pair h.1 h.2, fun h => by cases h with | pair ha hb => exact ⟨ha, hb⟩⟩
  | .map entries => by
    rw [write, isOk_one, isOk_writeEntries entries]
    exact ⟨fun h => .map h.1 h.2, fun h => by cases h with | map hkeys h => exact ⟨hkeys, h⟩⟩

theorem isOk_writeItems : ∀ items : List Value, (writeItems items).isOk = true ↔ ∀ v ∈ items, HasText v
  | [] => ⟨fun _ => nofun, fun _ => rfl⟩
  | v :: vs => by rw [writeItems, isOk_two, isOk_write v, isOk_writeItems vs, List.forall_mem_cons]

theorem isOk_writeEntries : ∀ entries : List (Value × Value), (writeEntries entries).isOk = true ↔
    (∀ e ∈ entries, KeyHasText e.1) ∧ ∀ e ∈ entries, HasText e.2
  | [] => ⟨fun _ => ⟨nofun, nofun⟩, fun _ => rfl⟩
  | (k, v) :: rest => by
    rw [writeEntries, isOk_three, isOk_keyText k, isOk_write v, isOk_writeEntries rest]
    simp only [List.forall_mem_cons]
    exact ⟨fun ⟨hk, hv, hks, hvs⟩ => ⟨⟨hk, hks⟩, hv, hvs⟩, fun ⟨⟨hk, hks⟩, hv, hvs⟩ => ⟨hk, hv, hks, hvs⟩⟩

end

end Json

end BlockNotebook
