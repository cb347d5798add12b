import BlockNotebook.Schema.Shape
import BlockNotebook.Text.Unencodable
import BlockNotebook.Text.Utf8
/-!
Checked data as data that JSON can hold.

Dates and bytes become text, numbers that are not finite become null, sets become
lists, and keys become text. Fields and other entries of a record that are null
are left out; null stays inside open data.
-/

namespace BlockNotebook.Schema

open Text

/-- Why data has no such form. -/
inductive ExportFault
  /-- A collection contains itself. -/
  | circular
  | notUtf8 (fault : Utf8.Fault)
  /-- A key that holds surrogates. -/
  | noBytes (stretch : Unencodable)
  | number (fault : Number.Fault)
  deriving DecidableEq, Repr

def ExportFault.message : ExportFault → String
  | .circular => "Circular reference detected (id repeated)"
  | .notUtf8 f =>
    "'utf-8' codec can't decode byte 0x" ++ String.ofList (hex 2 f.first.toNat) ++
      s!" in position {f.position}: invalid utf-8"
  | .noBytes u => u.message
  | .number f => f.message

def exportBytes (bs : List UInt8) : Except ExportFault Text :=
  match Utf8.decode bs with
  | .ok cs => .ok (Text.ofChars cs)
  | .error f => .error (.notUtf8 f)

/-- The text of a key. A number that is not finite has the text of null, as it is null among values. -/
def exportKey : Value → Except ExportFault Text
  | .null => .ok "None"
  | .bool b => .ok (if b then "true" else "false")
  | .int i =>
    match Number.integerText i with
    | .ok s => .ok s
    | .error f => .error (.number f)
  | .float x => .ok (if x.isFinite then Binary64.plainNotation.write x else "None")
  | .str t =>
    match unencodable? .utf8 t with
    | none => .ok t
    | some u => .error (.noBytes u)
  | .bytes bs => exportBytes bs
  | .date d => .ok (Text.ofChars d.text)
  | .moment m => .ok (Text.ofChars m.dataText)
  | v => .ok v.label

mutual

/-- Open data. -/
def exportValue : Value → Except ExportFault Value
  | .float x => .ok (if x.isFinite then .float x else .null)
  | .bytes bs => (exportBytes bs).map .str
  | .date d => .ok (.str (Text.ofChars d.text))
  | .moment m => .ok (.str (Text.ofChars m.dataText))
  | .list items => (exportValues items).map .list
  | .pair a b => do
    let x ← exportValue a
    let y ← exportValue b
    return .list [x, y]
  | .set items => (exportValues items).map .list
  | .map entries => (exportEntries entries []).map .map
  | .enclosing _ => .error .circular
  | v => .ok v

def exportValues : List Value → Except ExportFault (List Value)
  | [] => .ok []
  | v :: vs => do
    let first ← exportValue v
    let rest ← exportValues vs
    return first :: rest

/-- Entries after those already known; of keys with one text the last one gives the value. -/
def exportEntries : List (Value × Value) → List (Value × Value) → Except ExportFault (List (Value × Value))
  | [], known => .ok known
  | (k, v) :: rest, known => do
    let key ← exportKey k
    let value ← exportValue v
    exportEntries rest (Value.insert known (.str key) value)

end

/-- Entries of a record that are not null. -/
def exportOthers : List (Value × Value) → Except ExportFault (List (Value × Value))
  | [] => .ok []
  | (k, v) :: rest => do
    match v with
    | .null => exportOthers rest
    | v =>
      let value ← exportValue v
      let others ← exportOthers rest
      return (k, value) :: others

mutual

/-- Checked data. -/
def Checked.exported : Checked → Except ExportFault Value
  | .plain v => exportValue v
  | .list items => (exportItems items).map .list
  | .record fields others => do
    let fs ← exportFields fields
    let os ← exportOthers others
    return .map (fs ++ os)
  | .arm _ c => c.exported

def exportItems : List Checked → Except ExportFault (List Value)
  | [] => .ok []
  | c :: cs => do
    let first ← c.exported
    let rest ← exportItems cs
    return first :: rest

/-- Fields of a record that are not null. -/
def exportFields : List (String × Checked) → Except ExportFault (List (Value × Value))
  | [] => .ok []
  | (name, c) :: rest => do
    match c with
    | .plain .null => exportFields rest
    | c =>
      let value ← c.exported
      let others ← exportFields rest
      return (.str name, value) :: others

end

end BlockNotebook.Schema
