import BlockNotebook.Value.Basic
import BlockNotebook.Number.Shortest
/-!
Data written as JSON text, compactly: no space between tokens, entries in their
order, every code point outside ASCII as itself.
-/

namespace BlockNotebook.Json

open Text

/-- Why data has no JSON text. -/
inductive Fault
  /-- A collection contains itself. -/
  | circular
  /-- A value of that kind has no JSON form. -/
  | noForm (kind : String)
  /-- A key of that kind has no JSON form. -/
  | noKeyForm (kind : String)
  | number (fault : Number.Fault)
  deriving DecidableEq, Repr

def Fault.message : Fault → String
  | .circular => "Circular reference detected"
  | .noForm kind => s!"Object of type {kind} is not JSON serializable"
  | .noKeyForm kind => s!"keys must be str, int, float, bool or None, not {kind}"
  | .number f => f.message

/-- One code point of a JSON string. -/
def escapePoint (c : CodePoint) : Text :=
  if c == '"' then ['\\', '"']
  else if c == '\\' then ['\\', '\\']
  else if c == '\n' then ['\\', 'n']
  else if c == '\r' then ['\\', 'r']
  else if c == '\t' then ['\\', 't']
  else if c == '\x0c' then ['\\', 'f']
  else if c == '\x08' then ['\\', 'b']
  else if c.value < 0x20 then ofChars ('\\' :: 'u' :: hex 4 c.value)
  else [c]

/-- A text as a JSON string. -/
def string (t : Text) : Text := Text.ofChars ['"'] ++ t.flatMap escapePoint ++ Text.ofChars ['"']

def integer (i : Int) : Except Fault Text :=
  match Number.integerText i with
  | .ok s => .ok s
  | .error e => .error (.number e)

def flag (b : Bool) : Text := if b then ['t', 'r', 'u', 'e'] else ['f', 'a', 'l', 's', 'e']

def null : Text := ['n', 'u', 'l', 'l']

/-- The text of a key, before it is quoted. -/
def keyText : Value → Except Fault Text
  | .str t => .ok t
  | .float x => .ok (Binary64.dataNotation.write x)
  | .bool b => .ok (flag b)
  | .null => .ok null
  | .int i => integer i
  | v => .error (.noKeyForm v.kindName)

mutual

/-- The JSON text of data. -/
def write : Value → Except Fault Text
  | .null => .ok null
  | .bool b => .ok (flag b)
  | .int i => integer i
  | .float x => .ok (Binary64.dataNotation.write x)
  | .str t => .ok (string t)
  | .list items => do
    let parts ← writeItems items
    return Text.ofChars ['['] ++ parts ++ Text.ofChars [']']
  | .pair a b => do
    let x ← write a
    let y ← write b
    return Text.ofChars ['['] ++ x ++ Text.ofChars [','] ++ y ++ Text.ofChars [']']
  | .map entries => do
    let parts ← writeEntries entries
    return Text.ofChars ['\x7b'] ++ parts ++ Text.ofChars ['\x7d']
  | .enclosing _ => .error .circular
  | v => .error (.noForm v.kindName)

/-- The texts of items with commas between. -/
def writeItems : List Value → Except Fault Text
  | [] => .ok []
  | v :: vs => do
    let first ← write v
    let rest ← writeItems vs
    return first ++ (if vs.isEmpty then [] else .char ',' :: rest)

/-- The texts of entries with commas between. -/
def writeEntries : List (Value × Value) → Except Fault Text
  | [] => .ok []
  | (k, v) :: rest => do
    let key ← keyText k
    let value ← write v
    let others ← writeEntries rest
    return string key ++ Text.ofChars [':'] ++ value ++ (if rest.isEmpty then [] else .char ',' :: others)

end

end BlockNotebook.Json
