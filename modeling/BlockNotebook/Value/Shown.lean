import BlockNotebook.Value.Basic
import BlockNotebook.Number.Shortest
/-!
Data as messages show it: brackets for lists, braces for mappings and sets,
quotes around texts. A collection inside itself is shown as an ellipsis in its
own brackets.
-/

namespace BlockNotebook.Value

open Text

/-- The brackets of a collection. -/
inductive Brackets
  | square
  | round
  | curly

def Brackets.ellipsis : Brackets → String
  | .square => "[...]"
  | .round => "(...)"
  | .curly => "\x7b...\x7d"

mutual

/-- The data in a message; `outer` are the brackets of the collections around it, the nearest first. -/
def shownIn (outer : List Brackets) : Value → Except Number.Fault String
  | .null => .ok "None"
  | .bool b => .ok (if b then "True" else "False")
  | .int i => Number.integerText i
  | .float x => .ok (Binary64.plainNotation.write x)
  | .str s => .ok (quote s)
  | .bytes bs => .ok (String.ofList (quotedBytes bs))
  | .date d => .ok d.shown
  | .moment m => .ok m.shown
  | .list items => do
    let parts ← shownItems (.square :: outer) items
    return "[" ++ String.intercalate ", " parts ++ "]"
  | .pair a b => do
    let x ← shownIn (.round :: outer) a
    let y ← shownIn (.round :: outer) b
    return "(" ++ x ++ ", " ++ y ++ ")"
  | .set items => do
    if items.isEmpty then return "set()"
    let parts ← shownItems (.curly :: outer) items
    return "\x7b" ++ String.intercalate ", " parts ++ "\x7d"
  | .map entries => do
    let parts ← shownEntries (.curly :: outer) entries
    return "\x7b" ++ String.intercalate ", " parts ++ "\x7d"
  | .enclosing n => .ok (outer.getD n .square).ellipsis

def shownItems (outer : List Brackets) : List Value → Except Number.Fault (List String)
  | [] => .ok []
  | v :: vs => do
    let first ← shownIn outer v
    let rest ← shownItems outer vs
    return first :: rest

def shownEntries (outer : List Brackets) : List (Value × Value) → Except Number.Fault (List String)
  | [] => .ok []
  | (k, v) :: rest => do
    let key ← shownIn outer k
    let value ← shownIn outer v
    let others ← shownEntries outer rest
    return (key ++ ": " ++ value) :: others

end

/-- The data in a message; none if it holds a number too long to be written. -/
def shown (v : Value) : Except Number.Fault String := shownIn [] v

/-- The data in a message, or a mark in its place if it has no text. -/
def label (v : Value) : String :=
  match v.shown with
  | .ok s => s
  | .error _ => s!"<unprintable {v.kindName} object>"

end BlockNotebook.Value
