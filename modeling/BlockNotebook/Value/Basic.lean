import BlockNotebook.Calendar
/-!
Plain data, as read from a document before its shape is known.

A collection may contain itself; `enclosing n` stands for the collection `n`
levels further out. `within` puts the whole collection in its place, so that a
part taken out of a collection makes sense on its own.
-/

namespace BlockNotebook

open Calendar

/-- A piece of data. -/
inductive Value
  | null
  | bool (b : Bool)
  | int (i : Int)
  | float (x : Binary64)
  | str (t : Text)
  | bytes (bs : List UInt8)
  | date (d : Date)
  | moment (m : Moment)
  | list (items : List Value)
  | pair (a b : Value)
  | set (items : List Value)
  | map (entries : List (Value × Value))
  /-- The collection that many levels further out; zero is the nearest. -/
  | enclosing (level : Nat)
  deriving Inhabited

namespace Value

mutual

/-- Replace references that leave `depth` levels and name the collection just outside by that collection. -/
def replace (outer : Value) (depth : Nat) : Value → Value
  | .list items => .list (replaceList outer (depth + 1) items)
  | .pair a b => .pair (replace outer (depth + 1) a) (replace outer (depth + 1) b)
  | .set items => .set items
  | .map entries => .map (replaceEntries outer (depth + 1) entries)
  | .enclosing n => if n == depth then outer else .enclosing n
  | v => v

def replaceList (outer : Value) (depth : Nat) : List Value → List Value
  | [] => []
  | v :: vs => replace outer depth v :: replaceList outer depth vs

def replaceEntries (outer : Value) (depth : Nat) : List (Value × Value) → List (Value × Value)
  | [] => []
  | (k, v) :: rest => (k, replace outer depth v) :: replaceEntries outer depth rest

end

/-- A direct part of a collection, with the collection in place of the references to it. -/
def within (outer inner : Value) : Value := replace outer 0 inner

/-- The items of a list, a pair or a set. -/
def items? : Value → Option (List Value)
  | .list items => some (items.map (within (.list items)))
  | .pair a b => some [within (.pair a b) a, within (.pair a b) b]
  | .set items => some items
  | _ => none

/-- The entries of a mapping. -/
def entries? : Value → Option (List (Value × Value))
  | .map entries => some (entries.map fun e => (e.1, within (.map entries) e.2))
  | _ => none

mutual

/-- The data contains itself somewhere. -/
def isCyclic : Value → Bool
  | .list items => anyCyclic items
  | .pair a b => isCyclic a || isCyclic b
  | .set _ => false
  | .map entries => anyEntryCyclic entries
  | .enclosing _ => true
  | _ => false

def anyCyclic : List Value → Bool
  | [] => false
  | v :: vs => isCyclic v || anyCyclic vs

def anyEntryCyclic : List (Value × Value) → Bool
  | [] => false
  | (_, v) :: rest => isCyclic v || anyEntryCyclic rest

end

/-! ## Keys of mappings -/

/-- The whole number that a number or a truth value is. -/
def asInteger? : Value → Option Int
  | .bool b => some (if b then 1 else 0)
  | .int i => some i
  | .float x => x.toInt?
  | _ => none

/-- The moment in UTC, in microseconds since the first day of the calendar, for comparing moments. -/
def instant (m : Moment) (offset : Int) : Int :=
  let y : Int := m.date.year
  let days : Int := (List.range (m.date.month - 1)).foldl
    (fun n k => n + daysInMonth m.date.year (k + 1)) (365 * y + Int.fdiv (y - 1) 4 - Int.fdiv (y - 1) 100 +
      Int.fdiv (y - 1) 400 + m.date.day)
  (((days * 24 + m.hour) * 60 + m.minute) * 60 + m.second - offset) * 1000000 + m.microsecond

/-- Two values are one key of a mapping: equal texts, or equal numbers of whatever kind. -/
def sameKey (a b : Value) : Bool :=
  match a, b with
  | .null, .null => true
  | .str s, .str t => s == t
  | .bytes s, .bytes t => s == t
  | .date d, .date e => d == e
  | .moment m, .moment n =>
    match m.offset, n.offset with
    | none, none => m == n
    | some o, some p => instant m o == instant n p
    | _, _ => false
  | .float x, .float y => x.sameValue y
  | _, _ =>
    match a.asInteger?, b.asInteger? with
    | some i, some j => i == j
    | _, _ => false

/-- The entries with one more: a key that is there already keeps its place and takes the new value. -/
def insert (entries : List (Value × Value)) (key value : Value) : List (Value × Value) :=
  match entries with
  | [] => [(key, value)]
  | (k, v) :: rest => if sameKey k key then (k, value) :: rest else (k, v) :: insert rest key value

/-- The value at a text key of some entries. -/
def lookup (key : Text) : List (Value × Value) → Option Value
  | [] => none
  | (.str k, v) :: rest => if k == key then some v else lookup key rest
  | _ :: rest => lookup key rest

/-- The value at a text key of a mapping. -/
def get? (v : Value) (key : Text) : Option Value := v.entries?.bind (lookup key)

/-- The name of the kind of data, in messages. -/
def kindName : Value → String
  | .null => "NoneType"
  | .bool _ => "bool"
  | .int _ => "int"
  | .float _ => "float"
  | .str _ => "str"
  | .bytes _ => "bytes"
  | .date _ => "date"
  | .moment _ => "datetime"
  | .list _ => "list"
  | .pair _ _ => "tuple"
  | .set _ => "set"
  | .map _ => "dict"
  | .enclosing _ => "list"

end Value

end BlockNotebook
