import BlockNotebook.Schema.Scalar
import BlockNotebook.Value.Shown
/-!
Shapes of data, and data checked against them.

A check finds every place that does not fit, in the order of the shape. What it
gives back holds each field under the name it is written by, and apart from them
the entries that the shape does not know.
-/

namespace BlockNotebook.Schema

/-- A field of a record. Data may give it by its key or by its name; it is written by the key. -/
structure RecordField (α : Type) where
  name : String
  key : String
  shape : α
  /-- The data that stands for a field that is left out; none if it must be given. -/
  whenAbsent : Option Value

inductive Shape
  | any
  | text
  | flag
  | whole
  | number
  | choice (options : List String)
  /-- A text or a list of texts. -/
  | textOrTexts
  /-- A text or a pair of texts. -/
  | textOrPair
  | nullable (s : Shape)
  | listOf (s : Shape)
  /-- Any data under keys that are texts. -/
  | openMapping
  /-- Known fields; other entries are kept or dropped. -/
  | record (title : String) (keepsOthers : Bool) (fields : List (RecordField Shape))
  /-- The arm named by the text at a key of the data, or else the arm `otherwise`. -/
  | tagged (key otherwise : String) (arms : List (String × Shape))

/-- Data of a known shape. -/
inductive Checked
  | plain (v : Value)
  | list (items : List Checked)
  | record (fields : List (String × Checked)) (others : List (Value × Value))
  | arm (tag : String) (c : Checked)
  deriving Inhabited

/-! ## Checking -/

/-- What a check finds: all issues, or data of the shape. -/
abbrev Verdict (α : Type) := Except (List Issue) α

/-- Verdicts on several parts: all of their issues, or all of their data. -/
def collect {α : Type} : List (Verdict α) → Verdict (List α)
  | [] => .ok []
  | r :: rs =>
    match r, collect rs with
    | .ok a, .ok as => .ok (a :: as)
    | .ok _, .error is => .error is
    | .error is, .ok _ => .error is
    | .error is, .error js => .error (is ++ js)

/-- A verdict on a part, seen from the whole. -/
def under {α : Type} (s : Segment) (r : Verdict α) : Verdict α := r.mapError (·.map (Issue.under s))

def issue {α : Type} (cause : Cause) (found : Value) : Verdict α := .error [⟨[], cause, found⟩]

/-- A scalar of some kind, as data. -/
def scalar {α : Type} (read : Value → Except Cause α) (write : α → Value) (v : Value) : Verdict Checked :=
  match read v with
  | .ok a => .ok (.plain (write a))
  | .error c => issue c v

def checkChoice (options : List String) (v : Value) : Verdict Checked :=
  match v with
  | .str t =>
    if options.any (t == ·) then .ok (.plain v)
    else issue (if t.any CodePoint.isSurrogate then .notUnicode else .notAmong options) v
  | _ => issue (.notAmong options) v

/-- The items as texts, if all of them are. -/
def readTexts (items : List Value) : Option (List Value) :=
  items.mapM fun v => (readText v).toOption.map .str

def checkTextOrTexts (v : Value) : Verdict Checked :=
  match readText v with
  | .ok s => .ok (.plain (.str s))
  | .error _ =>
    match v.items?.bind readTexts with
    | some texts => .ok (.plain (.list texts))
    | none => issue .notTextOrTexts v

def checkTextOrPair (v : Value) : Verdict Checked :=
  match readText v with
  | .ok s => .ok (.plain (.str s))
  | .error _ =>
    match v.items?.bind readTexts with
    | some [a, b] => .ok (.plain (.pair a b))
    | _ => issue .notRangeOrPair v

/-- A key in a path. Whole numbers of a machine word stand for themselves, keys of another kind for their text. -/
def segmentOf (key : Value) : Segment :=
  match key with
  | .str s => .key s
  | .bool b => .index (if b then 1 else 0)
  | .int i => if -(wholeLimit : Int) ≤ i && i < wholeLimit then .index i else .key key.label
  | key => .key key.label

/-- The entries of an open mapping, with their keys as texts. -/
def checkOpenMapping (v : Value) : Verdict Checked :=
  match v.entries? with
  | none => issue .notMapping v
  | some entries =>
    let parts := entries.map fun e =>
      match readText e.1 with
      | .ok s => (.ok (Value.str s, e.2) : Verdict (Value × Value))
      | .error c => under (segmentOf e.1) (under (.key "[key]") (issue c e.1))
    (collect parts).map fun es =>
      .plain (.map (es.foldl (fun known e => Value.insert known e.1 e.2) []))

/-- The entry that gives a field: the one at its key, else the one at its name. -/
def RecordField.find {α : Type} (f : RecordField α) (entries : List (Value × Value)) : Option (String × Value) :=
  match Value.lookup f.key entries with
  | some v => some (f.key, v)
  | none => (Value.lookup f.name entries).map (f.name, ·)

/-- The keys by which entries give fields. -/
def usedKeys {α : Type} (fields : List (RecordField α)) (entries : List (Value × Value)) : List String :=
  fields.filterMap fun f => (f.find entries).map (·.1)

/-- The entries that give no field. Their keys have to be texts. -/
def checkOthers (used : List String) (entries : List (Value × Value)) : Verdict (List (Value × Value)) :=
  (collect (entries.map fun e =>
    match e.1 with
    | .str k => .ok (if used.any (k == ·) then none else some e)
    | k => under (segmentOf k) (issue .keyNotText k))).map (·.filterMap id)

/-- A key that is a text with surrogates. -/
def isBrokenKey : Value → Bool
  | .str k => k.any CodePoint.isSurrogate
  | _ => false

/-- The verdict on a record from those on its fields and on its other entries. A key among them that is no
text of characters is the one thing wrong with the record. -/
def recordVerdict (keepsOthers : Bool) (used : List String) (entries : List (Value × Value))
    (fields : Verdict (List (String × Checked))) : Verdict Checked :=
  match if keepsOthers then (entries.map (·.1)).find? isBrokenKey else none with
  | some key => issue .notUnicode key
  | none =>
    match fields, if keepsOthers then checkOthers used entries else .ok [] with
    | .ok fs, .ok os => .ok (.record fs os)
    | .ok _, .error is => .error is
    | .error is, .ok _ => .error is
    | .error is, .error js => .error (is ++ js)

/-- The arm of a tagged shape that data chooses. -/
def chosenArm {α : Type} (key otherwise : String) (arms : List (String × α)) (v : Value) : String :=
  match v.get? key with
  | some (.str t) => ((arms.map (·.1)).find? fun (name : String) => t == name).getD otherwise
  | _ => otherwise

mutual

/-- Check data against a shape. -/
def check : Shape → Value → Verdict Checked
  | .any, v => .ok (.plain v)
  | .text, v => scalar readText .str v
  | .flag, v => scalar readFlag .bool v
  | .whole, v => scalar readWhole .int v
  | .number, v => scalar readNumber .float v
  | .choice options, v => checkChoice options v
  | .textOrTexts, v => checkTextOrTexts v
  | .textOrPair, v => checkTextOrPair v
  | .nullable s, v =>
    match v with
    | .null => .ok (.plain .null)
    | v => check s v
  | .listOf s, v =>
    match v.items? with
    | none => issue .notList v
    | some items => (collect (items.mapIdx fun i x => under (.index i) (check s x))).map .list
  | .openMapping, v => checkOpenMapping v
  | .record title keepsOthers fields, v =>
    match v.entries? with
    | none => issue (.notRecord title) v
    | some entries =>
      recordVerdict keepsOthers (usedKeys fields entries) entries (collect (checkFields fields v entries))
  | .tagged key otherwise arms, v =>
    let tag := chosenArm key otherwise arms v
    (under (.key tag) (checkArm arms tag v)).map (.arm tag)

/-- Check the fields of a record. -/
def checkFields : List (RecordField Shape) → Value → List (Value × Value) → List (Verdict (String × Checked))
  | [], _, _ => []
  | ⟨name, key, shape, whenAbsent⟩ :: rest, v, entries =>
    let verdict :=
      match RecordField.find ⟨name, key, shape, whenAbsent⟩ entries with
      | some (used, x) => under (.key used) (check shape x)
      | none =>
        match whenAbsent with
        | some x => check shape x
        | none => under (.key key) (issue .missing v)
    verdict.map (key, ·) :: checkFields rest v entries

/-- Check against the arm of a name. -/
def checkArm : List (String × Shape) → String → Value → Verdict Checked
  | [], _, v => .ok (.plain v)
  | (name, shape) :: rest, tag, v => if name == tag then check shape v else checkArm rest tag v

end

/-! ## Writing back -/

mutual

/-- Checked data as plain data: the fields by their keys, then the other entries. -/
def Checked.toValue : Checked → Value
  | .plain v => v
  | .list items => .list (listToValues items)
  | .record fields others => .map (fieldsToEntries fields ++ others)
  | .arm _ c => c.toValue

def listToValues : List Checked → List Value
  | [] => []
  | c :: cs => c.toValue :: listToValues cs

def fieldsToEntries : List (String × Checked) → List (Value × Value)
  | [] => []
  | (name, c) :: rest => (.str name, c.toValue) :: fieldsToEntries rest

end

end BlockNotebook.Schema
