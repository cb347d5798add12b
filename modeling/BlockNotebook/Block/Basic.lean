import BlockNotebook.Block.Shape
import BlockNotebook.Schema.Export
/-!
Checked blocks, and what is read from them.
-/

namespace BlockNotebook

open Schema

namespace Schema.Checked

/-- A field of a record. -/
def field? (c : Checked) (name : String) : Option Checked :=
  match c with
  | .record fields _ => fields.lookup name
  | _ => none

/-- A field that is a text. -/
def text? (c : Checked) (name : String) : Option Text :=
  match c.field? name with
  | some (.plain (.str t)) => some t
  | _ => none

/-- A field that is a truth value; one that is left out is false. -/
def isSet (c : Checked) (name : String) : Bool :=
  match c.field? name with
  | some (.plain (.bool b)) => b
  | _ => false

/-- A field that is a whole number. -/
def whole? (c : Checked) (name : String) : Option Int :=
  match c.field? name with
  | some (.plain (.int i)) => some i
  | _ => none

/-- A field as plain data; null if there is none. -/
def data (c : Checked) (name : String) : Value :=
  match c.field? name with
  | some x => x.toValue
  | none => .null

/-- The items of a field that is a list. -/
def items? (c : Checked) (name : String) : Option (List Checked) :=
  match c.field? name with
  | some (.list items) => some items
  | _ => none

/-- A field that is a record. -/
def record? (c : Checked) (name : String) : Option Checked :=
  match c.field? name with
  | some (.record fields others) => some (.record fields others)
  | _ => none

end Schema.Checked

/-- A checked block. `form` is the kind whose form it has; a block with open metadata has none. -/
structure Block where
  form : Option Kind
  content : Checked
  deriving Inhabited

namespace Block

def ofChecked : Checked → Block
  | .arm tag c => ⟨Kind.ofName? tag, c⟩
  | c => ⟨none, c⟩

/-- The block that data describes. -/
def read (v : Value) : Verdict Block := (check shape v).map ofChecked

def id (b : Block) : Text := (b.content.text? "id").getD []

def type (b : Block) : Text := (b.content.text? "type").getD []

def sortingKey (b : Block) : Text := (b.content.text? "sortingKey").getD []

/-- The text of the block; empty if it has none. -/
def text (b : Block) : Text := (b.content.text? "content").getD []

/-- The kind that the type names. It can differ from the form: a type given as bytes chooses no form. -/
def kind? (b : Block) : Option Kind := Kind.ofName? b.type

/-- The metadata of a block that has a form. -/
def metadata (b : Block) : Checked := (b.content.record? "metadata").getD (.record [] [])

/-- Ids are texts of any sort, but not empty. -/
def isId : Value → Bool
  | .str t => !t.isEmpty
  | _ => false

/-- The name of the form. -/
def formTitle (b : Block) : String :=
  match b.form with
  | some k => title k
  | none => "GenericBlock"

end Block

end BlockNotebook
