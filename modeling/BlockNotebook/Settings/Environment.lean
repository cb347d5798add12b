import BlockNotebook.Value.Basic
import BlockNotebook.Text.Word
/-!
References to variables of the environment inside texts.

A reference is a name in braces after a dollar sign. It becomes the value of the
variable, which is not searched again; a name that is not set stays as it is written.
-/

namespace BlockNotebook

open Text

/-- The variables that are set, by their names. -/
abbrev Environment := List (Text × Text)

namespace Environment

/-- The name of the reference in front of a text, if there is one. -/
def reference? : Text → Option Text
  | .char '$' :: .char '\x7b' :: rest =>
    let name := rest.takeWhile (·.satisfies isWord)
    match rest.drop name.length with
    | .char '\x7d' :: _ => if name.isEmpty then none else some name
    | _ => none
  | _ => none

/-- The text of a reference. -/
def referenceText (name : Text) : Text := "$\x7b" ++ name ++ "\x7d"

/-- What a reference becomes. -/
def replacement (env : Environment) (name : Text) : Text :=
  (env.lookup name).getD (referenceText name)

/-- The rest of a text after `skip` code points of a reference that is replaced already. -/
def expandFrom (env : Environment) (skip : Nat) : Text → Text
  | [] => []
  | c :: rest =>
    match skip with
    | skip + 1 => expandFrom env skip rest
    | 0 =>
      match reference? (c :: rest) with
      | some name => env.replacement name ++ expandFrom env (name.length + 2) rest
      | none => c :: expandFrom env 0 rest

/-- The names that a text refers to, after `skip` code points of a reference. -/
def namesFrom (skip : Nat) : Text → List Text
  | [] => []
  | c :: rest =>
    match skip with
    | skip + 1 => namesFrom skip rest
    | 0 =>
      match reference? (c :: rest) with
      | some name => name :: namesFrom (name.length + 2) rest
      | none => namesFrom 0 rest

/-- A text with its references replaced. -/
def expandText (env : Environment) (t : Text) : Text := expandFrom env 0 t

mutual

/-- Data with the references in its texts replaced. Keys, and members of sets and pairs, stay as they are. -/
def expand (env : Environment) : Value → Value
  | .str t => .str (env.expandText t)
  | .list items => .list (expandItems env items)
  | .map entries => .map (expandEntries env entries)
  | v => v

def expandItems (env : Environment) : List Value → List Value
  | [] => []
  | v :: vs => expand env v :: expandItems env vs

def expandEntries (env : Environment) : List (Value × Value) → List (Value × Value)
  | [] => []
  | (k, v) :: rest => (k, expand env v) :: expandEntries env rest

end

mutual

/-- The names that the texts in data refer to, where references are replaced. -/
def names : Value → List Text
  | .str t => namesFrom 0 t
  | .list items => namesInItems items
  | .map entries => namesInEntries entries
  | _ => []

def namesInItems : List Value → List Text
  | [] => []
  | v :: vs => names v ++ namesInItems vs

def namesInEntries : List (Value × Value) → List Text
  | [] => []
  | (_, v) :: rest => names v ++ namesInEntries rest

end

end Environment

end BlockNotebook
