import BlockNotebook.Block.Basic
import BlockNotebook.Document.Finding
import BlockNotebook.Settings.Environment
import BlockNotebook.Yaml.Load
/-!
The settings of the program, as its settings file gives them.
-/

namespace BlockNotebook

open Schema

structure Settings where
  logLevel : Text
  onError : Text
  /-- The variables of the buttons that are pressed. -/
  pressed : List Text
  format : Text
  deriving DecidableEq, Repr

namespace Settings

/-- A field with a text that stands for it when it is left out. -/
def defaulted (name : String) (shape : Shape) (text : String) : RecordField Shape :=
  ⟨name, name, shape, some (.str text)⟩

def compileShape : Shape :=
  .record "CompileConfig" false [
    defaulted "on_error" (.choice ["fail", "skip"]) "fail",
    ⟨"variable_context", "variable_context", .listOf .text, some (.list [])⟩,
    defaulted "format" (.choice ["python", "markdown"]) "python"]

def shape : Shape :=
  .record "DnbConfig" false
    [defaulted "log_level" .text "WARNING", ⟨"compile", "compile", compileShape, some (.map [])⟩]

/-- Settings as they are checked. -/
def ofChecked (c : Checked) : Settings :=
  let compile := (c.record? "compile").getD (.record [] [])
  { logLevel := (c.text? "log_level").getD []
    onError := (compile.text? "on_error").getD []
    pressed := ((compile.items? "variable_context").getD []).filterMap fun i =>
      match i with
      | .plain (.str s) => some s
      | _ => none
    format := (compile.text? "format").getD [] }

/-- The settings where no file gives others. -/
def defaults : Settings := ⟨"WARNING", "fail", [], "python"⟩

/-! ## Short forms -/

/-- The entries without the one at a text key. -/
def without (key : Text) (entries : List (Value × Value)) : List (Value × Value) :=
  entries.filter fun e => match e.1 with | .str k => k != key | _ => true

/-- The entries with another value at a text key that they hold. -/
def replaceAt (key : Text) (v : Value) (entries : List (Value × Value)) : List (Value × Value) :=
  entries.map fun e => match e.1 with | .str k => if k == key then (.str k, v) else e | _ => e

/-- A level may be a number. -/
def normalizeLevel (entries : List (Value × Value)) : Except Number.Fault (List (Value × Value)) :=
  match Value.lookup "log_level" entries with
  | some (.bool b) => .ok (replaceAt "log_level" (.str (if b then "True" else "False")) entries)
  | some (.int i) => (Number.integerText i).map fun s => replaceAt "log_level" (.str s) entries
  | _ => .ok entries

/-- The names of buttons may be left out, or be a single one. -/
def normalizePressed (entries : List (Value × Value)) : List (Value × Value) :=
  match Value.lookup "variable_context" entries with
  | none => entries
  | some .null => without "variable_context" entries
  | some (.str s) => replaceAt "variable_context" (.list [.str s]) entries
  | some _ => entries

/-- What concerns compiling may be left out. -/
def normalizeCompile (entries : List (Value × Value)) : List (Value × Value) :=
  match Value.lookup "compile" entries with
  | some .null => without "compile" entries
  | some (.map inner) => replaceAt "compile" (.map (normalizePressed inner)) entries
  | _ => entries

/-- Settings with their short forms written out. -/
def normalize (v : Value) : Except Number.Fault Value :=
  match v with
  | .map entries => (normalizeLevel entries).map fun es => .map (normalizeCompile es)
  | v => .ok v

/-! ## Reading -/

/-- Why a text holds no settings. -/
inductive Fault
  | yaml (fault : Yaml.Fault)
  | number (fault : Number.Fault)
  | issues (is : List Issue)

/-- The settings that a YAML text gives. -/
def ofText (env : Environment) (t : Text) : Except Fault Settings :=
  match Yaml.loadDated t with
  | .error f => .error (.yaml f)
  | .ok v =>
    let v := match v with | .null => .map [] | v => v
    match normalize (env.expand v) with
    | .error f => .error (.number f)
    | .ok v => (check shape v).map ofChecked |>.mapError .issues

/-- The settings of a file, if there is one. -/
def ofFile? (env : Environment) (file : Option Text) : Except Fault Settings :=
  match file with
  | none => .ok defaults
  | some t => ofText env t

/-- The variables of the environment that a settings file refers to. -/
def environmentNames (t : Text) : List Text :=
  match Yaml.loadDated t with
  | .ok v => Environment.names v
  | .error _ => []

/-! ## Wording -/

/-- The first characters of a text that take up at most so many bytes. -/
def takeBytes : Nat → List Char → List Char
  | _, [] => []
  | n, c :: rest => if c.utf8Size ≤ n then c :: takeBytes (n - c.utf8Size) rest else []

def byteCount (cs : List Char) : Nat := cs.foldl (fun n c => n + c.utf8Size) 0

/-- A long text without its middle. -/
def shorten (s : String) : String :=
  let cs := s.toList
  if byteCount cs ≤ 50 then s
  else String.ofList (takeBytes 25 cs ++ ['.', '.', '.'] ++ (takeBytes 24 cs.reverse).reverse)

/-- An issue: its place on a line of its own, then the cause and the data found. -/
def issueText (i : Issue) : Text :=
  let place : Text := if i.path.isEmpty then [] else i.path.joined ++ "\n"
  place ++ s!"  {i.cause.message} [type={i.cause.code}, input_value=" ++ shorten i.found.label ++
    s!", input_type={i.found.kindName}]\n    For further information visit " ++
    "https://errors.pydantic.dev/2.14/v/" ++ i.cause.code

/-- The message about issues of a settings file. -/
def issuesText (is : List Issue) : Text :=
  let count := if is.length == 1 then "1 validation error" else s!"{is.length} validation errors"
  count ++ " for DnbConfig\n" ++ Text.joinWith "\n" (is.map issueText)

end Settings

end BlockNotebook
