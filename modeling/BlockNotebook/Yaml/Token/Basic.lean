import BlockNotebook.Yaml.Cursor
/-!
The tokens of a YAML text.
-/

namespace BlockNotebook.Yaml

/-- A line that instructs the reader. -/
inductive Directive
  | version (major minor : Nat)
  | tagHandle (handle stem : String)
  | other (name : String)
  deriving DecidableEq, Repr

/-- A tag as it is written: an abbreviating handle, if there is one, and the rest. -/
structure TagText where
  handle : Option String
  suffix : String
  deriving DecidableEq, Repr

inductive Token.Kind
  | streamStart
  | streamEnd
  | directive (d : Directive)
  | documentStart
  | documentEnd
  | blockSequenceStart
  | blockMappingStart
  | blockEnd
  | flowSequenceStart
  | flowMappingStart
  | flowSequenceEnd
  | flowMappingEnd
  | key
  | value
  | blockEntry
  | flowEntry
  | aliasOf (name : String)
  | anchor (name : String)
  | tag (text : TagText)
  | scalar (text : Text) (plain : Bool)
  deriving DecidableEq, Repr

/-- The name of a token in messages. -/
def Token.Kind.name : Token.Kind → String
  | .streamStart => "<stream start>"
  | .streamEnd => "<stream end>"
  | .directive _ => "<directive>"
  | .documentStart => "<document start>"
  | .documentEnd => "<document end>"
  | .blockSequenceStart => "<block sequence start>"
  | .blockMappingStart => "<block mapping start>"
  | .blockEnd => "<block end>"
  | .flowSequenceStart => "["
  | .flowMappingStart => "\x7b"
  | .flowSequenceEnd => "]"
  | .flowMappingEnd => "\x7d"
  | .key => "?"
  | .value => ":"
  | .blockEntry => "-"
  | .flowEntry => ","
  | .aliasOf _ => "<alias>"
  | .anchor _ => "<anchor>"
  | .tag _ => "<tag>"
  | .scalar _ _ => "<scalar>"

/-- A token and the places where it starts and stops. -/
structure Token where
  kind : Token.Kind
  start : Mark
  stop : Mark
  deriving DecidableEq, Repr

/-- What is read in order, up to its end or to the first fault. -/
structure Stream (α : Type) where
  items : List α
  fault : Option Fault

/-- One more item in front. -/
def Stream.cons {α : Type} (a : α) (s : Stream α) : Stream α := ⟨a :: s.items, s.fault⟩

/-- A fault met while tokens are read. -/
def tokenFault {α : Type} (activity : Activity) (since : Mark) (problem : Problem) (mark : Mark) :
    Except Fault α :=
  .error (.at .token (some activity) (some since) problem mark)

end BlockNotebook.Yaml
