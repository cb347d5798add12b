import BlockNotebook.Log.Record
import BlockNotebook.Text.Case
/-!
The logger: from which level on records are written, and how.

A logger starts with no handler. Setting it up gives it a level and, if it has none,
a handler. Without a handler only warnings are written, as bare messages.
-/

namespace BlockNotebook.Log

structure Logger where
  /-- The lowest weight of the records that are written; zero leaves the choice to the default. -/
  level : Nat
  /-- How often a record is written. -/
  handlers : Nat
  deriving DecidableEq, Repr

/-- Why a name is refused as the name of a level. -/
inductive Fault
  /-- The name stands for the format of records. -/
  | format
  /-- The name stands for the styles of formats. -/
  | styles
  deriving DecidableEq, Repr

/-- The format that records have by default. -/
def basicFormat : String := "%(levelname)s:%(name)s:%(message)s"

/-- The styles of formats, as they are shown. -/
def stylesText : String :=
  "\x7b'%': (<class 'logging.PercentStyle'>, '%(levelname)s:%(name)s:%(message)s'), " ++
    "'\x7b': (<class 'logging.StrFormatStyle'>, '\x7blevelname\x7d:\x7bname\x7d:\x7bmessage\x7d'), " ++
    "'$': (<class 'logging.StringTemplateStyle'>, '$\x7blevelname\x7d:$\x7bname\x7d:$\x7bmessage\x7d')\x7d"

def Fault.message : Fault → String
  | .format => "Unknown level: '" ++ basicFormat ++ "'"
  | .styles => "Level not an integer or a valid string: " ++ stylesText

/-- The weights of the levels, by all their names. -/
def weights : List (String × Nat) := [
  ("CRITICAL", 50), ("FATAL", 50), ("ERROR", 40), ("WARNING", 30), ("WARN", 30), ("INFO", 20),
  ("DEBUG", 10), ("NOTSET", 0)]

/-- The weight of the level with a name, in letters of either case. Other names are warnings. -/
def weightOf (name : Text) : Except Fault Nat :=
  let word := Text.upper name
  if word == "BASIC_FORMAT" then .error .format
  else if word == "_STYLES" then .error .styles
  else
    let known := weights.find? fun (level, _) => word == level
    .ok ((known.map (·.2)).getD Level.warning.weight)

namespace Logger

/-- A logger that is not set up. -/
def start : Logger := ⟨0, 0⟩

/-- A logger set up for a level. -/
def setup (l : Logger) (name : Text) : Except Fault Logger :=
  (weightOf name).map fun weight => ⟨weight, if l.handlers == 0 then 1 else l.handlers⟩

/-- The lowest weight of the records that pass. -/
def threshold (l : Logger) : Nat := if l.level == 0 then Level.warning.weight else l.level

/-- The record passes the level. -/
def passes (l : Logger) (r : Record) : Bool := decide (l.threshold ≤ r.level.weight)

/-- A record as a handler writes it, less the time in front. -/
def line (r : Record) : Text := s!"[{r.level.name}] {r.source.name}: " ++ r.message ++ "\n"

/-- What is written for a record. -/
def write (l : Logger) (r : Record) : Text :=
  if !l.passes r then []
  else if l.handlers == 0 then
    if Level.warning.weight ≤ r.level.weight then r.message ++ "\n" else []
  else (List.replicate l.handlers (line r)).flatten

/-- What is written for records, in their order. -/
def writeAll (l : Logger) (rs : List Record) : Text := rs.flatMap l.write

end Logger

end BlockNotebook.Log
