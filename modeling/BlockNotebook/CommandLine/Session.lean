import BlockNotebook.CommandLine.Arguments
import BlockNotebook.CommandLine.FileName
import BlockNotebook.Console.Message
import BlockNotebook.Console.Sequence
import BlockNotebook.Log.Logger
import BlockNotebook.Notebook.Compile
import BlockNotebook.Settings.Basic
/-!
Sessions: what a command finds where it runs, what it leaves, and how it ends.
-/

namespace BlockNotebook.CommandLine

/-- What a command finds where it runs. -/
structure Place where
  environment : Environment
  /-- The text of the settings file, if there is one. -/
  settings? : Option Text
  /-- The file with a name. -/
  file : Text → Found

/-- A fault that no command has a message for. -/
inductive Fault
  | scalar (fault : Yaml.ScalarFault)
  | number (fault : Number.Fault)
  | level (fault : Log.Fault)
  | compile (fault : CompileFault)
  | markup (fault : Console.Markup.Fault)
  | unnamed (fault : NameFault)
  | nameTooLong (file : Text)
  /-- A text that cannot be printed. -/
  | notPrinted (stretch : Text.Unencodable)
  /-- A message that cannot be printed. -/
  | notTold (stretch : Text.Unencodable)
  deriving DecidableEq, Repr

def Fault.message : Fault → Text
  | .scalar f => f.message
  | .number f => f.message
  | .level f => f.message
  | .compile f => f.message
  | .markup f => f.message
  | .unnamed f => f.message
  | .nameTooLong file => "[Errno 36] File name too long: " ++ Text.quote file
  | .notPrinted stretch => stretch.message
  | .notTold stretch =>
    stretch.message ++ "\n*** You may need to add PYTHONIOENCODING=utf-8 to your environment ***"

/-- How a command ends before its work is done. -/
inductive Ending
  | helped
  /-- A message has told what is wrong. -/
  | failed
  | misused (misuse : Misuse)
  | broken (fault : Fault)
  deriving DecidableEq, Repr

/-- The code that the program exits with. -/
def Ending.exitCode : Ending → Nat
  | .helped => 0
  | .failed => 1
  | .misused _ => 2
  | .broken _ => 1

/-- What a command has left so far. -/
structure Session where
  /-- What is printed, in UTF-8: it has no surrogates. -/
  output : Text
  /-- What is written about records. -/
  journal : Text
  logger : Log.Logger
  deriving DecidableEq, Repr

namespace Session

def start : Session := ⟨[], [], .start⟩

def addOutput (text : Text) (s : Session) : Session := { s with output := s.output ++ text }

def addRecords (rs : List Log.Record) (s : Session) : Session :=
  { s with journal := s.journal ++ s.logger.writeAll rs }

end Session

/-- A part of a command: it may print and log, and it may end the command. -/
abbrev Job := ExceptT Ending (StateM Session)

namespace Job

def finish {α : Type} (e : Ending) : Job α := throw e

/-- To print a text, or break off if it has surrogates. -/
def print (broken : Text.Unencodable → Fault) (text : Text) : Job Unit :=
  match Text.unencodable? .utf8 text with
  | none => modify (·.addOutput text)
  | some stretch => finish (.broken (broken stretch))

/-- To print text as it is, but for sequences that steer a terminal. -/
def echo (text : Text) : Job Unit := print .notPrinted (Console.withoutSequences text)

/-- To print a message with markup. -/
def say (markup : Text) : Job Unit :=
  match Console.print markup with
  | .ok text => print .notTold text
  | .error f => finish (.broken (.markup f))

def sayAll : List Text → Job Unit
  | [] => pure ()
  | markup :: rest => do say markup; sayAll rest

/-- To tell what is wrong, and end. -/
def refuse {α : Type} (markup : Text) : Job α := do say markup; finish .failed

def log (rs : List Log.Record) : Job Unit := modify (·.addRecords rs)

/-- To set the logger up. -/
def setLevel (name : Text) : Job Unit := do
  match (← get).logger.setup name with
  | .ok logger => modify fun s => { s with logger := logger }
  | .error f => finish (.broken (.level f))

/-- The session after an action, and how it ended early, if it did. -/
def outcome (a : Job Unit) : Session × Option Ending :=
  match StateT.run (ExceptT.run a) Session.start with
  | (.ok (), s) => (s, none)
  | (.error e, s) => (s, some e)

end Job

end BlockNotebook.CommandLine
