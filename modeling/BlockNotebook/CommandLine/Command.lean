import BlockNotebook.CommandLine.Arguments
import BlockNotebook.CommandLine.FileName
/-!
The commands and what they are asked to do.
-/

namespace BlockNotebook.CommandLine

/-- How notebooks are to be compiled. What is left out is taken from the settings. -/
structure CompileOptions where
  /-- The name or the id of the notebooks to compile; all of them if it is left out. -/
  notebook : Option Text
  format : Option Text
  skipErrors : Bool
  pressed : List Text
  deriving DecidableEq, Repr

inductive Command
  | validate (file : Text)
  | compile (file : Text) (options : CompileOptions)
  | checkName (name : Text)
  deriving DecidableEq, Repr

/-- The file that a command reads. -/
def Command.file? : Command → Option Text
  | .validate file => some file
  | .compile file _ => some file
  | .checkName _ => none

/-- What arguments ask for: help, or something to do. -/
inductive Request (α : Type)
  | help
  | act (a : α)
  deriving DecidableEq, Repr

/-- Why arguments are refused. -/
inductive Refusal
  | misused (misuse : Misuse)
  | unnamed (fault : NameFault)
  deriving DecidableEq, Repr

/-- A command by its name. -/
inductive Verb
  | validate
  | compile
  | checkName
  deriving DecidableEq, Repr

namespace Verb

def all : List Verb := [.validate, .compile, .checkName]

def name : Verb → String
  | .validate => "validate"
  | .compile => "compile"
  | .checkName => "check-name"

/-- The word of the command is the name of a file. -/
def takesFile : Verb → Bool
  | .checkName => false
  | _ => true

def ofName? (name : Text) : Option Verb := all.find? fun v => name == v.name

def switches : Verb → List Switch
  | .compile => [
    ⟨"--notebook", some 'n', true⟩, ⟨"--format", some 'f', true⟩, ⟨"--skip-errors", none, false⟩,
    ⟨"--var", none, true⟩, .help]
  | _ => [.help]

/-- The command on a word, with its options. -/
def command (word : Text) (a : Arguments) : Verb → Command
  | .validate => .validate word
  | .checkName => .checkName word
  | .compile =>
    .compile word
      ⟨a.value? "--notebook", a.value? "--format", a.has "--skip-errors", a.values "--var"⟩

/-- The command that arguments give. Every command takes a single word. -/
def read (v : Verb) (arguments : List Text) : Except Refusal (Request Command) :=
  match Arguments.read v.switches true arguments with
  | .error m => .error (.misused m)
  | .ok a =>
    if a.has Switch.help.name then .ok .help
    else
      match a.words with
      | [] => .error (.misused .missingWord)
      | word :: more =>
        match if v.takesFile then nameFault? word else none, more with
        | some f, _ => .error (.unnamed f)
        | none, [] => .ok (.act (v.command word a))
        | none, more => .error (.misused (.extraWords more))

end Verb

/-- A line of arguments as far as the name of the command. -/
structure Line where
  logLevel : Option Text
  verb : Verb
  /-- The arguments of the command. -/
  arguments : List Text
  deriving DecidableEq, Repr

namespace Line

def switches : List Switch := [⟨"--log-level", none, true⟩, .help]

/-- The options before the name of the command, and that name. -/
def read (arguments : List Text) : Except Misuse (Request Line) :=
  match Arguments.read switches false arguments with
  | .error m => .error m
  | .ok a =>
    if a.has Switch.help.name then .ok .help
    else
      match a.words with
      | [] => .error .missingCommand
      | name :: rest =>
        match Verb.ofName? name with
        | some verb => .ok (.act ⟨a.value? "--log-level", verb, rest⟩)
        | none => .error (.unknownCommand name)

/-- The command of a line, if its arguments are in order. -/
def command? (arguments : List Text) : Option Command :=
  match read arguments with
  | .ok (.act line) =>
    match line.verb.read line.arguments with
    | .ok (.act c) => some c
    | _ => none
  | _ => none

end Line

end BlockNotebook.CommandLine
