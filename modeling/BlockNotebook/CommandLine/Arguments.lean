import BlockNotebook.Text.CodePoint
import BlockNotebook.Text.Split
/-!
Arguments taken apart into options and words.

An option is written in full after two dashes, with its value after an equals sign or as
the next argument, or as a letter after one dash, with its value behind it or as the next
argument. After a lone pair of dashes all arguments are words.
-/

namespace BlockNotebook.CommandLine

open Text

/-- An option. Only one that takes a value may have a letter. -/
structure Switch where
  name : String
  letter : Option Char
  hasValue : Bool
  deriving DecidableEq, Repr

namespace Switch

def help : Switch := ⟨"--help", none, false⟩

/-- The first option with a name. -/
def named? (name : Text) (switches : List Switch) : Option Switch := switches.find? (name == ·.name)

/-- The first option with a letter. -/
def lettered? (letter : CodePoint) (switches : List Switch) : Option Switch :=
  switches.find? fun s => s.letter.any fun (own : Char) => letter == own

end Switch

/-- What is wrong with the arguments. -/
inductive Misuse
  | unknownOption (argument : Text)
  | missingValue (option : String)
  | needlessValue (option : String)
  | missingWord
  | extraWords (words : List Text)
  | missingCommand
  | unknownCommand (name : Text)
  deriving DecidableEq, Repr

/-- What an argument says that is an option. -/
inductive Mention
  | alone (option : String)
  | withValue (option : String) (value : Text)
  /-- The value is the next argument. -/
  | awaiting (option : String)
  deriving DecidableEq, Repr

/-- The argument is an option: a dash alone is a word. -/
def isOption (argument : Text) : Bool :=
  match argument with
  | .char '-' :: _ :: _ => true
  | _ => false

/-- An option written in full. -/
def readNamed (switches : List Switch) (argument : Text) : Except Misuse Mention :=
  let (name, value) := cut (.char '=') argument
  match Switch.named? name switches with
  | none => .error (.unknownOption argument)
  | some s =>
    if argument.contains (.char '=') then
      if s.hasValue then .ok (.withValue s.name value) else .error (.needlessValue s.name)
    else if s.hasValue then .ok (.awaiting s.name)
    else .ok (.alone s.name)

/-- An option written as a letter, with what stands behind it. -/
def readLettered (switches : List Switch) (letter : CodePoint) (behind : Text) : Except Misuse Mention :=
  match Switch.lettered? letter switches with
  | none => .error (.unknownOption [.char '-', letter])
  | some s => if behind.isEmpty then .ok (.awaiting s.name) else .ok (.withValue s.name behind)

def readOption (switches : List Switch) (argument : Text) : Except Misuse Mention :=
  match argument with
  | .char '-' :: .char '-' :: _ => readNamed switches argument
  | .char '-' :: letter :: behind => readLettered switches letter behind
  | _ => .error (.unknownOption argument)

/-- Arguments taken apart: the options that are given, in their order, and the words. -/
structure Arguments where
  /-- Names with their values; an option without a value has an empty one. -/
  options : List (String × Text)
  words : List Text
  deriving DecidableEq, Repr

namespace Arguments

def addOption (name : String) (value : Text) (a : Arguments) : Arguments :=
  { a with options := (name, value) :: a.options }

def addWord (word : Text) (a : Arguments) : Arguments := { a with words := word :: a.words }

/-- All values of an option. -/
def values (name : String) (a : Arguments) : List Text :=
  (a.options.filter (·.1 == name)).map (·.2)

/-- The value of an option; the last one counts. -/
def value? (name : String) (a : Arguments) : Option Text := (a.values name).getLast?

def has (name : String) (a : Arguments) : Bool := a.options.any (·.1 == name)

/-- Arguments taken apart. Options may stand behind words only if they are `mixed`. -/
def read (switches : List Switch) (mixed : Bool) : List Text → Except Misuse Arguments
  | [] => .ok ⟨[], []⟩
  | argument :: rest =>
    if argument == "--" then .ok ⟨[], rest⟩
    else if isOption argument then
      match readOption switches argument with
      | .error m => .error m
      | .ok (.alone name) => (read switches mixed rest).map (addOption name [])
      | .ok (.withValue name value) => (read switches mixed rest).map (addOption name value)
      | .ok (.awaiting name) =>
        match rest with
        | [] => .error (.missingValue name)
        | value :: rest => (read switches mixed rest).map (addOption name value)
    else if mixed then (read switches mixed rest).map (addWord argument)
    else .ok ⟨[], argument :: rest⟩

end Arguments

end BlockNotebook.CommandLine
