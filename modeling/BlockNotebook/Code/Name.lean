import BlockNotebook.Text.Blank
import BlockNotebook.Text.CodePoint
import BlockNotebook.Text.Digit
/-!
Names of variables in generated code.

A name that an author gives is cut down to an identifier: a run of blanks becomes
a low line, other characters that no identifier holds are dropped, and so is what
cannot start one.
-/

namespace BlockNotebook.Code

open Text

/-- A character that an identifier may start with. -/
def startsName (c : Char) : Bool := isAsciiLetter c || c == '_'

/-- A character that an identifier may hold. -/
def isNameChar (c : Char) : Bool := startsName c || isAsciiDigit c

/-- Every run of blanks as one low line; `after` tells that a blank stands just before. -/
def joinBlanks (after : Bool) : List Char → List Char
  | [] => []
  | c :: rest =>
    if isBlank c then (if after then joinBlanks true rest else '_' :: joinBlanks true rest)
    else c :: joinBlanks false rest

/-- The identifier that a text becomes, or nothing. -/
def identifierPart (cs : List Char) : List Char :=
  ((joinBlanks false cs).filter isNameChar).dropWhile (!startsName ·)

/-- The name used where nothing is left of the author's. -/
def emptyName : String := "input_1"

/-- A variable name from an author's; `keepEmpty` leaves an empty one empty. -/
def variableName (name : Text) (keepEmpty : Bool) : String :=
  match identifierPart name.characters with
  | [] => if keepEmpty then "" else emptyName
  | cs => String.ofList cs

/-- A variable name from an author's; never empty. -/
def nameOf (name : Text) : String := variableName name false

/-- Words of the language that name nothing. -/
def keywords : List String := [
  "False", "None", "True", "and", "as", "assert", "async", "await",
  "break", "class", "continue", "def", "del", "elif", "else", "except",
  "finally", "for", "from", "global", "if", "import", "in", "is",
  "lambda", "nonlocal", "not", "or", "pass", "raise", "return", "try",
  "while", "with", "yield"]

/-- Names of the language's own functions, which a variable would hide. -/
def builtins : List String := [
  "abs", "all", "any", "bin", "bool", "bytes", "callable", "chr",
  "classmethod", "compile", "complex", "delattr", "dict", "dir", "divmod",
  "enumerate", "eval", "exec", "filter", "float", "format", "frozenset",
  "getattr", "globals", "hasattr", "hash", "help", "hex", "id", "input",
  "int", "isinstance", "issubclass", "iter", "len", "list", "locals",
  "map", "max", "memoryview", "min", "next", "object", "oct", "open",
  "ord", "pow", "print", "property", "range", "repr", "reversed", "round",
  "set", "setattr", "slice", "sorted", "staticmethod", "str", "sum",
  "super", "tuple", "type", "vars", "zip"]

def isKeyword (name : Text) : Bool := keywords.any (name == ·)

def isBuiltin (name : Text) : Bool := builtins.any (name == ·)

/-- An identifier; a line feed may follow it. -/
def isIdentifier (t : Text) : Bool :=
  match t.characters with
  | [] => false
  | c :: rest =>
    startsName c && (rest.dropWhile isNameChar == [] || rest.dropWhile isNameChar == ['\n'])

/-- What there is to say about an author's name. -/
structure NameReport where
  name : String
  isKeyword : Bool
  isBuiltin : Bool
  deriving DecidableEq, Repr

/-- The variable name of an author's name, and whether it is taken. -/
def checkName (name : Text) : NameReport :=
  let s := nameOf name
  ⟨s, isKeyword s, isBuiltin s⟩

namespace NameReport

/-- A keyword is no variable; to hide a function is allowed. -/
def isValid (r : NameReport) : Bool := !r.isKeyword

def warnings (r : NameReport) : List String :=
  (if r.isKeyword then
    [s!"\"{r.name}\" is a Python reserved keyword and cannot be used as a variable name."] else []) ++
  (if r.isBuiltin then
    [s!"\"{r.name}\" shadows a Python built-in function. This may cause unexpected behavior."] else [])

end NameReport

end BlockNotebook.Code
