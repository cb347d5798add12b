import BlockNotebook.Value.Basic
/-!
What is wrong with data that should have a certain shape: a cause, and the path
to the place where it shows.
-/

namespace BlockNotebook.Schema

/-- One step of a path: a key of a mapping, or the index of an item. A truth value may stand where
an index is expected, without being one. -/
inductive Segment
  | key (name : Text)
  | index (i : Int)
  | flag (b : Bool)
  deriving DecidableEq, Repr

/-- The way from the root of the data to a place in it. -/
abbrev Path := List Segment

/-- Why data does not have its shape. -/
inductive Cause
  | missing
  | notText
  | notUnicode
  | notList
  | notMapping
  | notRecord (title : String)
  | keyNotText
  | notWhole
  | unreadableWhole
  | fractionalWhole
  | oversizedWhole
  | notFinite
  | notFlag
  | unreadableFlag
  | notNumber
  | unreadableNumber
  | notAmong (options : List String)
  | notTextOrTexts
  | notRangeOrPair
  deriving DecidableEq, Repr

/-- The options in quotes, the last one after an “or”. -/
def choiceText : List String → String
  | [] => ""
  | [a] => Text.quote a
  | [a, b] => Text.quote a ++ " or " ++ Text.quote b
  | a :: rest => Text.quote a ++ ", " ++ choiceText rest

/-- A short name of the cause. -/
def Cause.code : Cause → String
  | .missing => "missing"
  | .notText => "string_type"
  | .notUnicode => "string_unicode"
  | .notList => "list_type"
  | .notMapping => "dict_type"
  | .notRecord _ => "model_type"
  | .keyNotText => "invalid_key"
  | .notWhole => "int_type"
  | .unreadableWhole => "int_parsing"
  | .fractionalWhole => "int_from_float"
  | .oversizedWhole => "int_parsing_size"
  | .notFinite => "finite_number"
  | .notFlag => "bool_type"
  | .unreadableFlag => "bool_parsing"
  | .notNumber => "float_type"
  | .unreadableNumber => "float_parsing"
  | .notAmong _ => "literal_error"
  | .notTextOrTexts => "union_type"
  | .notRangeOrPair => "union_type"

def Cause.message : Cause → String
  | .missing => "Field required"
  | .notText => "Input should be a valid string"
  | .notUnicode => "Input should be a valid string, unable to parse raw data as a unicode string"
  | .notList => "Input should be a valid list"
  | .notMapping => "Input should be a valid dictionary"
  | .notRecord title => s!"Input should be a valid dictionary or instance of {title}"
  | .keyNotText => "Keys should be strings"
  | .notWhole => "Input should be a valid integer"
  | .unreadableWhole => "Input should be a valid integer, unable to parse string as an integer"
  | .fractionalWhole => "Input should be a valid integer, got a number with a fractional part"
  | .oversizedWhole => "Unable to parse input string as an integer, exceeded maximum size"
  | .notFinite => "Input should be a finite number"
  | .notFlag => "Input should be a valid boolean"
  | .unreadableFlag => "Input should be a valid boolean, unable to interpret input"
  | .notNumber => "Input should be a valid number"
  | .unreadableNumber => "Input should be a valid number, unable to parse string as a number"
  | .notAmong options => "Input should be " ++ choiceText options
  | .notTextOrTexts => "Input should be a string or a list of strings"
  | .notRangeOrPair =>
    "Input should be a relative range string or a [start, end] pair of date strings"

/-- A fault of some data: the path to it, the cause, and the data found there. -/
structure Issue where
  path : Path
  cause : Cause
  found : Value

/-- The issue, seen from one level further out. -/
def Issue.under (s : Segment) (i : Issue) : Issue := { i with path := s :: i.path }

end BlockNotebook.Schema
