import BlockNotebook.Block.Basic
import BlockNotebook.Block.Fault
import BlockNotebook.Calendar
import BlockNotebook.Code.Literal
import BlockNotebook.Code.Name
import BlockNotebook.Log.Record
import BlockNotebook.Text.Lines
/-!
Inputs: each assigns the present value of its control to a variable.
-/

namespace BlockNotebook.Code

open Text Calendar

/-- The variable an input assigns. -/
def variableOf (b : Block) : String := nameOf ((b.metadata.text? "deepnote_variable_name").getD [])

/-- The value of an input that holds a text. -/
def storedText (b : Block) : Text := (b.metadata.text? "deepnote_variable_value").getD []

def assign (name : String) (value : Text) : Text := name ++ " = " ++ value

/-- The code for an absent value. -/
def nothing : String := "None"

def truth (b : Bool) : String := if b then "True" else "False"

/-- A literal, or the absent value for an empty text. -/
def literalOrNothing (t : Text) : Text := if t.isEmpty then nothing else literal t

def textInput (b : Block) : Text := assign (variableOf b) (literal (storedText b))

def checkbox (b : Block) : Text :=
  assign (variableOf b) (truth (b.metadata.isSet "deepnote_variable_value"))

/-! ## Selections -/

/-- The texts among items. -/
def textsOf (items : List Value) : List Text :=
  items.filterMap fun v => match v with | .str t => some t | _ => none

/-- A list of literals. -/
def literalList (texts : List Text) : Text := "[" ++ joinWith ", " (texts.map literal) ++ "]"

/-- A list of several selected texts, or the one selected text. -/
def select (b : Block) : Text :=
  let many := b.metadata.isSet "deepnote_allow_multiple_values"
  assign (variableOf b) <|
    match b.metadata.data "deepnote_variable_value" with
    | .str t =>
      if many then literalList (if t.isEmpty then [] else [t]) else literalOrNothing t
    | .list items => literalList (textsOf items)
    | _ => nothing

/-! ## Sliders -/

/-- An exponent of a number, or nothing. -/
def isExponent : List Char → Bool
  | [] => true
  | c :: rest =>
    let ds := (Number.splitSign rest).2
    (c == 'e' || c == 'E') && !ds.isEmpty && ds.all isDecimal

/-- A signed decimal number, with digits of any script. -/
def isNumeric (cs : List Char) : Bool :=
  let body := (Number.splitSign cs).2
  let whole := body.takeWhile isDecimal
  match body.dropWhile isDecimal with
  | '.' :: rest =>
    let fraction := rest.takeWhile isDecimal
    !(whole.isEmpty && fraction.isEmpty) && isExponent (rest.dropWhile isDecimal)
  | rest => !whole.isEmpty && isExponent rest

/-- The stored text stands in the code as it is. -/
def slider (b : Block) : Text := assign (variableOf b) (storedText b)

/-- A slider whose text is no number is compiled with a warning. -/
def sliderWarnings (b : Block) : List Log.Record :=
  if isNumeric (trim isBlank (storedText b).characters) then []
  else
    [⟨.warning, .blocks, "Slider block " ++ b.id ++ " has non-numeric value " ++ quote (storedText b)⟩]

/-! ## Files and dates -/

def file (b : Block) : Text := assign (variableOf b) (literalOrNothing (storedText b))

def dateImport : String := "from dateutil.parser import parse as _deepnote_parse"
def dateCall : String := "_deepnote_parse"

/-- The import of date inputs from before their second version. -/
def oldDateImport : String := "import dateutil.parser as _deepnote_dateutil_parser"
def oldDateCall : String := "_deepnote_dateutil_parser.parse"

/-- The date that a text spells, when the code runs. -/
def parsedDate (call : String) (text : Text) : Text := call ++ "(" ++ literal text ++ ").date()"

def date (b : Block) : Text :=
  let value := storedText b
  if value.isEmpty then "\n" ++ assign (variableOf b) nothing ++ "\n"
  else
    let isNew := decide (2 ≤ (b.metadata.whole? "deepnote_input_date_version").getD 1)
    let imported := if isNew then dateImport else oldDateImport
    let call := if isNew then dateCall else oldDateCall
    "\n" ++ imported ++ "\n" ++ assign (variableOf b) (parsedDate call value) ++ "\n"

/-! ## Date ranges -/

/-- Two dates in order, either of which may be left empty. -/
def isDateRange : Value → Bool
  | .list [.str a, .str b] | .pair (.str a) (.str b) =>
    isDateOrEmpty a && isDateOrEmpty b &&
      (match inOrder a b with
      | .ok r => r
      | .error _ => false)
  | _ => false

/-- The longest relative range, in days. -/
def maxDays : Nat := 3650

def isDayCount (n : Int) : Bool := decide (1 ≤ n) && decide (n ≤ maxDays)

/-- The days of a range given by its length: a fixed word and a number. A line feed may follow. -/
def dayCount? (t : Text) : Except Number.Fault (Option Nat) :=
  let word := "customDays".toList
  let cs := t.characters
  let body := cs.drop word.length
  let ds := body.takeWhile isDecimal
  let rest := body.dropWhile isDecimal
  if cs.take word.length != word || ds.isEmpty || !(rest == [] || rest == ['\n']) then .ok none
  else if Number.maxDigits < ds.length then .error (.tooManyDigits ds.length)
  else .ok (some (digits ds))

/-- The range that stands for the last week. -/
def lastWeek : String := "past7days"

def lastWeekCode (name : String) : Text :=
  "from datetime import datetime as _deepnote_datetime, timedelta as _deepnote_timedelta\n" ++
    assign name ("[_deepnote_datetime.now().date() - _deepnote_timedelta(days=7), " ++
      "_deepnote_datetime.now().date()]")

def lastDaysCode (name : String) (days : Nat) : Text :=
  "from datetime import datetime, timedelta\n" ++
    assign name (s!"[datetime.now().date() - timedelta(days={days}), " ++ "datetime.now().date()]")

/-- One end of a range. -/
def rangeEnd (t : Text) : Text := if t.isEmpty then nothing else parsedDate dateCall t

/-- A pair of dates, the last week, or a number of days back from today. -/
def dateRange (b : Block) : Except CompileFault Text :=
  let name := variableOf b
  match b.metadata.data "deepnote_variable_value" with
  | .pair (.str start) (.str stop) =>
    if isDateRange (.pair (.str start) (.str stop)) then
      .ok (dateImport ++ "\n" ++ assign name ("[" ++ rangeEnd start ++ ", " ++ rangeEnd stop ++ "]"))
    else .error (.block b.id (.notDateRange start stop))
  | _ =>
    let value := storedText b
    if value == lastWeek then .ok (lastWeekCode name)
    else
      match dayCount? value with
      | .error f => .error (.number f)
      | .ok (some days) =>
        if isDayCount days then .ok (lastDaysCode name days) else .error (.block b.id (.unknownRange value))
      | .ok none => .error (.block b.id (.unknownRange value))

end BlockNotebook.Code
