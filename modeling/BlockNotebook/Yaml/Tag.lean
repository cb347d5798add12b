import BlockNotebook.Text.CodePoint
import BlockNotebook.Text.Digit
import BlockNotebook.Text.Split
/-!
Tags: what kind of data a node stands for.

A plain scalar without a tag gets one from its text. Some readers leave dates as
text; for them no text is a timestamp.
-/

namespace BlockNotebook.Yaml

open Text

inductive Tag
  | null
  | bool
  | int
  | float
  | binary
  | timestamp
  | str
  | seq
  | map
  | set
  | orderedMap
  | pairs
  | merge
  | value
  | other (name : String)
  deriving DecidableEq, Repr

namespace Tag

/-- The names of the tags of the standard. -/
def names : List (String × Tag) := [
  ("tag:yaml.org,2002:null", .null),
  ("tag:yaml.org,2002:bool", .bool),
  ("tag:yaml.org,2002:int", .int),
  ("tag:yaml.org,2002:float", .float),
  ("tag:yaml.org,2002:binary", .binary),
  ("tag:yaml.org,2002:timestamp", .timestamp),
  ("tag:yaml.org,2002:str", .str),
  ("tag:yaml.org,2002:seq", .seq),
  ("tag:yaml.org,2002:map", .map),
  ("tag:yaml.org,2002:set", .set),
  ("tag:yaml.org,2002:omap", .orderedMap),
  ("tag:yaml.org,2002:pairs", .pairs),
  ("tag:yaml.org,2002:merge", .merge),
  ("tag:yaml.org,2002:value", .value)]

def ofName (name : String) : Tag := (names.lookup name).getD (.other name)

def name : Tag → String
  | .other n => n
  | t => ((names.find? (·.2 == t)).map (·.1)).getD ""

/-! ## The tag of a plain text -/

def isDigitOrLine (c : Char) : Bool := isAsciiDigit c || c == '_'

/-- The text after a sign, if it has one. -/
def dropSign : List Char → List Char
  | '-' :: rest => rest
  | '+' :: rest => rest
  | cs => cs

/-- A digit and then digits and low lines, up to the end. -/
def isNumeral : List Char → Bool
  | [] => false
  | c :: rest => isAsciiDigit c && rest.all isDigitOrLine

/-- The minutes or seconds of a number in base sixty. -/
def isSixtieth : List Char → Bool
  | [c] => isAsciiDigit c
  | [c, d] => decide ('0' ≤ c) && decide (c ≤ '5') && isAsciiDigit d
  | _ => false

/-- An exponent with a sign, or nothing. -/
def isSignedExponent : List Char → Bool
  | [] => true
  | e :: s :: ds =>
    (e == 'e' || e == 'E') && (s == '-' || s == '+') && !ds.isEmpty && ds.all isAsciiDigit
  | _ => false

/-- Digits and low lines, and an exponent. -/
def isFraction (cs : List Char) : Bool := isSignedExponent (cs.dropWhile isDigitOrLine)

def isOneOf (words : List String) (cs : List Char) : Bool := words.any (·.toList == cs)

def isFlagText (cs : List Char) : Bool :=
  isOneOf ["yes", "Yes", "YES", "no", "No", "NO", "true", "True", "TRUE", "false", "False", "FALSE",
    "on", "On", "ON", "off", "Off", "OFF"] cs

/-- A whole part before a point: a numeral, alone or with parts in base sixty. -/
def isSexagesimal (cs : List Char) : Bool :=
  match split ':' cs with
  | first :: part :: parts => isNumeral first && (part :: parts).all isSixtieth
  | _ => false

def isFloatText (cs : List Char) : Bool :=
  let body := dropSign cs
  let whole := body.takeWhile (· != '.')
  match body.dropWhile (· != '.') with
  | [] => false
  | _ :: fraction =>
    (isNumeral whole && isFraction fraction) ||
      (isSexagesimal whole && fraction.all isDigitOrLine) ||
      (whole.isEmpty && isOneOf ["inf", "Inf", "INF"] fraction) ||
      (whole.isEmpty && body.length == cs.length &&
        (isOneOf ["nan", "NaN", "NAN"] fraction || ((fraction.take 1).all isAsciiDigit && !fraction.isEmpty && isFraction fraction)))

def isIntText (cs : List Char) : Bool :=
  let body := dropSign cs
  let digits (p : Char → Bool) (ds : List Char) : Bool := !ds.isEmpty && ds.all fun c => p c || c == '_'
  let isOctal (c : Char) : Bool := decide ('0' ≤ c) && decide (c ≤ '7')
  let isHex (c : Char) : Bool :=
    isAsciiDigit c || (decide ('a' ≤ c) && decide (c ≤ 'f')) || (decide ('A' ≤ c) && decide (c ≤ 'F'))
  match body with
  | ['0'] => true
  | '0' :: 'b' :: ds => digits (fun c => c == '0' || c == '1') ds
  | '0' :: 'x' :: ds => digits isHex ds
  | '0' :: ds => digits isOctal ds
  | _ => isNumeral body || isSexagesimal body

/-- One or two digits in front of a text, and the text after them. -/
def shortNumber : List Char → Option (List Char × List Char)
  | a :: b :: rest =>
    if !isAsciiDigit a then none
    else if isAsciiDigit b then some ([a, b], rest) else some ([a], b :: rest)
  | [a] => if isAsciiDigit a then some ([a], []) else none
  | [] => none

/-- Exactly two digits in front of a text, and the text after them. -/
def twoDigits : List Char → Option (List Char × List Char)
  | a :: b :: rest => if isAsciiDigit a && isAsciiDigit b then some ([a, b], rest) else none
  | _ => none

/-- The parts of a timestamp as they are written. The zone is its sign, hours and minutes; a `Z` has no sign. -/
structure Timestamp where
  year : List Char
  month : List Char
  day : List Char
  time : Option (List Char × List Char × List Char)
  fraction : List Char
  zone : Option (Option Char × List Char × List Char)

def isTab (c : Char) : Bool := c == ' ' || c == '\t'

/-- The zone at the end of a timestamp; none if the text does not end in one. -/
def timestampZone (cs : List Char) : Option (Option (Option Char × List Char × List Char)) :=
  match cs.dropWhile isTab with
  | [] => if cs.isEmpty then some none else none
  | ['Z'] => some (some (none, [], []))
  | s :: rest =>
    if s == '-' || s == '+' then
      match shortNumber rest with
      | some (hours, []) => some (some (some s, hours, []))
      | some (hours, ':' :: rest) =>
        match twoDigits rest with
        | some (minutes, []) => some (some (some s, hours, minutes))
        | _ => none
      | _ => none
    else none

/-- The time of day in a timestamp, with its fraction and zone. -/
def timestampTime (date : Timestamp) (cs : List Char) : Option Timestamp :=
  match shortNumber cs with
  | some (hour, ':' :: rest) =>
    match twoDigits rest with
    | some (minute, ':' :: rest) =>
      match twoDigits rest with
      | some (second, rest) =>
        let (fraction, rest) :=
          match rest with
          | '.' :: rest => (rest.takeWhile isAsciiDigit, rest.dropWhile isAsciiDigit)
          | _ => ([], rest)
        (timestampZone rest).map fun zone =>
          { date with time := some (hour, minute, second), fraction := fraction, zone := zone }
      | none => none
    | _ => none
  | _ => none

/-- The parts of a timestamp: a date, and a time after a `T` or blanks. -/
def timestamp? (cs : List Char) : Option Timestamp :=
  let year := cs.take 4
  if !(year.length == 4 && year.all isAsciiDigit) then none
  else
    match cs.drop 4 with
    | '-' :: rest =>
      match shortNumber rest with
      | some (month, '-' :: rest) =>
        match shortNumber rest with
        | some (day, rest) =>
          let date : Timestamp := ⟨year, month, day, none, [], none⟩
          match rest with
          | [] => some date
          | c :: after =>
            if c == 'T' || c == 't' then timestampTime date after
            else if isTab c then timestampTime date (after.dropWhile isTab)
            else none
        | none => none
      | _ => none
    | _ => none

/-- A timestamp that shows as one without a tag: a date alone has two digits for month and day. -/
def isTimestampText (cs : List Char) : Bool :=
  match timestamp? cs with
  | none => false
  | some t => t.time.isSome || (t.month.length == 2 && t.day.length == 2)

/-- A text without the line feed at its end. -/
def dropLastLineFeed (cs : List Char) : List Char :=
  if cs.getLast? == some '\n' then cs.dropLast else cs

/-- The tag that a plain text shows. -/
def ofText (dates : Bool) (t : Text) : Tag :=
  let body := dropLastLineFeed t.characters
  if isFlagText body then .bool
  else if isFloatText body then .float
  else if isIntText body then .int
  else if isOneOf ["<<"] body then .merge
  else if isOneOf ["~", "null", "Null", "NULL"] body || t.isEmpty then .null
  else if dates && isTimestampText body then .timestamp
  else if isOneOf ["="] body then .value
  else if isOneOf ["!", "&", "*"] body then .other "tag:yaml.org,2002:yaml"
  else .str

/-- The tags that a plain text can show. Truth values, numbers and dates look like what they are. -/
inductive Shown (dates : Bool) (t : Text) : Tag → Prop
  | flag (h : isFlagText (dropLastLineFeed t.characters)) : Shown dates t .bool
  | float (h : isFloatText (dropLastLineFeed t.characters)) : Shown dates t .float
  | int (h : isIntText (dropLastLineFeed t.characters)) : Shown dates t .int
  | date (hdates : dates) (h : isTimestampText (dropLastLineFeed t.characters)) : Shown dates t .timestamp
  | other {tag : Tag} (h : tag ∈ [.merge, .null, .value, .other "tag:yaml.org,2002:yaml", .str]) : Shown dates t tag

theorem shown_ofText (dates : Bool) (t : Text) : Shown dates t (ofText dates t) := by
  unfold ofText
  extract_lets body
  refine iteInduction .flag fun _ => ?_
  refine iteInduction .float fun _ => ?_
  refine iteInduction .int fun _ => ?_
  refine iteInduction (fun _ => .other (by simp)) fun _ => ?_
  refine iteInduction (fun _ => .other (by simp)) fun _ => ?_
  refine iteInduction (fun hdate => ?_) fun _ => ?_
  · obtain ⟨hdates, hdate⟩ := Bool.and_eq_true_iff.1 hdate
    exact .date hdates hdate
  refine iteInduction (fun _ => .other (by simp)) fun _ => ?_
  exact iteInduction (fun _ => .other (by simp)) fun _ => .other (by simp)

end Tag

end BlockNotebook.Yaml
