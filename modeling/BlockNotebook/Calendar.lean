import BlockNotebook.Text.Digit
import BlockNotebook.Text.Quoted
import BlockNotebook.Number.Reading
/-!
Dates of the proleptic Gregorian calendar, times of day and offsets from UTC.
-/

namespace BlockNotebook.Calendar

open Text

def isLeapYear (year : Nat) : Bool :=
  year % 4 == 0 && (year % 100 != 0 || year % 400 == 0)

def daysInMonth (year month : Nat) : Nat :=
  if month == 2 then (if isLeapYear year then 29 else 28)
  else if month == 4 || month == 6 || month == 9 || month == 11 then 30
  else 31

structure Date where
  year : Nat
  month : Nat
  day : Nat
  deriving DecidableEq, Repr, Inhabited

/-- A date and time of day; `offset` is the distance from UTC in seconds, if it is known. -/
structure Moment where
  date : Date
  hour : Nat
  minute : Nat
  second : Nat
  microsecond : Nat
  offset : Option Int
  deriving DecidableEq, Repr, Inhabited

/-- Why numbers or a text are not a date. -/
inductive Fault
  | yearRange (year : Nat)
  | monthRange
  | dayRange
  | hourRange
  | minuteRange
  | secondRange
  /-- The offset, in seconds, is a day or more. -/
  | offsetRange (seconds : Int)
  | notDate (text : Text)
  | leftOver (rest : Text)
  deriving DecidableEq, Repr

/-- A span of seconds as whole days and the rest of a day, the rest being the positive part. -/
def spanText (seconds : Int) : String :=
  let days := Int.fdiv seconds 86400
  let rest := Int.fmod seconds 86400
  let parts := (if days == 0 then [] else [s!"days={days}"]) ++ (if rest == 0 then [] else [s!"seconds={rest}"])
  let inner := if parts.isEmpty then "0" else String.intercalate ", " parts
  s!"datetime.timedelta({inner})"

def Fault.message : Fault → Text
  | .yearRange y => s!"year {y} is out of range"
  | .monthRange => "month must be in 1..12"
  | .dayRange => "day is out of range for month"
  | .hourRange => "hour must be in 0..23"
  | .minuteRange => "minute must be in 0..59"
  | .secondRange => "second must be in 0..59"
  | .offsetRange s =>
    "offset must be a timedelta strictly between -timedelta(hours=24) and timedelta(hours=24), not " ++
      spanText s ++ "."
  | .notDate t => s!"time data {quote t} does not match format '%Y-%m-%d'"
  | .leftOver r => "unconverted data remains: " ++ r

/-- The date of the numbers, if there is one. -/
def Date.make (year month day : Nat) : Except Fault Date :=
  if year < 1 || 9999 < year then .error (.yearRange year)
  else if month < 1 || 12 < month then .error .monthRange
  else if day < 1 || daysInMonth year month < day then .error .dayRange
  else .ok ⟨year, month, day⟩

/-- The moment of the numbers, if there is one. -/
def Moment.make (year month day hour minute second microsecond : Nat) (offset : Option Int) :
    Except Fault Moment :=
  match Date.make year month day with
  | .error e => .error e
  | .ok date =>
    if 23 < hour then .error .hourRange
    else if 59 < minute then .error .minuteRange
    else if 59 < second then .error .secondRange
    else .ok ⟨date, hour, minute, second, microsecond, offset⟩

/-- The earlier date or the same. -/
def Date.le (a b : Date) : Bool :=
  decide (a.year < b.year) || (a.year == b.year &&
    (decide (a.month < b.month) || (a.month == b.month && decide (a.day ≤ b.day))))

/-! ## Text -/

/-- The number with zeros in front, up to the width. -/
def padded (width n : Nat) : List Char :=
  let ds := Nat.toDigits 10 n
  List.replicate (width - ds.length) '0' ++ ds

/-- Year, month and day with hyphens between. -/
def Date.text (d : Date) : List Char :=
  padded 4 d.year ++ '-' :: padded 2 d.month ++ '-' :: padded 2 d.day

/-- The distance from UTC in hours and minutes, and seconds if there are any. -/
def offsetText (seconds : Int) : List Char :=
  let n := seconds.natAbs
  (if seconds < 0 then '-' else '+') :: padded 2 (n / 3600) ++ ':' :: padded 2 (n / 60 % 60) ++
    (if n % 60 == 0 then [] else ':' :: padded 2 (n % 60))

/-- Date and time with a `T` between, and the fraction of a second if there is one. -/
def Moment.localText (m : Moment) : List Char :=
  m.date.text ++ 'T' :: padded 2 m.hour ++ ':' :: padded 2 m.minute ++ ':' :: padded 2 m.second ++
    (if m.microsecond == 0 then [] else '.' :: padded 6 m.microsecond)

/-- Date, time and offset. -/
def Moment.text (m : Moment) : List Char :=
  m.localText ++ (m.offset.map offsetText).getD []

/-- Date, time and offset, with a `Z` for UTC. -/
def Moment.dataText (m : Moment) : List Char :=
  m.localText ++
    match m.offset with
    | none => []
    | some 0 => ['Z']
    | some s => offsetText s

/-- A date as messages show it. -/
def Date.shown (d : Date) : String := s!"datetime.date({d.year}, {d.month}, {d.day})"

/-- A moment as messages show it. -/
def Moment.shown (m : Moment) : String :=
  let seconds := if m.second == 0 && m.microsecond == 0 then "" else s!", {m.second}"
  let fraction := if m.microsecond == 0 then "" else s!", {m.microsecond}"
  let zone :=
    match m.offset with
    | none => ""
    | some s =>
      ", tzinfo=" ++ if s == 0 then "datetime.timezone.utc" else s!"datetime.timezone({spanText s})"
  s!"datetime.datetime({m.date.year}, {m.date.month}, {m.date.day}, {m.hour}, {m.minute}{seconds}{fraction}{zone})"

/-! ## Reading -/

/-- The value of a run of decimal digits of any script; other characters count nothing. -/
def digits (cs : List Char) : Nat := cs.foldl (fun n c => n * 10 + (digitValue? c).getD 0) 0

/-- The month in front of a text that goes on with a hyphen, and the text after the hyphen. -/
def monthPart : List Char → Option (Nat × List Char)
  | '1' :: c :: '-' :: rest =>
    if '0' ≤ c && c ≤ '2' then some (10 + (c.toNat - 48), rest) else none
  | '0' :: c :: '-' :: rest => if '1' ≤ c && c ≤ '9' then some (c.toNat - 48, rest) else none
  | c :: '-' :: rest => if '1' ≤ c && c ≤ '9' then some (c.toNat - 48, rest) else none
  | _ => none

/-- A single digit of ASCII from one to nine. -/
def oneToNine (c : Char) : Bool := '1' ≤ c && c ≤ '9'

/-- The day in front of a text: two digits if they make one, else one, which a space may lead. -/
def dayPart : List Char → Option (Nat × List Char)
  | a :: b :: rest =>
    if a == '3' && (b == '0' || b == '1') then some (30 + (b.toNat - 48), rest)
    else if (a == '1' || a == '2') && isDecimal b then some (digits [a, b], rest)
    else if (a == '0' || a == ' ') && oneToNine b then some (b.toNat - 48, rest)
    else if oneToNine a then some (a.toNat - 48, b :: rest)
    else none
  | [a] => if oneToNine a then some (a.toNat - 48, []) else none
  | [] => none

/-- The date a text spells as year, month and day with hyphens between. -/
def readDate (t : Text) : Except Fault Date :=
  let year := t.characters.take 4
  match t.characters.drop 4 with
  | '-' :: rest =>
    if year.all isDecimal then
      match monthPart rest with
      | some (month, rest) =>
        match dayPart rest with
        | some (day, []) => Date.make (digits year) month day
        | some (_, rest) => .error (.leftOver (t.drop (t.length - rest.length)))
        | none => .error (.notDate t)
      | none => .error (.notDate t)
    else .error (.notDate t)
  | _ => .error (.notDate t)

/-- Four, two and two decimal digits with hyphens between; a line feed may follow. -/
def hasDateShape (cs : List Char) : Bool :=
  match cs with
  | a :: b :: c :: d :: '-' :: e :: f :: '-' :: g :: h :: rest =>
    [a, b, c, d, e, f, g, h].all isDecimal && (rest == [] || rest == ['\n'])
  | _ => false

/-- The empty text, or the spelling of a date in full digits. -/
def isDateOrEmpty (t : Text) : Bool :=
  t.isEmpty || (hasDateShape t.characters && match readDate t with | .ok _ => true | .error _ => false)

/-- The range from one date to another is in order; a range open at an end always is. -/
def inOrder (start stop : Text) : Except Fault Bool :=
  if start.isEmpty || stop.isEmpty then .ok true
  else
    match readDate start with
    | .error e => .error e
    | .ok a =>
      match readDate stop with
      | .error e => .error e
      | .ok b => .ok (a.le b)

end BlockNotebook.Calendar
