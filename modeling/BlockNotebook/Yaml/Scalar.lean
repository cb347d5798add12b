import BlockNotebook.Yaml.Fault
import BlockNotebook.Yaml.Tag
import BlockNotebook.Value.Basic
import BlockNotebook.Text.Case
/-!
The data of scalars.

Numbers may hold low lines anywhere, and parts in base sixty with colons between.
-/

namespace BlockNotebook.Yaml

open Text

namespace Scalar

def readFlag (t : Text) : Except ScalarFault Value :=
  let word := lower t
  if word == "yes" || word == "true" || word == "on" then .ok (.bool true)
  else if word == "no" || word == "false" || word == "off" then .ok (.bool false)
  else .error (.notFlag word)

def readInteger (base : Nat) (t : Text) : Except ScalarFault Int :=
  (Number.readInteger base t).mapError .number

/-- The value of parts in a base, the most significant first. -/
def ofParts (base : Int) (parts : List Int) : Int := parts.foldl (fun n d => n * base + d) 0

/-- A whole number: binary after `0b`, hexadecimal after `0x`, octal after `0`, else decimal. -/
def readUnsigned (t : Text) : Except ScalarFault Int :=
  match t with
  | [] => .error .noDigits
  | [.char '0'] => .ok 0
  | .char '0' :: .char 'b' :: ds => readInteger 2 ds
  | .char '0' :: .char 'x' :: ds => readInteger 16 ds
  | .char '0' :: _ => readInteger 8 t
  | _ =>
    if t.contains ':' then
      ((split (.char ':') t).mapM (readInteger 10)).map (ofParts 60)
    else readInteger 10 t

def withoutLines (t : Text) : Text := t.filter (· != .char '_')

def readInt (t : Text) : Except ScalarFault Value :=
  match withoutLines t with
  | [] => .error .noDigits
  | .char '-' :: rest => (readUnsigned rest).map fun n => .int (-n)
  | .char '+' :: rest => (readUnsigned rest).map .int
  | body => (readUnsigned body).map .int

/-- The sum of the parts in base sixty, the least significant first, from a place on. -/
def sumSixtieths (place : Int) (sum : Binary64) : List Binary64 → Except ScalarFault Binary64
  | [] => .ok sum
  | part :: parts =>
    match Binary64.ofInt? place with
    | none => .error (.number .tooLargeForFraction)
    | some unit => sumSixtieths (place * 60) (sum.add (part.mul unit)) parts

def readFraction (t : Text) : Except ScalarFault Binary64 :=
  (Number.readFraction t).mapError .number

def readUnsignedFloat (t : Text) : Except ScalarFault Binary64 :=
  if t == ".inf" then .ok (.infinity false)
  else if t == ".nan" then .ok .nan
  else if t.contains ':' then do
    let parts ← (split (.char ':') t).mapM readFraction
    sumSixtieths 1 (Binary64.zero false) parts.reverse
  else readFraction t

/-- The text of a number in small letters, without low lines. -/
def floatText (t : Text) : Text := lower (withoutLines t)

def readFloat (t : Text) : Except ScalarFault Value :=
  match floatText t with
  | [] => .error .noDigits
  | .char '-' :: rest => (readUnsignedFloat rest).map fun x => .float x.negate
  | .char '+' :: rest => (readUnsignedFloat rest).map .float
  | body => (readUnsignedFloat body).map .float

/-- The word for not-a-number, with or without a sign. -/
def isNanWord (t : Text) : Bool :=
  match floatText t with
  | .char '-' :: rest => rest == ".nan"
  | .char '+' :: rest => rest == ".nan"
  | body => body == ".nan"

/-- The first six digits of a fraction of a second, as microseconds. -/
def microseconds (digits : List Char) : Nat :=
  let ds := digits.take 6
  Number.digitsValue (ds ++ List.replicate (6 - ds.length) '0')

/-- The offset of a zone in seconds; it is less than a day either way. -/
def zoneOffset : Option Char × List Char × List Char → Except ScalarFault Int
  | (none, _, _) => .ok 0
  | (some sign, hours, minutes) =>
    let n : Int := (Number.digitsValue hours * 60 + Number.digitsValue minutes) * 60
    let offset := if sign == '-' then -n else n
    if 86400 ≤ offset.natAbs then .error (.calendar (.offsetRange offset)) else .ok offset

def readTimestamp (t : Text) : Except ScalarFault Value := do
  let number := Number.digitsValue
  match Tag.timestamp? (Tag.dropLastLineFeed t.characters) with
  | none => .error .notTimestamp
  | some t =>
    match t.time with
    | none =>
      let d ← (Calendar.Date.make (number t.year) (number t.month) (number t.day)).mapError .calendar
      return .date d
    | some (hour, minute, second) =>
      let offset ← t.zone.mapM zoneOffset
      let m ← (Calendar.Moment.make (number t.year) (number t.month) (number t.day) (number hour)
        (number minute) (number second) (microseconds t.fraction) offset).mapError .calendar
      return .moment m

/-- Data in base 64; a fault of it is placed at the scalar. -/
def readBinary (t : Text) (start : Mark) : Except Fault Value :=
  let wrong (p : Problem) : Except Fault Value := .error (.at .value none none p start)
  match unencodable? .ascii t with
  | some u => wrong (.notAscii u)
  | none =>
    match Base64.decode t.characters with
    | .ok bs => .ok (.bytes bs)
    | .error f => wrong (.notBase64 f)

/-- The data of a scalar with a tag. -/
def read (tag : Tag) (t : Text) (start : Mark) : Except Fault Value :=
  match tag with
  | .null => .ok .null
  | .bool => (readFlag t).mapError .scalar
  | .int => (readInt t).mapError .scalar
  | .float => (readFloat t).mapError .scalar
  | .timestamp => (readTimestamp t).mapError .scalar
  | .binary => readBinary t start
  | _ => .ok (.str t)

end Scalar

end BlockNotebook.Yaml
