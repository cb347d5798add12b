import BlockNotebook.Number.Binary64
import BlockNotebook.Text.Blank
import BlockNotebook.Text.Digit
import BlockNotebook.Text.Quoted
/-!
Numbers read from text, and whole numbers written as text.

Whole numbers in base ten are limited to `maxDigits` digits, both ways.
-/

namespace BlockNotebook.Number

open Text

/-- The longest whole number that is read from or written in base ten. -/
def maxDigits : Nat := 4300

/-- Why a text is not a number, or a number has no text. -/
inductive Fault
  | notInteger (base : Nat) (text : Text)
  | tooManyDigits (count : Nat)
  | tooLongToWrite
  | notNumber (text : Text)
  | tooLargeForFraction
  deriving DecidableEq, Repr

/-- The wording of a fault. A long text is cut after two hundred characters of its quoted form. -/
def Fault.message : Fault → String
  | .notInteger base text =>
    s!"invalid literal for int() with base {base}: " ++ String.ofList ((quoted text).take 200)
  | .tooManyDigits n =>
    s!"Exceeds the limit ({maxDigits} digits) for integer string conversion: value has {n} digits; " ++
      "use sys.set_int_max_str_digits() to increase the limit"
  | .tooLongToWrite =>
    s!"Exceeds the limit ({maxDigits} digits) for integer string conversion; " ++
      "use sys.set_int_max_str_digits() to increase the limit"
  | .notNumber text => "could not convert string to float: " ++ quote text
  | .tooLargeForFraction => "int too large to convert to float"

/-- A sign in front of a text, and the rest: whether it is a minus. -/
def splitSign : List Char → Bool × List Char
  | '-' :: rest => (true, rest)
  | '+' :: rest => (false, rest)
  | cs => (false, cs)

def withSign (negative : Bool) (n : Nat) : Int := if negative then -(n : Int) else n

/-- Digits with single low lines between them: their value, their count and the rest of the text. -/
def digitsFrom (base value count : Nat) (afterLine : Bool) : List Char → Option (Nat × Nat × List Char)
  | [] => if afterLine then none else some (value, count, [])
  | c :: rest =>
    if c == '_' then
      if afterLine then none else digitsFrom base value count true rest
    else
      match alphanumericValue? c with
      | some d =>
        if d < base then digitsFrom base (value * base + d) (count + 1) false rest
        else if afterLine then none else some (value, count, c :: rest)
      | none => if afterLine then none else some (value, count, c :: rest)

/-- The text after the mark of its base, if it has one; the mark may be parted by a low line. -/
def dropBaseMark (base : Nat) (cs : List Char) : List Char :=
  let marked (low high : Char) : List Char :=
    match cs with
    | '0' :: c :: '_' :: rest => if c == low || c == high then rest else cs
    | '0' :: c :: rest => if c == low || c == high then rest else cs
    | _ => cs
  if base == 16 then marked 'x' 'X' else if base == 8 then marked 'o' 'O'
  else if base == 2 then marked 'b' 'B' else cs

/-- A power of two as base: numbers of any length are read in it. -/
def isBinaryBase (base : Nat) : Bool := base == 2 || base == 8 || base == 16

/-- The whole number a text spells in a base: blanks around it, a sign, a mark of the base, digits. -/
def readInteger (base : Nat) (t : Text) : Except Fault Int :=
  let malformed : Fault := .notInteger base t
  let (negative, body) := splitSign (trim isWhiteSpace t.characters)
  match digitsFrom base 0 0 true (dropBaseMark base body) with
  | none => .error malformed
  | some (value, count, rest) =>
    if count == 0 then .error malformed
    else if !isBinaryBase base && maxDigits < count then .error (.tooManyDigits count)
    else if !rest.isEmpty then .error malformed
    else .ok (withSign negative value)

/-- The value of a run of ASCII digits. -/
def digitsValue (cs : List Char) : Nat := cs.foldl (fun n c => n * 10 + (c.toNat - 48)) 0

/-- An exponent: its mark, a sign and digits, or nothing. -/
def exponent? : List Char → Option Int
  | [] => some 0
  | c :: rest =>
    let (negative, ds) := splitSign rest
    if (c == 'e' || c == 'E') && !ds.isEmpty && ds.all isAsciiDigit then
      some (withSign negative (digitsValue ds))
    else none

/-- The number an unsigned decimal text spells: digits with a point, and an exponent. -/
def unsignedDecimal? (negative : Bool) (cs : List Char) : Option Binary64 :=
  let whole := cs.takeWhile isAsciiDigit
  let rest := cs.dropWhile isAsciiDigit
  let (fraction, rest) :=
    match rest with
    | '.' :: r => (r.takeWhile isAsciiDigit, r.dropWhile isAsciiDigit)
    | _ => ([], rest)
  if (whole ++ fraction).isEmpty then none
  else
    (exponent? rest).map fun e =>
      Binary64.ofDecimal negative (digitsValue (whole ++ fraction)) (e - fraction.length)

/-- The number a decimal text spells: a sign, then digits or one of the words for infinity and not-a-number. -/
def decimal? (cs : List Char) : Option Binary64 :=
  let (negative, body) := splitSign cs
  let word := String.ofList (body.map asciiLowerLetter)
  if word == "inf" || word == "infinity" then some (.infinity negative)
  else if word == "nan" then some .nan
  else unsignedDecimal? negative body
where
  asciiLowerLetter (c : Char) : Char := if 'A' ≤ c && c ≤ 'Z' then Char.ofNat (c.toNat + 32) else c

/-- Low lines between digits taken out; none if one stands elsewhere. -/
def dropLowLines (previous : Char) : List Char → Option (List Char)
  | [] => if previous == '_' then none else some []
  | c :: rest =>
    if c == '_' then
      if isAsciiDigit previous then dropLowLines c rest else none
    else if previous == '_' && !isAsciiDigit c then none
    else (dropLowLines c rest).map (c :: ·)

/-- A decimal digit of any script as an ASCII digit; every other character as it is. -/
def toAsciiDigit (c : Char) : Char :=
  match digitValue? c with
  | some n => Char.ofNat (n + 48)
  | none => c

/-- The number a text spells: blanks around it, digits of any script, single low lines between digits. -/
def readFraction (t : Text) : Except Fault Binary64 :=
  match (dropLowLines ' ' ((trim isWhiteSpace t.characters).map toAsciiDigit)).bind decimal? with
  | some x => .ok x
  | none => .error (.notNumber t)

/-- A whole number in base ten, or none if it is too long to be written. -/
def integerText (i : Int) : Except Fault String :=
  if i.natAbs < Nat.pow 10 maxDigits then .ok (toString i) else .error .tooLongToWrite

end BlockNotebook.Number
