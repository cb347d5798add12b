import BlockNotebook.Schema.Issue
import BlockNotebook.Text.Case
import BlockNotebook.Text.Utf8
import BlockNotebook.Number.Reading
/-!
Texts, whole numbers, numbers and truth values read from data of another kind
where the data leaves no doubt: a number from its decimal text, a truth value
from a word for it, text from bytes in UTF-8.
-/

namespace BlockNotebook.Schema

open Text

def readText : Value → Except Cause Text
  | .str t => .ok t
  | .bytes bs =>
    match Utf8.decode bs with
    | .ok cs => .ok (Text.ofChars cs)
    | .error _ => .error .notUnicode
  | _ => .error .notText

/-- The characters of a text that is to be read as data of another kind. A surrogate is none. -/
def readable (t : Text) : Except Cause (List Char) :=
  if t.any CodePoint.isSurrogate then .error .notUnicode else .ok t.characters

/-! ## Whole numbers -/

/-- A minus in front of a text, and the rest: whether there is one. -/
def splitMinus : List Char → Bool × List Char
  | '-' :: rest => (true, rest)
  | cs => (false, cs)

def isOneToNine (c : Char) : Bool := decide ('1' ≤ c) && decide (c ≤ '9')

/-- The whole number in plain spelling: a minus if it is negative, and digits with no zero in front. Too many
digits are refused before what follows them is looked at. -/
def readPlainWhole (cs : List Char) : Except Cause Int :=
  let (negative, body) := splitMinus cs
  let ds := body.takeWhile isAsciiDigit
  if body == ['0'] then .ok 0
  else if !(body.take 1).any isOneToNine then .error .unreadableWhole
  else if Number.maxDigits < ds.length then .error .oversizedWhole
  else if ds.length == body.length then .ok (Number.withSign negative (Number.digitsValue ds))
  else .error .unreadableWhole

/-- A text without a plus in front; none if a minus follows the plus. -/
def dropPlus : List Char → Option (List Char)
  | '+' :: '-' :: _ => none
  | '+' :: rest => some rest
  | cs => some cs

/-- A number without the zeros in front, and the low lines among them. Before a point, and where nothing
follows, the last of them stays. -/
def dropLeadingZeros (cs : List Char) : Option (List Char) :=
  match cs with
  | '0' :: _ =>
    let zeros := cs.takeWhile fun c => c == '0' || c == '_'
    let last := zeros.drop (zeros.length - 1)
    match cs.drop zeros.length with
    | [] => some last
    | '.' :: rest => some (last ++ '.' :: rest)
    | c :: rest => if isOneToNine c || c == '-' then some (c :: rest) else none
  | c :: _ => if isOneToNine c || c == '-' then some cs else none
  | [] => none

/-- A number without its point, if only zeros follow that. -/
def dropZeroFraction (cs : List Char) : List Char :=
  match cs.dropWhile (· != '.') with
  | _ :: '0' :: zeros => if zeros.all (· == '0') then cs.takeWhile (· != '.') else cs
  | _ => cs

/-- Two low lines stand side by side. -/
def hasDoubleLine : List Char → Bool
  | '_' :: '_' :: _ => true
  | _ :: rest => hasDoubleLine rest
  | [] => false

/-- A number without its low lines, if there are some and each stands alone between other characters. -/
def dropSingleLines (cs : List Char) : Option (List Char) :=
  if !cs.contains '_' || hasDoubleLine cs || cs.head? == some '_' || cs.getLast? == some '_' then none
  else some (cs.filter (· != '_'))

/-- The plain spelling that a text stands for; none if the text has nothing to leave out. -/
def plainWhole? (cs : List Char) : Option (List Char) :=
  match (dropPlus (trim isWhiteSpace cs)).bind dropLeadingZeros with
  | none => none
  | some ds =>
    let ds := dropZeroFraction ds
    match dropSingleLines ds with
    | some digits => some digits
    | none => if ds.length == cs.length then none else some ds

/-- The whole number a text spells, plainly or with white space around, a plus, zeros in front and after a point,
and low lines between. -/
def readWholeText (cs : List Char) : Except Cause Int :=
  match readPlainWhole cs with
  | .error .unreadableWhole =>
    match plainWhole? cs with
    | none => .error .unreadableWhole
    | some ds => (readPlainWhole ds).mapError fun _ => .unreadableWhole
  | verdict => verdict

/-- Numbers of a size from here on are no whole numbers when they come as floating point numbers. -/
def wholeLimit : Nat := Nat.pow 2 63

def readWholeFloat (x : Binary64) : Except Cause Int :=
  match x with
  | .finite _ _ _ =>
    match x.toInt? with
    | some i => if i.natAbs < wholeLimit then .ok i else .error .oversizedWhole
    | none => .error .fractionalWhole
  | _ => .error .notFinite

def readWhole : Value → Except Cause Int
  | .bool b => .ok (if b then 1 else 0)
  | .int i => .ok i
  | .float x => readWholeFloat x
  | .str t => (readable t).bind readWholeText
  | .bytes bs =>
    match Utf8.decode bs with
    | .ok cs => readWholeText cs
    | .error _ => .error .unreadableWhole
  | _ => .error .notWhole

/-! ## Truth values -/

def falseWords : List String := ["0", "f", "n", "no", "off", "false"]
def trueWords : List String := ["1", "t", "y", "yes", "on", "true"]

/-- The truth value a word stands for, in either case of letters. -/
def readFlagText (cs : List Char) : Except Cause Bool :=
  let word := String.ofList (cs.map asciiLower)
  if falseWords.contains word then .ok false
  else if trueWords.contains word then .ok true
  else .error .unreadableFlag

def readFlagWhole (i : Int) : Except Cause Bool :=
  if i == 0 then .ok false else if i == 1 then .ok true else .error .unreadableFlag

def readFlag : Value → Except Cause Bool
  | .bool b => .ok b
  | .int i =>
    if -(wholeLimit : Int) ≤ i && i < wholeLimit then readFlagWhole i else .error .notFlag
  | .float x =>
    match x.toInt? with
    | some i => if i.natAbs < wholeLimit then readFlagWhole i else .error .notFlag
    | none => .error .notFlag
  | .str t => (readable t).bind readFlagText
  | .bytes bs =>
    match Utf8.decode bs with
    | .ok cs => readFlagText cs
    | .error _ => .error .unreadableFlag
  | _ => .error .notFlag

/-! ## Numbers -/

/-- The number a decimal text spells, with white space around it or with low lines inside. -/
def readNumberText (cs : List Char) : Except Cause Binary64 :=
  match Number.decimal? (trim isWhiteSpace cs) with
  | some x => .ok x
  | none =>
    match (dropSingleLines cs).bind Number.decimal? with
    | some x => .ok x
    | none => .error .unreadableNumber

def readNumber : Value → Except Cause Binary64
  | .bool b => .ok ((Binary64.ofInt? (if b then 1 else 0)).getD (Binary64.zero false))
  | .int i =>
    match Binary64.ofInt? i with
    | some x => .ok x
    | none => .error .notNumber
  | .float x => .ok x
  | .str t => (readable t).bind readNumberText
  | .bytes bs =>
    match Utf8.decode bs with
    | .ok cs => readNumberText cs
    | .error _ => .error .unreadableNumber
  | _ => .error .notNumber

end BlockNotebook.Schema
