import BlockNotebook.Value.Basic
import BlockNotebook.Number.Reading
/-!
Data read from JSON text.

A number without point and exponent is a whole number. Entries keep their order;
of two entries with one key the later gives the value. Two escapes that make a
surrogate pair are one character; an escape of a surrogate alone is that surrogate.
-/

namespace BlockNotebook.Json

open Text

def isJsonBlank (c : CodePoint) : Bool := c == ' ' || c == '\n' || c == '\r' || c == '\t'

def skipBlanks (t : Text) : Text := t.dropWhile isJsonBlank

/-- The value of a digit in base sixteen. -/
def hexDigit? (c : CodePoint) : Option Nat :=
  (alphanumericValue? c.character).filter (decide <| · < 16)

/-- The value of four digits in base sixteen. -/
def hex4? (a b c d : CodePoint) : Option Nat := do
  let w ← hexDigit? a
  let x ← hexDigit? b
  let y ← hexDigit? c
  let z ← hexDigit? d
  return ((w * 16 + x) * 16 + y) * 16 + z

/-- The character that a one-letter escape stands for. -/
def unescape? (c : Char) : Option Char :=
  if c == '"' || c == '\\' || c == '/' then some c
  else if c == 'n' then some '\n'
  else if c == 'r' then some '\r'
  else if c == 't' then some '\t'
  else if c == 'b' then some '\x08'
  else if c == 'f' then some '\x0c'
  else none

/-- Escapes of two surrogates that follow one another, as one character. -/
def joinSurrogates (high low : Nat) : Option Char :=
  if 0xD800 ≤ high && high < 0xDC00 && 0xDC00 ≤ low && low < 0xE000 then
    some (Char.ofNat (0x10000 + (high - 0xD800) * 0x400 + (low - 0xDC00)))
  else none

/-- One code point of a string, escaped or not, and the text after it. -/
def readPoint : Text → Option (CodePoint × Text)
  | .char '\\' :: .char 'u' :: a :: b :: c :: d :: rest =>
    match hex4? a b c d with
    | none => none
    | some high =>
      match rest with
      | .char '\\' :: .char 'u' :: e :: f :: g :: h :: rest' =>
        match (hex4? e f g h).bind (joinSurrogates high) with
        | some joined => some (joined, rest')
        | none => (CodePoint.ofValue? high).map (·, rest)
      | _ => (CodePoint.ofValue? high).map (·, rest)
  | .char '\\' :: c :: rest => (unescape? c.character).map (.char ·, rest)
  | c :: rest => some (c, rest)
  | [] => none

/-- The code points of a string up to its closing quote, and the text after that. -/
def readPoints : Nat → Text → Option (Text × Text)
  | 0, _ => none
  | fuel + 1, t =>
    match t with
    | .char '"' :: rest => some ([], rest)
    | _ =>
      match readPoint t with
      | none => none
      | some (c, rest) => (readPoints fuel rest).map fun r => (c :: r.1, r.2)

def isNumberChar (c : Char) : Bool :=
  isAsciiDigit c || c == '-' || c == '+' || c == '.' || c == 'e' || c == 'E'

/-- The number of a token. -/
def number? (cs : List Char) : Option Value :=
  let (negative, body) := Number.splitSign cs
  if !body.isEmpty && body.all isAsciiDigit then
    some (.int (Number.withSign negative (Number.digitsValue body)))
  else (Number.unsignedDecimal? negative body).map .float

mutual

/-- The value in front of a text, and the text after it. The first argument bounds the nesting. -/
def readValue : Nat → Text → Option (Value × Text)
  | 0, _ => none
  | fuel + 1, t =>
    match skipBlanks t with
    | .char '"' :: rest => (readPoints rest.length rest).map fun r => (.str r.1, r.2)
    | .char '[' :: rest =>
      match skipBlanks rest with
      | .char ']' :: rest => some (.list [], rest)
      | rest => (readItems fuel rest).map fun r => (.list r.1, r.2)
    | .char '\x7b' :: rest =>
      match skipBlanks rest with
      | .char '\x7d' :: rest => some (.map [], rest)
      | rest => (readEntries fuel [] rest).map fun r => (.map r.1, r.2)
    | .char 'n' :: .char 'u' :: .char 'l' :: .char 'l' :: rest => some (.null, rest)
    | .char 't' :: .char 'r' :: .char 'u' :: .char 'e' :: rest => some (.bool true, rest)
    | .char 'f' :: .char 'a' :: .char 'l' :: .char 's' :: .char 'e' :: rest => some (.bool false, rest)
    | rest =>
      (number? (Text.characters (rest.takeWhile (·.satisfies isNumberChar)))).map
        (·, rest.dropWhile (·.satisfies isNumberChar))

/-- The items up to the closing bracket, and the text after it. -/
def readItems : Nat → Text → Option (List Value × Text)
  | 0, _ => none
  | fuel + 1, t =>
    match readValue fuel t with
    | none => none
    | some (v, rest) =>
      match skipBlanks rest with
      | .char ',' :: rest => (readItems fuel rest).map fun r => (v :: r.1, r.2)
      | .char ']' :: rest => some ([v], rest)
      | _ => none

/-- The entries up to the closing brace, added to those before, and the text after it. -/
def readEntries : Nat → List (Value × Value) → Text → Option (List (Value × Value) × Text)
  | 0, _, _ => none
  | fuel + 1, entries, t =>
    match skipBlanks t with
    | .char '"' :: rest =>
      match readPoints rest.length rest with
      | none => none
      | some (key, rest) =>
        match skipBlanks rest with
        | .char ':' :: rest =>
          match readValue fuel rest with
          | none => none
          | some (v, rest) =>
            let entries := Value.insert entries (.str key) v
            match skipBlanks rest with
            | .char ',' :: rest => readEntries fuel entries rest
            | .char '\x7d' :: rest => some (entries, rest)
            | _ => none
        | _ => none
    | _ => none

end

/-- The data a JSON text spells. -/
def read (t : Text) : Option Value :=
  match readValue (t.length + 1) t with
  | some (v, rest) => if (skipBlanks rest).isEmpty then some v else none
  | none => none

end BlockNotebook.Json
