import BlockNotebook.Text.CodePoint
import BlockNotebook.Text.Printable
/-!
Texts shown in quotes, as messages quote them.

The quotes are single unless the text holds single quotes and no double ones. A
backslash and the quote in use are escaped, as is every character without a
visible form.
-/

namespace BlockNotebook.Text

def hexDigit (n : Nat) : Char :=
  if n < 10 then Char.ofNat (n + 48) else Char.ofNat (n + 87)

/-- The last `width` digits of a number in base sixteen. -/
def hex (width n : Nat) : List Char :=
  match width with
  | 0 => []
  | width + 1 => hex width (n / 16) ++ [hexDigit (n % 16)]

/-- A code point by its number, as an escape. -/
def escaped (n : Nat) : List Char :=
  if n ≤ 0xFF then '\\' :: 'x' :: hex 2 n
  else if n ≤ 0xFFFF then '\\' :: 'u' :: hex 4 n
  else '\\' :: 'U' :: hex 8 n

/-- The quote that surrounds a text: double quotes only where they save escaping single ones. -/
def quoteFor (t : Text) : Char :=
  if t.contains '\'' && !t.contains '"' then '"' else '\''

/-- One code point between the given quotes. -/
def quotedPoint (quote : Char) : CodePoint → List Char
  | .surrogate n => escaped (CodePoint.surrogate n).value
  | .char c =>
    if c == quote || c == '\\' then ['\\', c]
    else if c == '\t' then ['\\', 't']
    else if c == '\n' then ['\\', 'n']
    else if c == '\r' then ['\\', 'r']
    else if isPrintable c then [c]
    else escaped c.toNat

/-- The text between quotes. -/
def quoted (t : Text) : List Char :=
  let q := quoteFor t
  q :: t.flatMap (quotedPoint q) ++ [q]

/-- The text between quotes, as a string: whatever the text, the result has characters only. -/
def quote (t : Text) : String := String.ofList (quoted t)

/-- One byte between the given quotes: only ASCII is shown as itself. -/
def quotedByte (quote : Char) (b : UInt8) : List Char :=
  if b.toNat < 0x80 then quotedPoint quote (Char.ofNat b.toNat) else '\\' :: 'x' :: hex 2 b.toNat

/-- Bytes between quotes, marked as bytes. -/
def quotedBytes (bs : List UInt8) : List Char :=
  let q := quoteFor (bs.map fun b => .char (Char.ofNat b.toNat))
  'b' :: q :: bs.flatMap (quotedByte q) ++ [q]

end BlockNotebook.Text
