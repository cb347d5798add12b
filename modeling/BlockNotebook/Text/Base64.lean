import BlockNotebook.Text.Digit
/-!
Bytes written in base 64.

Characters outside the alphabet are passed over. Padding that completes a group
of four ends the data.
-/

namespace BlockNotebook.Text.Base64

/-- Why a text is not data in base 64. -/
inductive Fault
  /-- The last group has a single character, the given number of them being complete groups and it. -/
  | dangling (characters : Nat)
  | padding
  deriving DecidableEq, Repr

def Fault.message : Fault → String
  | .dangling n =>
    s!"Invalid base64-encoded string: number of data characters ({n}) cannot be 1 more than a multiple of 4"
  | .padding => "Incorrect padding"

def value? (c : Char) : Option Nat :=
  if 'A' ≤ c && c ≤ 'Z' then some (c.toNat - 65)
  else if 'a' ≤ c && c ≤ 'z' then some (c.toNat - 71)
  else if '0' ≤ c && c ≤ '9' then some (c.toNat + 4)
  else if c == '+' then some 62
  else if c == '/' then some 63
  else none

/-- A group part way through: how many of its characters are read, the bits not yet written, the padding seen. -/
structure Group where
  read : Nat := 0
  left : Nat := 0
  pads : Nat := 0

/-- The bytes of the rest of a text, `written` bytes being read before it. -/
def decodeFrom (g : Group) (written : Nat) : List Char → Except Fault (List UInt8)
  | [] =>
    if g.read == 0 then .ok []
    else if g.read == 1 then .error (.dangling (written / 3 * 4 + 1))
    else .error .padding
  | c :: rest =>
    if c == '=' then
      if 2 ≤ g.read then
        if 4 ≤ g.read + (g.pads + 1) then .ok [] else decodeFrom { g with pads := g.pads + 1 } written rest
      else decodeFrom g written rest
    else
      match value? c with
      | none => decodeFrom g written rest
      | some v =>
        match g.read with
        | 0 => decodeFrom ⟨1, v, 0⟩ written rest
        | 1 => (decodeFrom ⟨2, v % 16, 0⟩ (written + 1) rest).map (UInt8.ofNat (g.left * 4 + v / 16) :: ·)
        | 2 => (decodeFrom ⟨3, v % 4, 0⟩ (written + 1) rest).map (UInt8.ofNat (g.left * 16 + v / 4) :: ·)
        | _ => (decodeFrom ⟨0, 0, 0⟩ (written + 1) rest).map (UInt8.ofNat (g.left * 64 + v) :: ·)

/-- The bytes a text spells in base 64. -/
def decode (cs : List Char) : Except Fault (List UInt8) := decodeFrom {} 0 cs

end BlockNotebook.Text.Base64
