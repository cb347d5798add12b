import BlockNotebook.Text.Quoted
/-!
Reading bytes as UTF-8, with the place and the reason of the first fault.
-/

namespace BlockNotebook.Text.Utf8

/-- Why bytes are not UTF-8. -/
inductive Reason
  | invalidStart
  | invalidContinuation
  | unexpectedEnd
  deriving DecidableEq, Repr

def Reason.message : Reason → String
  | .invalidStart => "invalid start byte"
  | .invalidContinuation => "invalid continuation byte"
  | .unexpectedEnd => "unexpected end of data"

/-- The first bytes that are not UTF-8: where they start, which they are, and why. -/
structure Fault where
  position : Nat
  first : UInt8
  count : Nat
  reason : Reason
  deriving DecidableEq, Repr

/-- The wording of a fault: the byte or the stretch of bytes, and the reason. -/
def Fault.message (f : Fault) : String :=
  let place :=
    if f.count == 1 then
      "byte 0x" ++ String.ofList (hex 2 f.first.toNat) ++ s!" in position {f.position}"
    else s!"bytes in position {f.position}-{f.position + f.count - 1}"
  s!"'utf-8' codec can't decode {place}: {f.reason.message}"

/-- How many bytes follow a first byte, and the range its second byte lies in. -/
def following? (b : UInt8) : Option (Nat × Nat × Nat) :=
  let n := b.toNat
  if n < 0x80 then some (0, 0, 0)
  else if n < 0xC2 then none
  else if n < 0xE0 then some (1, 0x80, 0xBF)
  else if n == 0xE0 then some (2, 0xA0, 0xBF)
  else if n == 0xED then some (2, 0x80, 0x9F)
  else if n < 0xF0 then some (2, 0x80, 0xBF)
  else if n == 0xF0 then some (3, 0x90, 0xBF)
  else if n < 0xF4 then some (3, 0x80, 0xBF)
  else if n == 0xF4 then some (3, 0x80, 0x8F)
  else none

/-- The bits of the value that the first byte of a sequence holds. -/
def leadBits (b : UInt8) (count : Nat) : Nat :=
  match count with
  | 0 => b.toNat
  | 1 => b.toNat % 32
  | 2 => b.toNat % 16
  | _ => b.toNat % 8

/-- Read `need` more bytes, the next of them between `lo` and `hi`, after `used` bytes of value `acc`. -/
def continuation (need lo hi used acc : Nat) : List UInt8 → Except (Nat × Reason) Nat
  | [] => if need == 0 then .ok acc else .error (used, .unexpectedEnd)
  | b :: rest =>
    match need with
    | 0 => .ok acc
    | need + 1 =>
      if lo ≤ b.toNat && b.toNat ≤ hi then
        continuation need 0x80 0xBF (used + 1) (acc * 64 + b.toNat % 64) rest
      else .error (used, .invalidContinuation)

/-- The characters of the bytes from `position` on, after `skip` bytes that are read already. -/
def decodeFrom (position skip : Nat) : List UInt8 → Except Fault (List Char)
  | [] => .ok []
  | b :: rest =>
    match skip with
    | skip + 1 => decodeFrom (position + 1) skip rest
    | 0 =>
      match following? b with
      | none => .error ⟨position, b, 1, .invalidStart⟩
      | some (need, lo, hi) =>
        match continuation need lo hi 1 (leadBits b need) rest with
        | .error (used, reason) => .error ⟨position, b, used, reason⟩
        | .ok n => (decodeFrom (position + 1) need rest).map (Char.ofNat n :: ·)

/-- The text that the bytes spell in UTF-8. -/
def decode (bs : List UInt8) : Except Fault (List Char) := decodeFrom 0 0 bs

end BlockNotebook.Text.Utf8
