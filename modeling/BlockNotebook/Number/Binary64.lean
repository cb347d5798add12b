/-!
Binary floating point numbers with 53 bits, as exact values.

A finite number is `± mantissa · 2 ^ exponent`. Operations compute the exact
result and round it once, to nearest, a tie going to the even mantissa. Nothing
here uses the machine's floating point.
-/

namespace BlockNotebook

/-- A binary64 number. `ofRatio` builds the finite ones, with the mantissa as long as the exponent allows. -/
inductive Binary64
  | finite (negative : Bool) (mantissa : Nat) (exponent : Int)
  | infinity (negative : Bool)
  | nan
  deriving DecidableEq, Repr, Inhabited

namespace Binary64

/-- The least exponent: that of the numbers nearest to zero. -/
def minExponent : Int := -1074

/-- The greatest exponent of a finite number. -/
def maxExponent : Int := 971

/-- The length of a full mantissa, as a power of two. -/
def mantissaLimit : Nat := Nat.pow 2 53

def zero (negative : Bool) : Binary64 := .finite negative 0 minExponent

/-- `num / den / 2 ^ e`, rounded to the nearest whole number, ties to even. -/
def roundScaled (num den : Nat) (e : Int) : Nat :=
  let n := num * Nat.pow 2 (-e).toNat
  let d := den * Nat.pow 2 e.toNat
  let q := n / d
  let r := n % d
  if 2 * r < d then q
  else if d < 2 * r then q + 1
  else if q % 2 == 0 then q else q + 1

/-- The exponent at which `num / den` has a mantissa of 53 bits, or the least exponent. -/
def scaleOf (num den : Nat) : Int :=
  let guess : Int := (num.log2 : Int) - (den.log2 : Int) - 53
  let fits := decide (num * Nat.pow 2 (-guess).toNat < mantissaLimit * (den * Nat.pow 2 guess.toNat))
  let e := if fits then guess else guess + 1
  if e < minExponent then minExponent else e

/-- The number nearest to `num / den`. -/
def ofRatio (negative : Bool) (num den : Nat) : Binary64 :=
  if num == 0 then zero negative
  else
    let e := scaleOf num den
    let m := roundScaled num den e
    let (m, e) := if m == mantissaLimit then (mantissaLimit / 2, e + 1) else (m, e)
    if maxExponent < e then .infinity negative else .finite negative m e

/-- The number of digits of a number in base ten; none for zero. -/
def decimalLength (n : Nat) : Nat := if n == 0 then 0 else (Nat.toDigits 10 n).length

/-- The number nearest to `digits · 10 ^ exponent`. -/
def ofDecimal (negative : Bool) (digits : Nat) (exponent : Int) : Binary64 :=
  let magnitude := (decimalLength digits : Int) + exponent
  if digits == 0 then zero negative
  else if 400 < magnitude then .infinity negative
  else if magnitude < -400 then zero negative
  else ofRatio negative (digits * Nat.pow 10 exponent.toNat) (Nat.pow 10 (-exponent).toNat)

/-- The number nearest to a whole number, or none if that is out of range. -/
def ofInt? (i : Int) : Option Binary64 :=
  match ofRatio (decide (i < 0)) i.natAbs 1 with
  | .infinity _ => none
  | x => some x

def negate : Binary64 → Binary64
  | .finite s m e => .finite (!s) m e
  | .infinity s => .infinity (!s)
  | .nan => .nan

/-- The sign as a factor. -/
def sign (negative : Bool) : Int := if negative then -1 else 1

/-- The number nearest to `n · 2 ^ e`; `negativeZero` is the sign of an exact zero. -/
def ofScaled (negativeZero : Bool) (n : Int) (e : Int) : Binary64 :=
  if n == 0 then zero negativeZero
  else ofRatio (decide (n < 0)) (n.natAbs * Nat.pow 2 e.toNat) (Nat.pow 2 (-e).toNat)

def add : Binary64 → Binary64 → Binary64
  | .nan, _ => .nan
  | _, .nan => .nan
  | .infinity s, .infinity t => if s == t then .infinity s else .nan
  | .infinity s, _ => .infinity s
  | _, .infinity t => .infinity t
  | .finite s m e, .finite t n f =>
    let low := min e f
    ofScaled (s && t)
      (sign s * (m * Nat.pow 2 (e - low).toNat : Nat) + sign t * (n * Nat.pow 2 (f - low).toNat : Nat)) low

def mul : Binary64 → Binary64 → Binary64
  | .nan, _ => .nan
  | _, .nan => .nan
  | .infinity s, .infinity t => .infinity (s != t)
  | .infinity s, .finite t n _ => if n == 0 then .nan else .infinity (s != t)
  | .finite s m _, .infinity t => if m == 0 then .nan else .infinity (s != t)
  | .finite s m e, .finite t n f =>
    ofScaled (s != t) (sign (s != t) * (m * n : Nat)) (e + f)

/-- The whole number that the number is, if it is one. -/
def toInt? : Binary64 → Option Int
  | .finite s m e =>
    if 0 ≤ e then some (sign s * (m * Nat.pow 2 e.toNat : Nat))
    else
      let unit := Nat.pow 2 (-e).toNat
      if m % unit == 0 then some (sign s * (m / unit : Nat)) else none
  | _ => none

def isFinite : Binary64 → Bool
  | .finite _ _ _ => true
  | _ => false

/-- The numbers are equal as values: the two zeros are, and not-a-number equals nothing. -/
def sameValue : Binary64 → Binary64 → Bool
  | .finite s m e, .finite t n f => (m == 0 && n == 0) || (s == t && m == n && e == f)
  | .infinity s, .infinity t => s == t
  | _, _ => false

end Binary64

end BlockNotebook
