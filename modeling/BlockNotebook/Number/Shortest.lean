import BlockNotebook.Number.Binary64
/-!
The fewest decimal digits that read back as a given number, and their layout.

`shortest` searches the decimal grids of one, two, … digits; of each it tries the
two points next to the number, and takes the first grid with a point that rounds
to the number. `Notation` holds the decisions of an output format.
-/

namespace BlockNotebook

namespace Binary64

/-- Digits and a decimal point: the value is `0.digits · 10 ^ point`. -/
structure Decimal where
  digits : Nat
  point : Int
  deriving DecidableEq, Repr

/-- A positive finite number as a fraction with its rounding interval, all over one denominator. -/
structure Interval where
  low : Nat
  value : Nat
  high : Nat
  denominator : Nat
  /-- The ends themselves round to the number. -/
  closed : Bool

/-- The reals that round to `m · 2 ^ e`. The gap below a power of two is half as wide. -/
def interval (m : Nat) (e : Int) : Interval :=
  let up := Nat.pow 2 e.toNat
  let narrow := m == mantissaLimit / 2 && decide (minExponent < e)
  { low := (if narrow then 4 * m - 1 else 4 * m - 2) * up
    value := 4 * m * up
    high := (4 * m + 2) * up
    denominator := 4 * Nat.pow 2 (-e).toNat
    closed := m % 2 == 0 }

/-- The decimal `n · 10 ^ k` lies in the interval. -/
def Interval.holds (i : Interval) (n : Nat) (k : Int) : Bool :=
  let x := n * Nat.pow 10 k.toNat * i.denominator
  let unit := Nat.pow 10 (-k).toNat
  if i.closed then decide (i.low * unit ≤ x) && decide (x ≤ i.high * unit)
  else decide (i.low * unit < x) && decide (x < i.high * unit)

/-- The whole number of units `10 ^ k` in the value. -/
def Interval.floor (i : Interval) (k : Int) : Nat :=
  i.value * Nat.pow 10 (-k).toNat / (i.denominator * Nat.pow 10 k.toNat)

/-- The value is below `10 ^ k`. -/
def Interval.below (i : Interval) (k : Int) : Bool :=
  decide (i.value * Nat.pow 10 (-k).toNat < i.denominator * Nat.pow 10 k.toNat)

/-- The least `k` with the value below `10 ^ k`, searched upwards from `k`. -/
def Interval.scaleFrom (i : Interval) : Nat → Int → Int
  | 0, k => k
  | fuel + 1, k => if i.below k then k else i.scaleFrom fuel (k + 1)

/-- A start of the search for the scale, a little below it. -/
def Interval.scaleGuess (i : Interval) : Int :=
  (((i.value.log2 : Int) - (i.denominator.log2 : Int) - 1) * 30103) / 100000 - 1

/-- Of the two grid points next to the value, the one in the interval, or the nearer of both. -/
def Interval.point? (i : Interval) (k : Int) : Option Nat :=
  let n := i.floor k
  match i.holds n k && n != 0, i.holds (n + 1) k with
  | true, false => some n
  | false, true => some (n + 1)
  | false, false => none
  | true, true =>
    let twice := 2 * i.value * Nat.pow 10 (-k).toNat
    let middle := (2 * n + 1) * (i.denominator * Nat.pow 10 k.toNat)
    if twice < middle then some n
    else if middle < twice then some (n + 1)
    else if n % 2 == 0 then some n else some (n + 1)

/-- The first grid from `count` digits on that has a point in the interval. -/
def Interval.search (i : Interval) (scale : Int) : Nat → Nat → Decimal
  | 0, _ => ⟨i.floor (scale - 17), scale⟩
  | fuel + 1, count =>
    match i.point? (scale - count) with
    | some n => if n == Nat.pow 10 count then ⟨1, scale + 1⟩ else ⟨n, scale⟩
    | none => i.search scale fuel (count + 1)

/-- A number without the zeros at the end of its decimal digits. -/
def dropZeros : Nat → Nat → Nat
  | 0, n => n
  | fuel + 1, n => if n != 0 && n % 10 == 0 then dropZeros fuel (n / 10) else n

/-- The fewest digits that read back as the positive number `m · 2 ^ e`. -/
def shortest (m : Nat) (e : Int) : Decimal :=
  let i := interval m e
  let d := i.search (i.scaleFrom 8 i.scaleGuess) 17 1
  { d with digits := dropZeros 17 d.digits }

/-- How a format lays digits out. -/
structure Notation where
  /-- A point at or below this place is written with an exponent. -/
  lowPoint : Int
  /-- A point above this place is written with an exponent. -/
  highPoint : Int
  infinityText : String
  nanText : String

def zeros (n : Nat) : List Char := List.replicate n '0'

/-- An exponent with its sign and at least two digits. -/
def exponentText (e : Int) : List Char :=
  let ds := Nat.toDigits 10 e.natAbs
  (if e < 0 then '-' else '+') :: (zeros (2 - ds.length) ++ ds)

/-- Digits laid out: positional between the limits, else with an exponent. -/
def Notation.layout (f : Notation) (d : Decimal) : List Char :=
  let ds := Nat.toDigits 10 d.digits
  if f.lowPoint < d.point && d.point ≤ f.highPoint then
    if d.point ≤ 0 then '0' :: '.' :: (zeros (-d.point).toNat ++ ds)
    else
      let whole := d.point.toNat
      let fraction := ds.drop whole
      ds.take whole ++ zeros (whole - ds.length) ++ '.' :: (if fraction.isEmpty then ['0'] else fraction)
  else
    match ds with
    | [] => []
    | first :: rest =>
      first :: ((if rest.isEmpty then [] else '.' :: rest) ++ 'e' :: exponentText (d.point - 1))

/-- A number in a format. -/
def Notation.write (f : Notation) : Binary64 → String
  | .nan => f.nanText
  | .infinity s => String.ofList ((if s then ['-'] else []) ++ f.infinityText.toList)
  | .finite s m e =>
    String.ofList ((if s then ['-'] else []) ++
      (if m == 0 then ['0', '.', '0'] else f.layout (shortest m e)))

/-- Numbers in messages: positional from a ten-thousandth to below ten to the sixteenth. -/
def plainNotation : Notation := ⟨-4, 16, "inf", "nan"⟩

/-- Numbers in data: as in messages, with the words for what is not finite spelled out. -/
def dataNotation : Notation := ⟨-4, 16, "Infinity", "NaN"⟩

end Binary64

end BlockNotebook
