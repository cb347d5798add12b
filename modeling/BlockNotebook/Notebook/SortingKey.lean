import BlockNotebook.Number.Reading
/-!
Sorting keys for the places in a notebook.

The key of a place is its number, counted from one, in the digits `0` to `z` that
stand for one to thirty-six.
-/

namespace BlockNotebook.SortingKey

/-- The digits, in order. -/
def digits : List Char := "0123456789abcdefghijklmnopqrstuvwxyz".toList

def base : Nat := 36

def maxLength : Nat := 6

/-- Why a place has no key. -/
inductive Fault
  | negative
  | tooLarge (index : Int)
  | number (fault : Number.Fault)
  deriving DecidableEq, Repr

def Fault.message : Fault → String
  | .negative => "Index must be non-negative"
  | .tooLarge i => s!"Index {i} exceeds maximum key length of {maxLength}"
  | .number f => f.message

def digit (n : Nat) : Char := digits.getD n '0'

/-- The last `length` digits of a number in front of some others, and what is left of it. -/
def digitsBefore (key : List Char) : Nat → Nat → List Char × Nat
  | 0, n => (key, n)
  | length + 1, n =>
    if n == 0 then (key, 0) else digitsBefore (digit ((n - 1) % base) :: key) length ((n - 1) / base)

/-- The key of a place. -/
def ofIndex (index : Int) : Except Fault String :=
  if index < 0 then .error .negative
  else
    match digitsBefore [] maxLength (index.toNat + 1) with
    | (key, 0) => .ok (String.ofList key)
    | _ =>
      match Number.integerText index with
      | .ok _ => .error (.tooLarge index)
      | .error f => .error (.number f)

end BlockNotebook.SortingKey
