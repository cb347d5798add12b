/-!
Texts: sequences of code points.

An escape in a document can name a surrogate, which is a code point and no character. So a text
may hold surrogates that stand alone; two in a row stay two. Text that is read from a file or
written in this library has characters only.
-/

namespace BlockNotebook

/-- A character, or a surrogate by its place after the first one. -/
inductive CodePoint
  | char (c : Char)
  | surrogate (place : Fin 0x800)
  deriving DecidableEq, Repr, Inhabited

instance : Coe Char CodePoint := ⟨.char⟩

namespace CodePoint

/-- The code point of the first surrogate. -/
def firstSurrogate : Nat := 0xD800

/-- The number of the code point. -/
def value : CodePoint → Nat
  | .char c => c.toNat
  | .surrogate n => firstSurrogate + n

/-- The code point with a number, if there is one. -/
def ofValue? (n : Nat) : Option CodePoint :=
  if h : firstSurrogate ≤ n ∧ n < firstSurrogate + 0x800 then
    some (.surrogate ⟨n - firstSurrogate, by omega⟩)
  else if n < 0x110000 then some (.char (Char.ofNat n))
  else none

def isSurrogate : CodePoint → Bool
  | .char _ => false
  | .surrogate _ => true

/-- The code point is a character of a class. -/
def satisfies (p : Char → Bool) : CodePoint → Bool
  | .char c => p c
  | .surrogate _ => false

/-- The character; for a surrogate, the one that stands in for what is none. -/
def character : CodePoint → Char
  | .char c => c
  | .surrogate _ => '\uFFFD'

/-- Code points are ordered by their numbers. -/
instance : LT CodePoint := ⟨fun a b => a.value < b.value⟩

instance (a b : CodePoint) : Decidable (a < b) := inferInstanceAs (Decidable (a.value < b.value))

end CodePoint

/-- A text. Texts are ordered like lists, by the first code point that differs. -/
abbrev Text := List CodePoint

namespace Text

def ofChars (cs : List Char) : Text := cs.map .char

def ofString (s : String) : Text := ofChars s.toList

instance : Coe String Text := ⟨ofString⟩

instance : Coe (List Char) Text := ⟨ofChars⟩

/-- The characters of a text, with a stand-in for every surrogate. -/
def characters (t : Text) : List Char := t.map CodePoint.character

/-- The text as a string, if it has no surrogates. -/
def string? (t : Text) : Option String :=
  if t.any CodePoint.isSurrogate then none else some (String.ofList t.characters)

theorem characters_ofChars (cs : List Char) : characters (ofChars cs) = cs := by
  induction cs with
  | nil => rfl
  | cons c rest ih => simp_all [characters, ofChars, CodePoint.character]

theorem any_isSurrogate_ofChars (cs : List Char) : (ofChars cs).any CodePoint.isSurrogate = false := by
  induction cs with
  | nil => rfl
  | cons c rest ih => simp_all [ofChars, CodePoint.isSurrogate]

theorem string?_ofString (s : String) : string? (ofString s) = some s := by
  rw [string?, ofString, any_isSurrogate_ofChars, characters_ofChars]
  simp

theorem ofString_inj {s t : String} : ofString s = ofString t ↔ s = t := by
  constructor
  · intro h
    have := congrArg string? h
    simpa [string?_ofString] using this
  · exact congrArg ofString

/-- Read off so, the characters of a literal need not be decoded again when a text is evaluated. -/
theorem ofString_ofList (cs : List Char) : ofString (String.ofList cs) = ofChars cs := by
  rw [ofString, String.toList_ofList]

theorem ofString_beq (s t : String) : (ofString s == ofString t) = (s == t) := by
  rw [Bool.eq_iff_iff, beq_iff_eq, beq_iff_eq, ofString_inj]

end Text

end BlockNotebook
