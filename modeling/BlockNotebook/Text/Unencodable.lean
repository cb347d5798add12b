import BlockNotebook.Text.Quoted
/-!
Parts of texts that have no bytes: UTF-8 has none for a surrogate, ASCII none for
anything from U+0080 on.
-/

namespace BlockNotebook.Text

/-- A coding of texts as bytes. -/
inductive Coding
  | ascii
  | utf8
  deriving DecidableEq, Repr

def Coding.name : Coding → String
  | .ascii => "ascii"
  | .utf8 => "utf-8"

/-- The coding has bytes for the code point. -/
def Coding.covers : Coding → CodePoint → Bool
  | .ascii, c => decide (c.value < 0x80)
  | .utf8, c => !c.isSurrogate

/-- Why a coding does not cover a code point. -/
def Coding.limit : Coding → String
  | .ascii => "ordinal not in range(128)"
  | .utf8 => "surrogates not allowed"

/-- The first stretch of a text that a coding does not cover: where it starts, its first code point, and how
many more follow. -/
structure Unencodable where
  coding : Coding
  position : Nat
  first : CodePoint
  more : Nat
  deriving DecidableEq, Repr

/-- What keeps a text from being written in a coding, if anything does. -/
def unencodable? (coding : Coding) (t : Text) : Option Unencodable :=
  match t.dropWhile coding.covers with
  | [] => none
  | c :: rest =>
    some ⟨coding, (t.takeWhile coding.covers).length, c, (rest.takeWhile (!coding.covers ·)).length⟩

/-- The wording: the code point or the stretch, and why it has no bytes. -/
def Unencodable.message (u : Unencodable) : String :=
  let place :=
    if u.more == 0 then
      "character '" ++ String.ofList (escaped u.first.value) ++ s!"' in position {u.position}"
    else s!"characters in position {u.position}-{u.position + u.more}"
  s!"'{u.coding.name}' codec can't encode {place}: {u.coding.limit}"

end BlockNotebook.Text
