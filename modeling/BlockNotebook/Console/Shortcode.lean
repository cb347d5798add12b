import BlockNotebook.Console.Emoji
import BlockNotebook.Text.Blank
import BlockNotebook.Text.Case
/-!
Short codes: the name of an emoji between two colons, with no blank between them.

A code may end in the presentation it asks for. A code of no emoji stays as it is.
-/

namespace BlockNotebook.Console.Emoji

open Text

/-- What stands before the closing colon of a code, after its opening one. -/
def codeInside? (t : Text) : Option Text :=
  let inside := t.takeWhile fun c => c != .char ':' && !c.satisfies isBlank
  match t.drop inside.length with
  | .char ':' :: _ => some inside
  | _ => none

/-- The presentations that a code may ask for, and the selectors they stand for. -/
def presentations : List (Text × Char) := [("-emoji", '\ufe0f'), ("-text", '\ufe0e')]

/-- The name in a code, and the selector it asks for. -/
def nameAndSelector (inside : Text) : Text × Text :=
  match presentations.find? fun p => p.1.isSuffixOf inside with
  | some (ending, selector) => (inside.take (inside.length - ending.length), [selector])
  | none => (inside, [])

/-- What a code becomes. A surrogate is in no name, nor is what stands in for it. -/
def ofCode (inside : Text) : Text :=
  let (name, selector) := nameAndSelector inside
  match ofName? (lower name).characters with
  | some emoji => Text.ofChars emoji ++ selector
  | none => ":" ++ inside ++ ":"

/-- The rest of a text after `skip` characters of a code that is replaced already. -/
def replaceFrom (skip : Nat) : Text → Text
  | [] => []
  | c :: rest =>
    match skip with
    | skip + 1 => replaceFrom skip rest
    | 0 =>
      match if c == .char ':' then codeInside? rest else none with
      | some inside => ofCode inside ++ replaceFrom (inside.length + 1) rest
      | none => c :: replaceFrom 0 rest

/-- A text with its short codes replaced. -/
def replaceCodes (t : Text) : Text := replaceFrom 0 t

end BlockNotebook.Console.Emoji
