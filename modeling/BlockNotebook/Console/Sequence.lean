import BlockNotebook.Text.CodePoint
/-!
Sequences that steer a terminal: an escape character and a bracket, parameters, and a letter.
-/

namespace BlockNotebook.Console

def isParameter (c : Char) : Bool := c == ';' || c == '?' || ('0' ≤ c && c ≤ '9')

/-- How many characters of a sequence follow its escape character. -/
def sequenceLength? : Text → Option Nat
  | .char '[' :: rest =>
    let parameters := rest.takeWhile (·.satisfies isParameter)
    match rest.drop parameters.length with
    | c :: _ => if c.satisfies Char.isAlpha then some (parameters.length + 2) else none
    | [] => none
  | _ => none

/-- The rest of a text after `skip` characters of a sequence. -/
def dropSequences (skip : Nat) : Text → Text
  | [] => []
  | c :: rest =>
    match skip with
    | skip + 1 => dropSequences skip rest
    | 0 =>
      match if c == '\x1b' then sequenceLength? rest else none with
      | some n => dropSequences n rest
      | none => c :: dropSequences 0 rest

/-- A text without the sequences that steer a terminal. -/
def withoutSequences (t : Text) : Text := dropSequences 0 t

end BlockNotebook.Console
