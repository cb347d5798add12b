import BlockNotebook.Text.Lines
import BlockNotebook.Text.Split
import BlockNotebook.Text.Unencodable
/-!
Names of files, as they are shown and looked up.

A name is bytes to the system: a null byte would end it, and a surrogate has no bytes, unless it
stands for a byte that is no text.
-/

namespace BlockNotebook.CommandLine

open Text

/-- What a name begins with that does not begin at the current folder. Two slashes are kept. -/
def rootOf (t : Text) : String :=
  match (t.takeWhile (· == .char '/')).length with
  | 0 => ""
  | 2 => "//"
  | _ => "/"

/-- The parts of a name that are neither empty nor a single point. -/
def partsOf (t : Text) : List Text := (split (.char '/') t).filter fun part => part != [] && part != "."

/-- The name without the parts that say nothing. The current folder is a point. -/
def fileName (name : Text) : Text :=
  let shown := rootOf name ++ joinWith "/" (partsOf name)
  if shown.isEmpty then "." else shown

/-- The surrogate stands for one of the bytes from 0x80 on. -/
def isStrayByte (c : CodePoint) : Bool := 0xDC80 ≤ c.value && c.value ≤ 0xDCFF

/-- Why a text can be the name of no file. -/
inductive NameFault
  | nullByte
  | noBytes (stretch : Unencodable)
  deriving DecidableEq, Repr

def NameFault.message : NameFault → String
  | .nullByte => "embedded null byte"
  | .noBytes stretch => stretch.message

/-- What keeps a text from being the name of a file, if anything does. Once a surrogate has no bytes, all the
surrogates next to it count as one stretch with it. -/
def nameFault? (t : Text) : Option NameFault :=
  let hasBytes (c : CodePoint) : Bool := !c.isSurrogate || isStrayByte c
  match t.dropWhile hasBytes with
  | c :: rest =>
    some (.noBytes ⟨.utf8, (t.takeWhile hasBytes).length, c, (rest.takeWhile CodePoint.isSurrogate).length⟩)
  | [] => if t.contains (.char '\x00') then some .nullByte else none

/-- A file as it is found under a name. -/
inductive Found
  | text (t : Text)
  | nothing
  /-- The name, or a part of it, is longer than the system allows. -/
  | tooLong
  deriving DecidableEq, Repr

def Found.text? : Found → Option Text
  | .text t => some t
  | _ => none

end BlockNotebook.CommandLine
