import BlockNotebook.Block.Shape
import BlockNotebook.Text.Lines
/-!
What is wrong with a document, in words.

A finding names its place by a path without the names of arms, and hints at the
block or the notebook it belongs to.
-/

namespace BlockNotebook

open Schema

namespace Schema

def Segment.text : Segment → Text
  | .key name => name
  | .index i => toString i
  | .flag b => if b then "True" else "False"

namespace Path

/-- The segments with points between. -/
def joined (p : Path) : Text := Text.joinWith "." (p.map Segment.text)

/-- The name of an arm stands after an index in the list of a tagged shape. -/
def isArm (list index : Option Segment) (s : Segment) : Bool :=
  match list, index, s with
  | some (.key list), some (.index _), .key name =>
    Block.armNames.any fun (owner, arms) => list == owner && arms.any fun (arm : String) => name == arm
  | _, _, _ => false

/-- The path from a place on, without the names of arms; the two segments before it are given. -/
def withoutArmsAfter (list index : Option Segment) : Path → Path
  | [] => []
  | s :: rest =>
    if isArm list index s then withoutArmsAfter index (some s) rest
    else s :: withoutArmsAfter index (some s) rest

/-- The path in the document itself, where arms have no place. -/
def withoutArms (p : Path) : Path := withoutArmsAfter none none p

/-- The index that follows the first segment of a name. -/
def indexAfter? (name : Text) (p : Path) : Option Int :=
  match p.dropWhile (· != .key name) with
  | _ :: .index i :: _ => some i
  | _ => none

end Path

end Schema

/-- One thing that is wrong: where, what, and a short name of what. -/
structure Finding where
  path : Path
  message : Text
  code : Text
  deriving DecidableEq, Repr

namespace Finding

def ofIssue (i : Issue) : Finding := ⟨i.path.withoutArms, i.cause.message, i.cause.code⟩

/-- The block a finding belongs to, or else the notebook. -/
def hint (f : Finding) : String :=
  match f.path.indexAfter? "blocks", f.path.indexAfter? "notebooks" with
  | some i, _ => s!" (block index: {i})"
  | none, some i => s!" (notebook index: {i})"
  | none, none => ""

/-- How many findings a message lists. -/
def maxListed : Nat := 5

def place (f : Finding) : Text := if f.path.joined.isEmpty then "(root)" else f.path.joined

/-- The line of a finding in a message. -/
def line (number : Nat) (f : Finding) : Text :=
  s!"  {number}. [" ++ f.place ++ "] " ++ f.message ++ f.hint

/-- The first findings, one a line, and how many more there are. -/
def listing (fs : List Finding) : Text :=
  let shown := (fs.take maxListed).mapIdx fun i f => f.line (i + 1)
  let more := fs.length - maxListed
  let rest : List Text := if more == 0 then [] else [s!"  ... and {more} more issue(s)"]
  Text.joinWith "\n" (shown ++ rest)

/-- The message about all findings. -/
def report (fs : List Finding) : Text := "Failed to parse the Deepnote file:\n" ++ listing fs

/-- The message about the first finding. -/
def firstMessage : List Finding → Text
  | [] => "Invalid Deepnote file"
  | f :: _ => if f.path.joined.isEmpty then f.message else f.path.joined ++ ": " ++ f.message

end Finding

end BlockNotebook
