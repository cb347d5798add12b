import BlockNotebook.Yaml.Token.Basic
import BlockNotebook.Text.Digit
import BlockNotebook.Number.Reading
/-!
Directives, anchors, aliases and tags.
-/

namespace BlockNotebook.Yaml

open Text

/-- The characters of anchors, handles and directive names. -/
def isNameChar (c : Char) : Bool := isAsciiDigit c || isAsciiLetter c || c == '-' || c == '_'

/-- The characters of a tag's address that stand for themselves. -/
def isUriChar (c : Char) : Bool :=
  isAsciiDigit c || isAsciiLetter c || "-;/?:@&=+$,_.!~*'()[]".toList.contains c

def isHexDigit (c : Char) : Bool :=
  isAsciiDigit c || (decide ('a' ≤ c) && decide (c ≤ 'f')) || (decide ('A' ≤ c) && decide (c ≤ 'F'))

/-- The value of digits in base sixteen. -/
def hexValue (cs : List Char) : Nat := cs.foldl (fun n c => n * 16 + (alphanumericValue? c).getD 0) 0

/-- Escaped bytes in a row, each a percent sign and two digits. -/
def uriBytes (activity : Activity) (since : Mark) : Nat → Cursor → Except Fault (List UInt8 × Cursor)
  | 0, cur => .ok ([], cur)
  | fuel + 1, cur =>
    if cur.next != '%' then .ok ([], cur)
    else
      let cur := cur.forward
      if !isHexDigit (cur.peek 0) then tokenFault activity since (.expectedUriEscape (cur.peek 0)) cur.mark
      else if !isHexDigit (cur.peek 1) then tokenFault activity since (.expectedUriEscape (cur.peek 1)) cur.mark
      else do
        let (rest, after) ← uriBytes activity since fuel (cur.forwardBy 2)
        return (UInt8.ofNat (hexValue [cur.peek 0, cur.peek 1]) :: rest, after)

/-- The pieces of an address: runs of plain characters, and escaped bytes as the text they spell. -/
def uriPieces (activity : Activity) (since : Mark) : Nat → Cursor → Except Fault (List Char × Cursor)
  | 0, cur => .ok ([], cur)
  | fuel + 1, cur =>
    let (run, cur) := cur.span isUriChar
    if cur.next == '%' then do
      let (bytes, after) ← uriBytes activity since (cur.rest.length + 1) cur
      match Utf8.decode bytes with
      | .error f => tokenFault activity since (.notUtf8 f) cur.mark
      | .ok cs =>
        let (rest, after) ← uriPieces activity since fuel after
        return (run ++ cs ++ rest, after)
    else .ok (run, cur)

/-- The address of a tag; it has at least one character. -/
def uri (scanning parsing : Activity) (since : Mark) (cur : Cursor) : Except Fault (String × Cursor) := do
  let (cs, after) ← uriPieces scanning since (cur.rest.length + 1) cur
  if cur.index == after.index then tokenFault parsing since (.expectedUri after.next) after.mark
  else return (String.ofList cs, after)

/-- A handle: an exclamation mark, or two with a name between. -/
def handle (activity : Activity) (since : Mark) (cur : Cursor) : Except Fault (String × Cursor) :=
  if cur.next != '!' then tokenFault activity since (.expectedHandle cur.next) cur.mark
  else if cur.peek 1 == ' ' then .ok ("!", cur.forward)
  else
    let (name, after) := cur.forward.span isNameChar
    if after.next != '!' then tokenFault activity since (.expectedHandle after.next) after.mark
    else .ok (String.ofList ('!' :: name ++ ['!']), after.forward)

/-- The rest of a directive's line: nothing, or a comment. -/
def ignoredLine (activity : Activity) (since : Mark) (cur : Cursor) : Except Fault Cursor :=
  let cur := cur.skipSpaces
  let cur := if cur.next == '#' then cur.skipLine else cur
  if isBreakOrEnd cur.next then .ok cur.lineBreak.2
  else tokenFault activity since (.expectedLineEnd cur.next) cur.mark

def versionNumber (since : Mark) (cur : Cursor) : Except Fault (Nat × Cursor) :=
  if !isAsciiDigit cur.next then tokenFault .directive since (.expectedDigit cur.next) cur.mark
  else
    let (ds, after) := cur.span isAsciiDigit
    if Number.maxDigits < ds.length then .error (.scalar (.number (.tooManyDigits ds.length)))
    else .ok (Number.digitsValue ds, after)

def version (since : Mark) (cur : Cursor) : Except Fault (Directive × Cursor) := do
  let (major, cur) ← versionNumber since cur.skipSpaces
  if cur.next != '.' then tokenFault .directive since (.expectedDigitOrDot cur.next) cur.mark
  else
    let (minor, cur) ← versionNumber since cur.forward
    if isGap cur.next then return (.version major minor, cur)
    else tokenFault .directive since (.expectedDigitOrSpace cur.next) cur.mark

def tagHandle (since : Mark) (cur : Cursor) : Except Fault (Directive × Cursor) := do
  let (name, cur) ← handle .directive since cur.skipSpaces
  if cur.next != ' ' then tokenFault .directive since (.expectedSpace cur.next) cur.mark
  else
    let (stem, cur) ← uri .directive .directiveUri since cur.skipSpaces
    if isGap cur.next then return (.tagHandle name stem, cur)
    else tokenFault .directive since (.expectedSpace cur.next) cur.mark

/-- A directive, from its percent sign to the end of its line. -/
def scanDirective (cur : Cursor) : Except Fault (Token × Cursor) := do
  let since := cur.mark
  let (name, cur) := cur.forward.span isNameChar
  if name.isEmpty || !isGap cur.next then
    tokenFault .directive since (.expectedNameChar cur.next) cur.mark
  else
    let name := String.ofList name
    let (d, stop, cur) ←
      if name == "YAML" then (version since cur).map fun r => (r.1, r.2.mark, r.2)
      else if name == "TAG" then (tagHandle since cur).map fun r => (r.1, r.2.mark, r.2)
      else .ok (.other name, cur.mark, cur.skipLine)
    let cur ← ignoredLine .directive since cur
    return (⟨.directive d, since, stop⟩, cur)

/-- An anchor or an alias, from its mark on. -/
def scanAnchor (activity : Activity) (make : String → Token.Kind) (cur : Cursor) : Except Fault (Token × Cursor) :=
  let since := cur.mark
  let (name, cur) := cur.forward.span isNameChar
  let ends := isWideGap cur.next || "?:,]\x7d%@`".toList.contains cur.next
  if name.isEmpty || !ends then tokenFault activity since (.expectedNameChar cur.next) cur.mark
  else .ok (⟨make (String.ofList name), since, cur.mark⟩, cur)

/-- The characters from here to the next gap hold an exclamation mark. -/
def hasHandle (cur : Cursor) : Bool := (cur.rest.takeWhile (!isGap ·)).contains '!'

/-- The parts of a tag, from its exclamation mark on. -/
def tagParts (since : Mark) (cur : Cursor) : Except Fault (TagText × Cursor) :=
  let c := cur.peek 1
  if c == '<' then do
    let (suffix, cur) ← uri .tag .tagUri since (cur.forwardBy 2)
    if cur.next != '>' then tokenFault .tagUri since (.expectedTagEnd cur.next) cur.mark
    else return (⟨none, suffix⟩, cur.forward)
  else if isWideGap c then .ok (⟨none, "!"⟩, cur.forward)
  else do
    let (name, cur) ← if hasHandle cur.forward then handle .tag since cur else .ok ("!", cur.forward)
    let (suffix, cur) ← uri .tag .tagUri since cur
    return (⟨some name, suffix⟩, cur)

def scanTag (cur : Cursor) : Except Fault (Token × Cursor) := do
  let since := cur.mark
  let (text, cur) ← tagParts since cur
  if isGap cur.next then return (⟨.tag text, since, cur.mark⟩, cur)
  else tokenFault .tag since (.expectedSpace cur.next) cur.mark

end BlockNotebook.Yaml
