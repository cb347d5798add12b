import BlockNotebook.Text.Unencodable
import BlockNotebook.Text.Utf8
import BlockNotebook.Text.Base64
import BlockNotebook.Calendar
/-!
Places in a YAML text, and what can be wrong there.

A fault is a cause with the places it concerns; `Fault.message` is the only
wording. It shows each place by the line around it.
-/

namespace BlockNotebook.Yaml

open Text

/-- A place in a text: the characters before it, the lines before it, and the column. -/
structure Mark where
  index : Nat
  line : Nat
  column : Nat
  deriving DecidableEq, Repr, Inhabited

/-- The characters that end a line. -/
def isBreak (c : Char) : Bool :=
  c == '\r' || c == '\n' || c == '\u0085' || c == '\u2028' || c == '\u2029'

/-- A line end, or the end of the text. -/
def isBreakOrEnd (c : Char) : Bool := c == '\x00' || isBreak c

/-- The kinds of node. -/
inductive NodeKind
  | scalar
  | sequence
  | mapping
  deriving DecidableEq, Repr

def NodeKind.name : NodeKind → String
  | .scalar => "scalar"
  | .sequence => "sequence"
  | .mapping => "mapping"

/-- What was being read when a fault was met. -/
inductive Activity
  | nextToken
  | simpleKey
  | directive
  | directiveUri
  | aliasName
  | anchor
  | tag
  | tagUri
  | blockScalar
  | doubleQuoted
  | quoted
  | node
  | blockNode
  | flowNode
  | blockCollection
  | blockMapping
  | flowSequence
  | flowMapping
  | singleDocument
  | anchorOnce (name : String)
  | mappingValue
  | orderedMap
  | pairs
  deriving DecidableEq, Repr

def Activity.message : Activity → String
  | .nextToken => "while scanning for the next token"
  | .simpleKey => "while scanning a simple key"
  | .directive => "while scanning a directive"
  | .directiveUri => "while parsing a directive"
  | .aliasName => "while scanning an alias"
  | .anchor => "while scanning an anchor"
  | .tag => "while scanning a tag"
  | .tagUri => "while parsing a tag"
  | .blockScalar => "while scanning a block scalar"
  | .doubleQuoted => "while scanning a double-quoted scalar"
  | .quoted => "while scanning a quoted scalar"
  | .node => "while parsing a node"
  | .blockNode => "while parsing a block node"
  | .flowNode => "while parsing a flow node"
  | .blockCollection => "while parsing a block collection"
  | .blockMapping => "while parsing a block mapping"
  | .flowSequence => "while parsing a flow sequence"
  | .flowMapping => "while parsing a flow mapping"
  | .singleDocument => "expected a single document in the stream"
  | .anchorOnce name => s!"found duplicate anchor {quote name}; first occurrence"
  | .mappingValue => "while constructing a mapping"
  | .orderedMap => "while constructing an ordered map"
  | .pairs => "while constructing pairs"

/-- What is wrong at a place. `token` is the name of a token that was met. -/
inductive Problem
  | cannotStart (c : Char)
  | expectedColon
  | entryNotAllowed
  | keyNotAllowed
  | valueNotAllowed
  | expectedNameChar (c : Char)
  | expectedDigitOrDot (c : Char)
  | expectedDigitOrSpace (c : Char)
  | expectedDigit (c : Char)
  | expectedSpace (c : Char)
  | expectedLineEnd (c : Char)
  | expectedTagEnd (c : Char)
  | expectedHandle (c : Char)
  | expectedUri (c : Char)
  | expectedUriEscape (c : Char)
  | notUtf8 (fault : Utf8.Fault)
  | zeroIndentation
  | expectedBlockIndicator (c : Char)
  | expectedHex (count : Nat) (c : Char)
  | unknownEscape (c : Char)
  | endOfText
  | documentSeparator
  | expectedDocumentStart (token : String)
  | duplicateVersion
  | incompatibleVersion
  | duplicateHandle (handle : String)
  | undefinedHandle (handle : String)
  | expectedContent (token : String)
  | expectedBlockEnd (token : String)
  | expectedCommaOrBracket (token : String)
  | expectedCommaOrBrace (token : String)
  | undefinedAlias (name : String)
  | secondOccurrence
  | anotherDocument
  | unknownTag (tag : String)
  | expectedNode (expected met : NodeKind)
  | unhashableKey
  | expectedMerge (met : NodeKind)
  | expectedMergeItem (met : NodeKind)
  | expectedSequence (met : NodeKind)
  | expectedSingle (met : NodeKind)
  | expectedSingleItem (count : Nat)
  | notAscii (stretch : Unencodable)
  | notBase64 (fault : Base64.Fault)
  deriving DecidableEq, Repr

def shownChar (c : Char) : String := quote [.char c]

def Problem.message : Problem → String
  | .cannotStart c => s!"found character {shownChar c} that cannot start any token"
  | .expectedColon => "could not find expected ':'"
  | .entryNotAllowed => "sequence entries are not allowed here"
  | .keyNotAllowed => "mapping keys are not allowed here"
  | .valueNotAllowed => "mapping values are not allowed here"
  | .expectedNameChar c => s!"expected alphabetic or numeric character, but found {shownChar c}"
  | .expectedDigitOrDot c => s!"expected a digit or '.', but found {shownChar c}"
  | .expectedDigitOrSpace c => s!"expected a digit or ' ', but found {shownChar c}"
  | .expectedDigit c => s!"expected a digit, but found {shownChar c}"
  | .expectedSpace c => s!"expected ' ', but found {shownChar c}"
  | .expectedLineEnd c => s!"expected a comment or a line break, but found {shownChar c}"
  | .expectedTagEnd c => s!"expected '>', but found {shownChar c}"
  | .expectedHandle c => s!"expected '!', but found {shownChar c}"
  | .expectedUri c => s!"expected URI, but found {shownChar c}"
  | .expectedUriEscape c =>
    s!"expected URI escape sequence of 2 hexadecimal numbers, but found {shownChar c}"
  | .notUtf8 f => f.message
  | .zeroIndentation => "expected indentation indicator in the range 1-9, but found 0"
  | .expectedBlockIndicator c => s!"expected chomping or indentation indicators, but found {shownChar c}"
  | .expectedHex n c => s!"expected escape sequence of {n} hexadecimal numbers, but found {shownChar c}"
  | .unknownEscape c => s!"found unknown escape character {shownChar c}"
  | .endOfText => "found unexpected end of stream"
  | .documentSeparator => "found unexpected document separator"
  | .expectedDocumentStart t => s!"expected '<document start>', but found {quote t}"
  | .duplicateVersion => "found duplicate YAML directive"
  | .incompatibleVersion => "found incompatible YAML document (version 1.* is required)"
  | .duplicateHandle h => s!"duplicate tag handle {quote h}"
  | .undefinedHandle h => s!"found undefined tag handle {quote h}"
  | .expectedContent t => s!"expected the node content, but found {quote t}"
  | .expectedBlockEnd t => s!"expected <block end>, but found {quote t}"
  | .expectedCommaOrBracket t => s!"expected ',' or ']', but got {quote t}"
  | .expectedCommaOrBrace t => "expected ',' or '\x7d', but got " ++ quote t
  | .undefinedAlias n => s!"found undefined alias {quote n}"
  | .secondOccurrence => "second occurrence"
  | .anotherDocument => "but found another document"
  | .unknownTag t => s!"could not determine a constructor for the tag {quote t}"
  | .expectedNode e m => s!"expected a {e.name} node, but found {m.name}"
  | .unhashableKey => "found unhashable key"
  | .expectedMerge m => s!"expected a mapping or list of mappings for merging, but found {m.name}"
  | .expectedMergeItem m => s!"expected a mapping for merging, but found {m.name}"
  | .expectedSequence m => s!"expected a sequence, but found {m.name}"
  | .expectedSingle m => s!"expected a mapping of length 1, but found {m.name}"
  | .expectedSingleItem n => s!"expected a single mapping item, but found {n} items"
  | .notAscii u => "failed to convert base64 data into ascii: " ++ u.message
  | .notBase64 f => s!"failed to decode base64 data: {f.message}"

/-- A scalar that its tag cannot take. -/
inductive ScalarFault
  | number (fault : Number.Fault)
  | calendar (fault : Calendar.Fault)
  /-- A number without a digit. -/
  | noDigits
  | notFlag (text : Text)
  | notTimestamp
  /-- A timestamp given by a mapping. -/
  | timestampNotText
  /-- An escape that names no code point. -/
  | noCodePoint (n : Nat)
  deriving DecidableEq, Repr

def ScalarFault.message : ScalarFault → Text
  | .number f => f.message
  | .calendar f => f.message
  | .noDigits => "string index out of range"
  | .notFlag t => quote t
  | .notTimestamp => "'NoneType' object has no attribute 'groupdict'"
  | .timestampNotText => "expected string or bytes-like object, got 'list'"
  | .noCodePoint n =>
    if n < 0x80000000 then "chr() arg not in range(0x110000)"
    else "Python int too large to convert to C int"

/-- The stage that meets a fault. -/
inductive Stage
  | token
  | event
  | node
  | value
  deriving DecidableEq, Repr

/-- What is wrong with a text. -/
inductive Fault
  /-- A code point that no YAML text may hold, and how many are before it. -/
  | unacceptable (c : CodePoint) (position : Nat)
  /-- A problem at a place, met while something that began at another place was read. -/
  | at (stage : Stage) (activity : Option Activity) (since : Option Mark) (problem : Problem) (mark : Mark)
  | scalar (fault : ScalarFault)
  deriving DecidableEq, Repr

/-! ## Wording -/

/-- The name of the text in messages. -/
def sourceName : String := "<unicode string>"

/-- The characters before a place on its line, nearest first: at most a window of them, and whether more were cut off. -/
def before (cs : List Char) (index : Nat) : List Char × Bool :=
  let line := ((cs.take index).reverse).takeWhile (!isBreakOrEnd ·)
  if 36 < line.length then (line.take 32, true) else (line, false)

/-- The characters from a place to the end of its line: at most a window of them, and whether more were cut off. -/
def after (cs : List Char) (index : Nat) : List Char × Bool :=
  let line := (cs.drop index).takeWhile (!isBreakOrEnd ·)
  if 36 < line.length then (line.take 32, true) else (line, false)

/-- The line around a place with a caret below the place. -/
def snippet (cs : List Char) (m : Mark) : List Char :=
  let (left, cutLeft) := before cs m.index
  let (right, cutRight) := after cs m.index
  let dots := [' ', '.', '.', '.', ' ']
  let indent := List.replicate 4 ' '
  let head := if cutLeft then dots else []
  indent ++ head ++ left.reverse ++ right ++ (if cutRight then dots else []) ++
    '\n' :: indent ++ List.replicate (left.length + head.length) ' ' ++ ['^']

/-- A place in words, with its line. -/
def Mark.message (cs : List Char) (m : Mark) : String :=
  s!"  in \"{sourceName}\", line {m.line + 1}, column {m.column + 1}:\n" ++ String.ofList (snippet cs m)

/-- The wording of a fault in a text. The place where the activity began is left out if the problem is there. -/
def Fault.message (source : Text) : Fault → Text
  | .unacceptable c position =>
    "unacceptable character #x" ++ String.ofList (hex 4 c.value) ++
      s!": special characters are not allowed\n  in \"{sourceName}\", position {position}"
  | .at _ activity since problem mark =>
    let cs := source.characters
    let context := (activity.map fun a => [a.message]).getD []
    let place :=
      match since with
      | none => []
      | some m => if m.line == mark.line && m.column == mark.column then [] else [m.message cs]
    String.intercalate "\n" (context ++ place ++ [problem.message, mark.message cs])
  | .scalar f => f.message

end BlockNotebook.Yaml
