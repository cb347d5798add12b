import BlockNotebook.Yaml.Token.Scalar
/-!
The tokens of a text, in order.

Whether a scalar is a key shows only at the colon after it. Until then its token
waits, with those after it, so that the key mark can go in front. A token leaves
the queue when no waiting key is at its place or before it.
-/

namespace BlockNotebook.Yaml

open Text

/-- A place where a key may have begun: the number of its token, and whether nothing else may stand there. -/
structure KeyCandidate where
  flowLevel : Int
  token : Nat
  required : Bool
  mark : Mark
  deriving Repr

/-- The state between tokens. `taken` counts the tokens that have left the queue. -/
structure Lexer where
  cursor : Cursor
  flowLevel : Int
  indent : Int
  indents : List Int
  keyAllowed : Bool
  keys : List KeyCandidate
  taken : Nat
  queue : List Token
  done : Bool

namespace Lexer

/-- The state at the start of a text, with the token for the start in the queue. -/
def start (cs : List Char) : Lexer where
  cursor := .start cs
  flowLevel := 0
  indent := -1
  indents := []
  keyAllowed := true
  keys := []
  taken := 0
  queue := [⟨.streamStart, ⟨0, 0, 0⟩, ⟨0, 0, 0⟩⟩]
  done := false

def inFlow (s : Lexer) : Bool := s.flowLevel != 0

def push (s : Lexer) (t : Token) : Lexer := { s with queue := s.queue ++ [t] }

/-- A token of no width at the current place. -/
def pushMark (s : Lexer) (kind : Token.Kind) : Lexer := s.push ⟨kind, s.cursor.mark, s.cursor.mark⟩

/-- A token of the next characters. -/
def pushNext (s : Lexer) (kind : Token.Kind) (width : Nat) : Lexer :=
  let after := s.cursor.forwardBy width
  { s.push ⟨kind, s.cursor.mark, after.mark⟩ with cursor := after }

/-! ### Keys -/

/-- A key ends on its line, within 1024 characters. -/
def isStale (s : Lexer) (k : KeyCandidate) : Bool :=
  k.mark.line != s.cursor.line || decide (1024 < s.cursor.index - k.mark.index)

/-- Give up the candidates that no colon can follow any more. -/
def dropStale (s : Lexer) : Except Fault Lexer :=
  match s.keys.find? fun k => s.isStale k && k.required with
  | some k => tokenFault .simpleKey k.mark .expectedColon s.cursor.mark
  | none => .ok { s with keys := s.keys.filter (!s.isStale ·) }

/-- The candidate at the current level. -/
def candidate? (s : Lexer) : Option KeyCandidate := s.keys.find? (·.flowLevel == s.flowLevel)

/-- Give up the candidate at the current level. -/
def dropCandidate (s : Lexer) : Except Fault Lexer :=
  match s.candidate? with
  | none => .ok s
  | some k =>
    if k.required then tokenFault .simpleKey k.mark .expectedColon s.cursor.mark
    else .ok { s with keys := s.keys.filter (·.flowLevel != s.flowLevel) }

/-- The next token may be a key. -/
def markCandidate (s : Lexer) : Except Fault Lexer :=
  if !s.keyAllowed then .ok s
  else do
    let required := !s.inFlow && s.indent == s.cursor.column
    let s ← s.dropCandidate
    let k : KeyCandidate := ⟨s.flowLevel, s.taken + s.queue.length, required, s.cursor.mark⟩
    return { s with keys := s.keys ++ [k] }

/-- The number of the first token that waits for its colon. -/
def firstWaiting? (s : Lexer) : Option Nat := (s.keys.map (·.token)).min?

/-! ### Indentation -/

/-- Close the block collections that are indented deeper than a column. -/
def unindent (s : Lexer) (column : Int) : List Int → Lexer
  | [] => s
  | outer :: rest =>
    if column < s.indent then
      unindent { s.pushMark .blockEnd with indent := outer, indents := rest } column rest
    else s

def closeBlocks (s : Lexer) (column : Int) : Lexer :=
  if s.inFlow then s else s.unindent column s.indents

/-- Open a block collection at a column, if it is deeper than those open. -/
def openBlock (s : Lexer) (column : Int) : Bool × Lexer :=
  if s.indent < column then (true, { s with indents := s.indent :: s.indents, indent := column })
  else (false, s)

/-- Open a block collection at the current column, with its token. -/
def openBlockHere (s : Lexer) (kind : Token.Kind) : Lexer :=
  match s.openBlock s.cursor.column with
  | (true, s) => s.pushMark kind
  | (false, s) => s

/-! ### Tokens -/

def streamEnd (s : Lexer) : Except Fault Lexer := do
  let s ← (s.closeBlocks (-1)).dropCandidate
  let s := { s with keyAllowed := false, keys := [] }
  return { s.pushMark .streamEnd with done := true }

def directive (s : Lexer) : Except Fault Lexer := do
  let s ← (s.closeBlocks (-1)).dropCandidate
  let (t, cur) ← scanDirective s.cursor
  return { { s with keyAllowed := false }.push t with cursor := cur }

def documentMark (s : Lexer) (kind : Token.Kind) : Except Fault Lexer := do
  let s ← (s.closeBlocks (-1)).dropCandidate
  return { s with keyAllowed := false }.pushNext kind 3

def flowStart (s : Lexer) (kind : Token.Kind) : Except Fault Lexer := do
  let s ← s.markCandidate
  return { s with flowLevel := s.flowLevel + 1, keyAllowed := true }.pushNext kind 1

def flowEnd (s : Lexer) (kind : Token.Kind) : Except Fault Lexer := do
  let s ← s.dropCandidate
  return { s with flowLevel := s.flowLevel - 1, keyAllowed := false }.pushNext kind 1

def flowEntry (s : Lexer) : Except Fault Lexer := do
  let s ← { s with keyAllowed := true }.dropCandidate
  return s.pushNext .flowEntry 1

/-- A fault at the current place that no other place explains. -/
def misplaced {α : Type} (s : Lexer) (problem : Problem) : Except Fault α :=
  .error (.at .token none none problem s.cursor.mark)

def blockEntry (s : Lexer) : Except Fault Lexer := do
  if !s.inFlow && !s.keyAllowed then s.misplaced .entryNotAllowed
  else
    let s := if s.inFlow then s else s.openBlockHere .blockSequenceStart
    let s ← { s with keyAllowed := true }.dropCandidate
    return s.pushNext .blockEntry 1

def key (s : Lexer) : Except Fault Lexer := do
  if !s.inFlow && !s.keyAllowed then s.misplaced .keyNotAllowed
  else
    let s := if s.inFlow then s else s.openBlockHere .blockMappingStart
    let s ← { s with keyAllowed := !s.inFlow }.dropCandidate
    return s.pushNext .key 1

/-- The key mark in front of a waiting token, and the start of its mapping where that is new. -/
def promote (s : Lexer) (k : KeyCandidate) : Lexer :=
  let at_ := k.token - s.taken
  let front := s.queue.take at_
  let back := s.queue.drop at_
  let mark (kind : Token.Kind) : Token := ⟨kind, k.mark, k.mark⟩
  let s := { s with keys := s.keys.filter (·.flowLevel != s.flowLevel), keyAllowed := false }
  match if s.inFlow then (false, s) else s.openBlock k.mark.column with
  | (true, s) => { s with queue := front ++ mark .blockMappingStart :: mark .key :: back }
  | (false, s) => { s with queue := front ++ mark .key :: back }

def value (s : Lexer) : Except Fault Lexer := do
  match s.candidate? with
  | some k => return (s.promote k).pushNext .value 1
  | none =>
    if !s.inFlow && !s.keyAllowed then s.misplaced .valueNotAllowed
    else
      let s := if s.inFlow then s else s.openBlockHere .blockMappingStart
      let s ← { s with keyAllowed := !s.inFlow }.dropCandidate
      return s.pushNext .value 1

/-- A token that may be a key, after which none may start. -/
def property (s : Lexer) (scan : Cursor → Except Fault (Token × Cursor)) : Except Fault Lexer := do
  let s ← s.markCandidate
  let (t, cur) ← scan s.cursor
  return { { s with keyAllowed := false }.push t with cursor := cur }

def blockScalar (s : Lexer) (folded : Bool) : Except Fault Lexer := do
  let s ← { s with keyAllowed := true }.dropCandidate
  let (t, cur) ← scanBlockScalar folded s.indent s.cursor
  return { s.push t with cursor := cur }

def plain (s : Lexer) : Except Fault Lexer := do
  let s ← s.markCandidate
  let (t, keyAllowed, cur) := scanPlain s.inFlow s.indent s.cursor
  return { { s with keyAllowed := keyAllowed }.push t with cursor := cur }

/-- The next character may begin a plain scalar. -/
def startsPlain (s : Lexer) : Bool :=
  let c := s.cursor.next
  !(isWideGap c || "-?:,[]\x7b\x7d#&*!|>'\"%@`".toList.contains c) ||
    (!isWideGap (s.cursor.peek 1) && (c == '-' || (!s.inFlow && (c == '?' || c == ':'))))

/-- Past blanks, comments and line ends; after a line end a key may start. -/
def skipToToken (s : Lexer) : Nat → Lexer
  | 0 => s
  | fuel + 1 =>
    let cur := s.cursor.skipSpaces
    let cur := if cur.next == '#' then cur.skipLine else cur
    match cur.lineBreak with
    | (some _, cur) => skipToToken { s with cursor := cur, keyAllowed := s.keyAllowed || !s.inFlow } fuel
    | (none, _) => { s with cursor := cur }

/-- Past a byte order mark at the start of the text. -/
def skipOrderMark (s : Lexer) : Lexer :=
  if s.cursor.index == 0 && s.cursor.next == '\uFEFF' then { s with cursor := s.cursor.forward } else s

/-- A document mark stands here, alone at the start of its line. -/
def atDocumentMark (s : Lexer) (c : Char) : Bool :=
  s.cursor.next == c && s.cursor.column == 0 && s.cursor.atSeparator

/-- Read the next token into the queue, with those it implies. -/
def fetch (s : Lexer) : Except Fault Lexer := do
  let s := s.skipOrderMark
  let s ← (s.skipToToken (s.cursor.rest.length + 1)).dropStale
  let s := s.closeBlocks s.cursor.column
  let c := s.cursor.next
  let alone := isWideGap (s.cursor.peek 1)
  if c == '\x00' then s.streamEnd
  else if c == '%' && s.cursor.column == 0 then s.directive
  else if s.atDocumentMark '-' then s.documentMark .documentStart
  else if s.atDocumentMark '.' then s.documentMark .documentEnd
  else if c == '[' then s.flowStart .flowSequenceStart
  else if c == '\x7b' then s.flowStart .flowMappingStart
  else if c == ']' then s.flowEnd .flowSequenceEnd
  else if c == '\x7d' then s.flowEnd .flowMappingEnd
  else if c == ',' then s.flowEntry
  else if c == '-' && alone then s.blockEntry
  else if c == '?' && (s.inFlow || alone) then s.key
  else if c == ':' && (s.inFlow || alone) then s.value
  else if c == '*' then s.property (scanAnchor .aliasName .aliasOf)
  else if c == '&' then s.property (scanAnchor .anchor .anchor)
  else if c == '!' then s.property scanTag
  else if c == '|' && !s.inFlow then s.blockScalar false
  else if c == '>' && !s.inFlow then s.blockScalar true
  else if c == '\'' then s.property (scanQuoted false)
  else if c == '"' then s.property (scanQuoted true)
  else if s.startsPlain then s.plain
  else .error (.at .token (some .nextToken) none (.cannotStart c) s.cursor.mark)

/-- The first token of the queue, if no key can come to stand in front of it; else the state after one more token. -/
def step (s : Lexer) : Except Fault (Option Token × Lexer) :=
  match s.queue with
  | [] => s.fetch.map (none, ·)
  | t :: rest =>
    let leave (s : Lexer) : Option Token × Lexer := (some t, { s with queue := rest, taken := s.taken + 1 })
    if s.done then .ok (leave s)
    else do
      let s ← s.dropStale
      if s.firstWaiting? == some s.taken then s.fetch.map (none, ·) else return leave s

/-- The tokens from a state on. -/
def run : Nat → Lexer → Stream Token
  | 0, _ => ⟨[], none⟩
  | fuel + 1, s =>
    if s.done && s.queue.isEmpty then ⟨[], none⟩
    else
      match s.step with
      | .error e => ⟨[], some e⟩
      | .ok (none, s) => run fuel s
      | .ok (some t, s) => (run fuel s).cons t

end Lexer

/-- A bound on the steps of reading `n` characters: each token takes a character, and few tokens come with another. -/
def tokenSteps (n : Nat) : Nat := 8 * n + 16

/-- The tokens of a text. -/
def tokens (cs : List Char) : Stream Token := (Lexer.start cs).run (tokenSteps cs.length)

end BlockNotebook.Yaml
