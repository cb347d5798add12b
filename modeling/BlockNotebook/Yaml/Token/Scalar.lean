import BlockNotebook.Yaml.Token.Tag
/-!
Scalars: block scalars, quoted scalars and plain ones, each with its line folding.
-/

namespace BlockNotebook.Yaml

open Text

/-! ## Block scalars -/

/-- What becomes of the line ends after a block scalar. -/
inductive Chomping
  | strip
  | clip
  | keep
  deriving DecidableEq

/-- The header of a block scalar: chomping, and the depth of indentation if it is given. -/
structure BlockHeader where
  chomping : Chomping
  depth : Option Nat

def chompingOf? (c : Char) : Option Chomping :=
  if c == '+' then some .keep else if c == '-' then some .strip else none

/-- A digit for the depth of indentation, if there is one. -/
def depthDigit (since : Mark) (cur : Cursor) : Except Fault (Option Nat × Cursor) :=
  let c := cur.next
  if !isAsciiDigit c then .ok (none, cur)
  else if c == '0' then tokenFault .blockScalar since .zeroIndentation cur.mark
  else .ok (some (c.toNat - 48), cur.forward)

/-- The two indicators of a header, in either order. -/
def blockIndicators (since : Mark) (cur : Cursor) : Except Fault (BlockHeader × Cursor) :=
  match chompingOf? cur.next with
  | some chomping => do
    let (depth, cur) ← depthDigit since cur.forward
    return (⟨chomping, depth⟩, cur)
  | none => do
    let (depth, cur) ← depthDigit since cur
    match depth, chompingOf? cur.next with
    | some d, some chomping => return (⟨chomping, some d⟩, cur.forward)
    | depth, _ => return (⟨.clip, depth⟩, cur)

def blockHeader (since : Mark) (cur : Cursor) : Except Fault (BlockHeader × Cursor) := do
  let (header, cur) ← blockIndicators since cur
  if !isGap cur.next then tokenFault .blockScalar since (.expectedBlockIndicator cur.next) cur.mark
  else
    let cur ← ignoredLine .blockScalar since cur
    return (header, cur)

/-- Line ends in a row, the place after the last of them, and the position after the spaces that follow. -/
structure Breaks where
  breaks : List Char
  stop : Mark
  cursor : Cursor

/-- Blank lines before a scalar whose depth is not given; also the depth of the deepest of them. -/
def leadingBreaks : Nat → Mark → Nat → Cursor → Breaks × Nat
  | 0, stop, deepest, cur => (⟨[], stop, cur⟩, deepest)
  | fuel + 1, stop, deepest, cur =>
    if cur.next == ' ' then
      let cur := cur.forward
      leadingBreaks fuel stop (max deepest cur.column) cur
    else
      match cur.lineBreak with
      | (some b, after) =>
        let (r, deepest) := leadingBreaks fuel after.mark deepest after
        ({ r with breaks := b :: r.breaks }, deepest)
      | (none, _) => (⟨[], stop, cur⟩, deepest)

/-- Past spaces, up to a column. -/
def skipIndentation (depth : Nat) : Nat → Cursor → Cursor
  | 0, cur => cur
  | fuel + 1, cur =>
    if cur.column < depth && cur.next == ' ' then skipIndentation depth fuel cur.forward else cur

/-- Blank lines inside a scalar of the given depth. -/
def innerBreaks (depth : Nat) : Nat → Mark → Cursor → Breaks
  | 0, stop, cur => ⟨[], stop, cur⟩
  | fuel + 1, stop, cur =>
    let cur := skipIndentation depth depth cur
    match cur.lineBreak with
    | (some b, after) =>
      let r := innerBreaks depth fuel after.mark after
      { r with breaks := b :: r.breaks }
    | (none, _) => ⟨[], stop, cur⟩

/-- The text of a block scalar up to its last line, the end of that line, and the line ends after it. -/
structure BlockText where
  text : List Char
  lastBreak : List Char
  tail : Breaks

/-- The lines of a block scalar from a position on, `breaks` being the blank lines before it. -/
def blockLines (folded : Bool) (depth : Nat) : Nat → List Char → Breaks → BlockText
  | 0, lastBreak, tail => ⟨[], lastBreak, tail⟩
  | fuel + 1, lastBreak, tail =>
    let cur := tail.cursor
    if cur.column != depth || cur.next == '\x00' then ⟨[], lastBreak, tail⟩
    else
      let folds := folded && !(cur.next == ' ' || cur.next == '\t')
      let (line, cur) := cur.span (!isBreak ·)
      let (lineEnd, cur) := cur.lineBreak
      let next := innerBreaks depth (cur.rest.length + 1) cur.mark cur
      let ahead := next.cursor.next
      let lineEnd := lineEnd.toList
      let goesOn := next.cursor.column == depth && ahead != '\x00'
      let joint :=
        if !goesOn then []
        else if folds && lineEnd == ['\n'] && !(ahead == ' ' || ahead == '\t') then
          (if next.breaks.isEmpty then [' '] else [])
        else lineEnd
      let r := blockLines folded depth fuel lineEnd next
      { r with text := tail.breaks ++ line ++ joint ++ r.text }

/-- A block scalar in a collection of the given indentation. -/
def scanBlockScalar (folded : Bool) (indent : Int) (cur : Cursor) : Except Fault (Token × Cursor) := do
  let since := cur.mark
  let (header, cur) ← blockHeader since cur.forward
  let least := (max (indent + 1) 1).toNat
  let fuel := cur.rest.length + 1
  let (first, depth) :=
    match header.depth with
    | none =>
      let (first, deepest) := leadingBreaks fuel cur.mark 0 cur
      (first, max least deepest)
    | some d => (innerBreaks (least + d - 1) fuel cur.mark cur, least + d - 1)
  let r := blockLines folded depth fuel [] first
  let ending := if header.chomping == .strip then [] else r.lastBreak
  let extra := if header.chomping == .keep then r.tail.breaks else []
  return (⟨.scalar (ofChars (r.text ++ ending ++ extra)) false, since, r.tail.stop⟩, r.tail.cursor)

/-! ## Quoted scalars -/

/-- The character a one-letter escape stands for. -/
def escape? (c : Char) : Option Char :=
  if c == '0' then some '\x00'
  else if c == 'a' then some '\x07'
  else if c == 'b' then some '\x08'
  else if c == 't' || c == '\t' then some '\t'
  else if c == 'n' then some '\n'
  else if c == 'v' then some '\x0b'
  else if c == 'f' then some '\x0c'
  else if c == 'r' then some '\r'
  else if c == 'e' then some '\x1b'
  else if c == ' ' || c == '"' || c == '\\' || c == '/' then some c
  else if c == 'N' then some '\u0085'
  else if c == '_' then some '\u00a0'
  else if c == 'L' then some '\u2028'
  else if c == 'P' then some '\u2029'
  else none

/-- The number of digits after the letter of a numeric escape. -/
def escapeDigits? (c : Char) : Option Nat :=
  if c == 'x' then some 2 else if c == 'u' then some 4 else if c == 'U' then some 8 else none

/-- The code point of an escape. Two surrogates in a row stay two. -/
def numericEscape (n : Nat) : Except Fault CodePoint :=
  match CodePoint.ofValue? n with
  | some c => .ok c
  | none => .error (.scalar (.noCodePoint n))

/-- Line ends in a row inside quotes, and the position after the blanks that follow. -/
def quotedBreaks (since : Mark) : Nat → Cursor → Except Fault (List Char × Cursor)
  | 0, cur => .ok ([], cur)
  | fuel + 1, cur =>
    if cur.atSeparator then tokenFault .quoted since .documentSeparator cur.mark
    else
      let cur := cur.skip fun c => c == ' ' || c == '\t'
      match cur.lineBreak with
      | (some b, after) => do
        let (rest, cur) ← quotedBreaks since fuel after
        return (b :: rest, cur)
      | (none, _) => .ok ([], cur)

/-- An escape in double quotes, from its backslash on. -/
def doubleEscape (since : Mark) (cur : Cursor) : Except Fault (Text × Cursor) :=
  let cur := cur.forward
  let c := cur.next
  match escape? c with
  | some x => .ok ([.char x], cur.forward)
  | none =>
    match escapeDigits? c with
    | some count =>
      let cur := cur.forward
      let ds := (List.range count).map cur.peek
      match ds.find? (!isHexDigit ·) with
      | some bad => tokenFault .doubleQuoted since (.expectedHex count bad) cur.mark
      | none => do
        let x ← numericEscape (hexValue ds)
        return ([x], cur.forwardBy count)
    | none =>
      if isBreak c then do
        let (breaks, cur) ← quotedBreaks since (cur.lineBreak.2.rest.length + 1) cur.lineBreak.2
        return (ofChars breaks, cur)
      else tokenFault .doubleQuoted since (.unknownEscape c) cur.mark

/-- A character that no run of quoted text goes past. -/
def stopsQuotedRun (c : Char) : Bool := c == '\'' || c == '"' || c == '\\' || isWideGap c

/-- The text in quotes up to the next blank or the closing quote. -/
def quotedRun (double : Bool) (since : Mark) : Nat → Cursor → Except Fault (Text × Cursor)
  | 0, cur => .ok ([], cur)
  | fuel + 1, cur => do
    let (run, cur) := cur.span (!stopsQuotedRun ·)
    let c := cur.next
    if !double && c == '\'' && cur.peek 1 == '\'' then
      let (rest, after) ← quotedRun double since fuel (cur.forwardBy 2)
      return (ofChars run ++ .char '\'' :: rest, after)
    else if (double && c == '\'') || (!double && (c == '"' || c == '\\')) then
      let (rest, after) ← quotedRun double since fuel cur.forward
      return (ofChars run ++ .char c :: rest, after)
    else if double && c == '\\' then
      let (x, cur) ← doubleEscape since cur
      let (rest, after) ← quotedRun double since fuel cur
      return (ofChars run ++ x ++ rest, after)
    else return (ofChars run, cur)

/-- Blanks in quotes; a line end among them folds. -/
def quotedGap (since : Mark) (cur : Cursor) : Except Fault (List Char × Cursor) :=
  let (blanks, cur) := cur.span fun c => c == ' ' || c == '\t'
  if cur.next == '\x00' then tokenFault .quoted since .endOfText cur.mark
  else
    match cur.lineBreak with
    | (some b, after) => do
      let (breaks, cur) ← quotedBreaks since (after.rest.length + 1) after
      let first := if b != '\n' then [b] else if breaks.isEmpty then [' '] else []
      return (first ++ breaks, cur)
    | (none, _) => .ok (blanks, cur)

/-- Runs and gaps in turn, up to the closing quote. -/
def quotedParts (double : Bool) (quote : Char) (since : Mark) : Nat → Cursor → Except Fault (Text × Cursor)
  | 0, cur => .ok ([], cur)
  | fuel + 1, cur =>
    if cur.next == quote then .ok ([], cur)
    else do
      let (gap, cur) ← quotedGap since cur
      let (run, cur) ← quotedRun double since (cur.rest.length + 1) cur
      let (rest, cur) ← quotedParts double quote since fuel cur
      return (ofChars gap ++ run ++ rest, cur)

def scanQuoted (double : Bool) (cur : Cursor) : Except Fault (Token × Cursor) := do
  let since := cur.mark
  let quote := cur.next
  let cur := cur.forward
  let (first, cur) ← quotedRun double since (cur.rest.length + 1) cur
  let (rest, cur) ← quotedParts double quote since (cur.rest.length + 1) cur
  let cur := cur.forward
  return (⟨.scalar (first ++ rest) false, since, cur.mark⟩, cur)

/-! ## Plain scalars -/

/-- A plain scalar ends before this character, given the one after it. -/
def stopsPlain (inFlow : Bool) (c following : Char) : Bool :=
  isWideGap c ||
    (c == ':' && (isWideGap following || (inFlow && ",[]\x7b\x7d".toList.contains following))) ||
    (inFlow && ",?[]\x7b\x7d".toList.contains c)

/-- The characters of a plain scalar up to the next blank or its end. -/
def plainRun (inFlow : Bool) : List Char → List Char
  | [] => []
  | c :: rest => if stopsPlain inFlow c (rest.getD 0 '\x00') then [] else c :: plainRun inFlow rest

/-- Blank lines inside a plain scalar; none if a document separator follows one. -/
def plainBreaks : Nat → Cursor → Option (List Char) × Cursor
  | 0, cur => (some [], cur)
  | fuel + 1, cur =>
    let cur := cur.skipSpaces
    match cur.lineBreak with
    | (some b, after) =>
      if after.atSeparator then (none, after)
      else
        let (rest, cur) := plainBreaks fuel after
        (rest.map (b :: ·), cur)
    | (none, _) => (some [], cur)

/-- What lies between two runs of a plain scalar: the text it folds to, if the scalar
may go on, and whether it holds a line end. -/
def plainGap (cur : Cursor) : List Char × Bool × Cursor :=
  let (blanks, cur) := cur.span (· == ' ')
  match cur.lineBreak with
  | (some b, after) =>
    if after.atSeparator then ([], true, after)
    else
      match plainBreaks (after.rest.length + 1) after with
      | (none, cur) => ([], true, cur)
      | (some breaks, cur) =>
        let first := if b != '\n' then [b] else if breaks.isEmpty then [' '] else []
        (first ++ breaks, true, cur)
  | (none, _) => (blanks, false, cur)

/-- A plain scalar part way through: its text, its last place, and whether a key may start now. -/
structure PlainText where
  text : List Char
  stop : Mark
  keyAllowed : Bool
  cursor : Cursor

def plainParts (inFlow : Bool) (indent : Int) : Nat → List Char → PlainText → PlainText
  | 0, _, r => r
  | fuel + 1, gap, r =>
    let cur := r.cursor
    let run := if cur.next == '#' then [] else plainRun inFlow cur.rest
    if run.isEmpty then r
    else
      let cur := cur.forwardBy run.length
      let (nextGap, broken, after) := plainGap cur
      let r := ⟨r.text ++ gap ++ run, cur.mark, broken, after⟩
      if nextGap.isEmpty || after.next == '#' || (!inFlow && (after.column : Int) < indent) then r
      else plainParts inFlow indent fuel nextGap r

/-- A plain scalar; also whether a key may start after it. -/
def scanPlain (inFlow : Bool) (indent : Int) (cur : Cursor) : Token × Bool × Cursor :=
  let r := plainParts inFlow (indent + 1) (cur.rest.length + 1) [] ⟨[], cur.mark, false, cur⟩
  (⟨.scalar (ofChars r.text) true, cur.mark, r.stop⟩, r.keyAllowed, r.cursor)

end BlockNotebook.Yaml
