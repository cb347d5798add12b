import BlockNotebook.Yaml.Token.Stream
/-!
The serialized tree of a YAML text: the starts and ends of its documents and
collections, its scalars and its aliases, in order.
-/

namespace BlockNotebook.Yaml

/-- How a scalar without a tag of its own gets one. -/
inductive Typing
  /-- The tag is given. -/
  | tagged (tag : String)
  /-- The tag shows from the text. -/
  | byText
  /-- The scalar is text. -/
  | asText
  deriving DecidableEq, Repr

inductive Event.Kind
  | streamStart
  | streamEnd
  | documentStart
  | documentEnd
  | aliasOf (name : String)
  | scalar (anchor : Option String) (typing : Typing) (text : Text)
  | sequenceStart (anchor tag : Option String)
  | sequenceEnd
  | mappingStart (anchor tag : Option String)
  | mappingEnd
  deriving DecidableEq, Repr

/-- An event and the place where it starts. -/
structure Event where
  kind : Event.Kind
  start : Mark
  deriving DecidableEq, Repr

/-- What may come next. -/
inductive Expectation
  | streamStart
  | implicitDocument
  | document
  | documentContent
  | documentEnd
  | blockNode
  | blockSequenceFirst
  | blockSequenceEntry
  | indentlessEntry
  | blockMappingFirst
  | blockMappingKey
  | blockMappingValue
  | flowSequenceFirst
  | flowSequenceEntry
  | flowPairKey
  | flowPairValue
  | flowPairEnd
  | flowMappingFirst
  | flowMappingKey
  | flowMappingValue
  | flowMappingNoValue
  | nothing
  deriving DecidableEq, Repr

/-- The tokens ahead, what may come next, what comes after the nodes that are open, where the
collections that are open began, and what the tag handles stand for. -/
structure EventReader where
  tokens : Stream Token
  expects : Expectation
  pending : List Expectation
  opened : List Mark
  handles : List (String × String)

namespace EventReader

def defaultHandles : List (String × String) := [("!", "!"), ("!!", "tag:yaml.org,2002:")]

def start (ts : Stream Token) : EventReader := ⟨ts, .streamStart, [], [], []⟩

/-- The next token. -/
def peek (r : EventReader) : Except Fault Token :=
  match r.tokens.items, r.tokens.fault with
  | t :: _, _ => .ok t
  | [], some f => .error f
  | [], none => .ok ⟨.streamEnd, ⟨0, 0, 0⟩, ⟨0, 0, 0⟩⟩

/-- Past the next token. -/
def drop (r : EventReader) : EventReader :=
  { r with tokens := { r.tokens with items := r.tokens.items.drop 1 } }

def expect (r : EventReader) (e : Expectation) : EventReader := { r with expects := e }

/-- What comes after this node. -/
def resume (r : EventReader) : EventReader :=
  { r with expects := r.pending.headD .nothing, pending := r.pending.drop 1 }

def defer (r : EventReader) (e : Expectation) : EventReader := { r with pending := e :: r.pending }

def open_ (r : EventReader) (m : Mark) : EventReader := { r with opened := m :: r.opened }

def close (r : EventReader) : EventReader := { r with opened := r.opened.drop 1 }.resume

def since (r : EventReader) : Mark := r.opened.headD ⟨0, 0, 0⟩

def eventFault {α : Type} (activity : Option Activity) (since : Option Mark) (problem : Problem)
    (mark : Mark) : Except Fault α :=
  .error (.at .event activity since problem mark)

/-- A node that is left out. -/
def emptyScalar (m : Mark) : Event := ⟨.scalar none .byText [], m⟩

/-! ### Documents -/

/-- The directives in front of a document. -/
def directives : Nat → Bool → EventReader → Except Fault EventReader
  | 0, _, r => .ok r
  | fuel + 1, versioned, r => do
    let t ← r.peek
    match t.kind with
    | .directive (.version major _) =>
      if versioned then eventFault none none .duplicateVersion t.start
      else if major != 1 then eventFault none none .incompatibleVersion t.start
      else directives fuel true r.drop
    | .directive (.tagHandle handle stem) =>
      if (r.handles.lookup handle).isSome then eventFault none none (.duplicateHandle handle) t.start
      else directives fuel versioned { r.drop with handles := r.handles ++ [(handle, stem)] }
    | .directive (.other _) => directives fuel versioned r.drop
    | _ => return { r with handles := r.handles ++ defaultHandles }

/-- Past the marks that end documents. -/
def dropDocumentEnds : Nat → EventReader → Except Fault EventReader
  | 0, r => .ok r
  | fuel + 1, r => do
    let t ← r.peek
    if t.kind == .documentEnd then dropDocumentEnds fuel r.drop else return r

def document (r : EventReader) : Except Fault (Event × EventReader) := do
  let r ← dropDocumentEnds (r.tokens.items.length + 1) r
  let t ← r.peek
  if t.kind == .streamEnd then return (⟨.streamEnd, t.start⟩, r.drop.expect .nothing)
  else
    let r ← directives (r.tokens.items.length + 1) false { r with handles := [] }
    let s ← r.peek
    if s.kind != .documentStart then eventFault none none (.expectedDocumentStart s.kind.name) s.start
    else return (⟨.documentStart, t.start⟩, (r.drop.defer .documentEnd).expect .documentContent)

def isDirective : Token.Kind → Bool
  | .directive _ => true
  | _ => false

def implicitDocument (r : EventReader) : Except Fault (Event × EventReader) := do
  let t ← r.peek
  if isDirective t.kind || t.kind == .documentStart || t.kind == .streamEnd then r.document
  else
    let r := { r with handles := defaultHandles }
    return (⟨.documentStart, t.start⟩, (r.defer .documentEnd).expect .blockNode)

def documentEnd (r : EventReader) : Except Fault (Event × EventReader) := do
  let t ← r.peek
  let r := if t.kind == .documentEnd then r.drop else r
  return (⟨.documentEnd, t.start⟩, r.expect .document)

/-! ### Nodes -/

/-- The anchor and the tag of a node, and the place where they start. -/
structure Properties where
  anchor : Option String
  tag : Option (TagText × Mark)
  start : Option Mark

def anchorProperty (r : EventReader) : Except Fault (Option (String × Mark) × EventReader) := do
  let t ← r.peek
  match t.kind with
  | .anchor name => return (some (name, t.start), r.drop)
  | _ => return (none, r)

def tagProperty (r : EventReader) : Except Fault (Option (TagText × Mark) × EventReader) := do
  let t ← r.peek
  match t.kind with
  | .tag text => return (some (text, t.start), r.drop)
  | _ => return (none, r)

/-- An anchor and a tag in either order. -/
def properties (r : EventReader) : Except Fault (Properties × EventReader) := do
  let (anchor, r) ← r.anchorProperty
  match anchor with
  | some (name, m) =>
    let (tag, r) ← r.tagProperty
    return (⟨some name, tag, some m⟩, r)
  | none =>
    let (tag, r) ← r.tagProperty
    match tag with
    | none => return (⟨none, none, none⟩, r)
    | some (_, m) =>
      let (anchor, r) ← r.anchorProperty
      return (⟨anchor.map (·.1), tag, some m⟩, r)

/-- A tag with its handle written out. -/
def resolveTag (r : EventReader) (p : Properties) : Except Fault (Option String) :=
  match p.tag with
  | none => .ok none
  | some (⟨none, suffix⟩, _) => .ok (some suffix)
  | some (⟨some handle, suffix⟩, m) =>
    match r.handles.lookup handle with
    | some stem => .ok (some (stem ++ suffix))
    | none => eventFault (some .node) p.start (.undefinedHandle handle) m

/-- The tag that leaves the choice to the reader. -/
def nonSpecific (tag : Option String) : Bool := tag == none || tag == some "!"

def typing (plain : Bool) (tag : Option String) : Typing :=
  match tag with
  | none => if plain then .byText else .asText
  | some t => if t == "!" then .byText else .tagged t

def collectionTag (tag : Option String) : Option String := if nonSpecific tag then none else tag

/-- A node; `indentless` where a sequence may stand at the indentation of its mapping. -/
def node (r : EventReader) (block indentless : Bool) : Except Fault (Event × EventReader) := do
  let t ← r.peek
  match t.kind with
  | .aliasOf name => return (⟨.aliasOf name, t.start⟩, r.drop.resume)
  | _ =>
    let (p, r) ← r.properties
    let tag ← r.resolveTag p
    let t ← r.peek
    let start := p.start.getD t.start
    let sequence : Event := ⟨.sequenceStart p.anchor (collectionTag tag), start⟩
    let mapping : Event := ⟨.mappingStart p.anchor (collectionTag tag), start⟩
    if indentless && t.kind == .blockEntry then return (sequence, r.expect .indentlessEntry)
    else
      match t.kind, block with
      | .scalar text plain, _ =>
        return (⟨.scalar p.anchor (typing plain tag) text, start⟩, r.drop.resume)
      | .flowSequenceStart, _ => return (sequence, r.expect .flowSequenceFirst)
      | .flowMappingStart, _ => return (mapping, r.expect .flowMappingFirst)
      | .blockSequenceStart, true => return (sequence, r.expect .blockSequenceFirst)
      | .blockMappingStart, true => return (mapping, r.expect .blockMappingFirst)
      | kind, _ =>
        if p.anchor.isSome || tag.isSome then
          return (⟨.scalar p.anchor (typing true tag) [], start⟩, r.resume)
        else
          eventFault (some (if block then .blockNode else .flowNode)) (some start)
            (.expectedContent kind.name) t.start

def blockNode (r : EventReader) : Except Fault (Event × EventReader) := r.node true false
def flowNode (r : EventReader) : Except Fault (Event × EventReader) := r.node false false

def documentContent (r : EventReader) : Except Fault (Event × EventReader) := do
  let t ← r.peek
  if isDirective t.kind || t.kind == .documentStart || t.kind == .documentEnd || t.kind == .streamEnd then
    return (emptyScalar t.start, r.resume)
  else r.blockNode

/-! ### Block collections -/

def blockSequenceEntry (r : EventReader) : Except Fault (Event × EventReader) := do
  let t ← r.peek
  match t.kind with
  | .blockEntry =>
    let r := r.drop
    let u ← r.peek
    if u.kind == .blockEntry || u.kind == .blockEnd then
      return (emptyScalar t.stop, r.expect .blockSequenceEntry)
    else (r.defer .blockSequenceEntry).blockNode
  | .blockEnd => return (⟨.sequenceEnd, t.start⟩, r.drop.close)
  | kind => eventFault (some .blockCollection) (some r.since) (.expectedBlockEnd kind.name) t.start

def indentlessEntry (r : EventReader) : Except Fault (Event × EventReader) := do
  let t ← r.peek
  match t.kind with
  | .blockEntry =>
    let r := r.drop
    let u ← r.peek
    if u.kind == .blockEntry || u.kind == .key || u.kind == .value || u.kind == .blockEnd then
      return (emptyScalar t.stop, r.expect .indentlessEntry)
    else (r.defer .indentlessEntry).blockNode
  | _ => return (⟨.sequenceEnd, t.start⟩, r.resume)

/-- No node follows a key mark or a value mark here. -/
def endsBlockPart (kind : Token.Kind) : Bool := kind == .key || kind == .value || kind == .blockEnd

def blockMappingKey (r : EventReader) : Except Fault (Event × EventReader) := do
  let t ← r.peek
  match t.kind with
  | .key =>
    let r := r.drop
    let u ← r.peek
    if endsBlockPart u.kind then return (emptyScalar t.stop, r.expect .blockMappingValue)
    else (r.defer .blockMappingValue).node true true
  | .blockEnd => return (⟨.mappingEnd, t.start⟩, r.drop.close)
  | kind => eventFault (some .blockMapping) (some r.since) (.expectedBlockEnd kind.name) t.start

def blockMappingValue (r : EventReader) : Except Fault (Event × EventReader) := do
  let t ← r.peek
  match t.kind with
  | .value =>
    let r := r.drop
    let u ← r.peek
    if endsBlockPart u.kind then return (emptyScalar t.stop, r.expect .blockMappingKey)
    else (r.defer .blockMappingKey).node true true
  | _ => return (emptyScalar t.start, r.expect .blockMappingKey)

/-! ### Flow collections -/

def flowSequenceEnd (r : EventReader) : Except Fault (Event × EventReader) := do
  let t ← r.peek
  return (⟨.sequenceEnd, t.start⟩, r.drop.close)

/-- An entry of a flow sequence, after the comma if one is due. -/
def flowSequenceItem (r : EventReader) : Except Fault (Event × EventReader) := do
  let t ← r.peek
  match t.kind with
  | .key => return (⟨.mappingStart none none, t.start⟩, r.expect .flowPairKey)
  | .flowSequenceEnd => r.flowSequenceEnd
  | _ => (r.defer .flowSequenceEntry).flowNode

def flowSequenceEntry (r : EventReader) (first : Bool) : Except Fault (Event × EventReader) := do
  let t ← r.peek
  if t.kind == .flowSequenceEnd then r.flowSequenceEnd
  else if first then r.flowSequenceItem
  else if t.kind == .flowEntry then r.drop.flowSequenceItem
  else eventFault (some .flowSequence) (some r.since) (.expectedCommaOrBracket t.kind.name) t.start

def flowPairKey (r : EventReader) : Except Fault (Event × EventReader) := do
  let t ← r.peek
  let r := r.drop
  let u ← r.peek
  if u.kind == .value || u.kind == .flowEntry || u.kind == .flowSequenceEnd then
    return (emptyScalar t.stop, r.expect .flowPairValue)
  else (r.defer .flowPairValue).flowNode

def flowPairValue (r : EventReader) : Except Fault (Event × EventReader) := do
  let t ← r.peek
  if t.kind == .value then
    let r := r.drop
    let u ← r.peek
    if u.kind == .flowEntry || u.kind == .flowSequenceEnd then
      return (emptyScalar t.stop, r.expect .flowPairEnd)
    else (r.defer .flowPairEnd).flowNode
  else return (emptyScalar t.start, r.expect .flowPairEnd)

def flowPairEnd (r : EventReader) : Except Fault (Event × EventReader) := do
  let t ← r.peek
  return (⟨.mappingEnd, t.start⟩, r.expect .flowSequenceEntry)

def flowMappingEnd (r : EventReader) : Except Fault (Event × EventReader) := do
  let t ← r.peek
  return (⟨.mappingEnd, t.start⟩, r.drop.close)

/-- An entry of a flow mapping, after the comma if one is due. -/
def flowMappingItem (r : EventReader) : Except Fault (Event × EventReader) := do
  let t ← r.peek
  match t.kind with
  | .key =>
    let r := r.drop
    let u ← r.peek
    if u.kind == .value || u.kind == .flowEntry || u.kind == .flowMappingEnd then
      return (emptyScalar t.stop, r.expect .flowMappingValue)
    else (r.defer .flowMappingValue).flowNode
  | .flowMappingEnd => r.flowMappingEnd
  | _ => (r.defer .flowMappingNoValue).flowNode

def flowMappingKey (r : EventReader) (first : Bool) : Except Fault (Event × EventReader) := do
  let t ← r.peek
  if t.kind == .flowMappingEnd then r.flowMappingEnd
  else if first then r.flowMappingItem
  else if t.kind == .flowEntry then r.drop.flowMappingItem
  else eventFault (some .flowMapping) (some r.since) (.expectedCommaOrBrace t.kind.name) t.start

def flowMappingValue (r : EventReader) : Except Fault (Event × EventReader) := do
  let t ← r.peek
  if t.kind == .value then
    let r := r.drop
    let u ← r.peek
    if u.kind == .flowEntry || u.kind == .flowMappingEnd then
      return (emptyScalar t.stop, r.expect .flowMappingKey)
    else (r.defer .flowMappingKey).flowNode
  else return (emptyScalar t.start, r.expect .flowMappingKey)

/-! ### Steps -/

/-- Take the token that opens a collection, and go on with its first entry. -/
def opening (r : EventReader) (go : EventReader → Except Fault (Event × EventReader)) :
    Except Fault (Event × EventReader) := do
  let t ← r.peek
  go (r.drop.open_ t.start)

/-- The next event. -/
def step (r : EventReader) : Except Fault (Event × EventReader) :=
  match r.expects with
  | .streamStart => do
    let t ← r.peek
    return (⟨.streamStart, t.start⟩, r.drop.expect .implicitDocument)
  | .implicitDocument => r.implicitDocument
  | .document => r.document
  | .documentContent => r.documentContent
  | .documentEnd => r.documentEnd
  | .blockNode => r.blockNode
  | .blockSequenceFirst => r.opening blockSequenceEntry
  | .blockSequenceEntry => r.blockSequenceEntry
  | .indentlessEntry => r.indentlessEntry
  | .blockMappingFirst => r.opening blockMappingKey
  | .blockMappingKey => r.blockMappingKey
  | .blockMappingValue => r.blockMappingValue
  | .flowSequenceFirst => r.opening (flowSequenceEntry · true)
  | .flowSequenceEntry => r.flowSequenceEntry false
  | .flowPairKey => r.flowPairKey
  | .flowPairValue => r.flowPairValue
  | .flowPairEnd => r.flowPairEnd
  | .flowMappingFirst => r.opening (flowMappingKey · true)
  | .flowMappingKey => r.flowMappingKey false
  | .flowMappingValue => r.flowMappingValue
  | .flowMappingNoValue => do
    let t ← r.peek
    return (emptyScalar t.start, r.expect .flowMappingKey)
  | .nothing => .ok (⟨.streamEnd, ⟨0, 0, 0⟩⟩, r)

/-- The events from a state on. -/
def run : Nat → EventReader → Stream Event
  | 0, _ => ⟨[], none⟩
  | fuel + 1, r =>
    if r.expects == .nothing then ⟨[], none⟩
    else
      match r.step with
      | .error e => ⟨[], some e⟩
      | .ok (e, r) => (run fuel r).cons e

end EventReader

/-- A bound on the number of events of `n` tokens: few events in a row take no token. -/
def eventSteps (n : Nat) : Nat := 4 * n + 16

/-- The events of tokens. -/
def events (ts : Stream Token) : Stream Event := (EventReader.start ts).run (eventSteps ts.items.length)

end BlockNotebook.Yaml
