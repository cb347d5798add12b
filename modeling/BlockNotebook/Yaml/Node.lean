import BlockNotebook.Yaml.Event
import BlockNotebook.Yaml.Tag
/-!
The nodes of a YAML document.

A document is a graph: an alias is the node it refers to, and a collection may be a part of
itself. So nodes refer to each other by number; they are numbered in the order in which they begin.
-/

namespace BlockNotebook.Yaml

/-- The number of a node. -/
abbrev NodeId := Nat

/-- Keys and values. -/
abbrev Entries := List (NodeId × NodeId)

inductive Content
  | scalar (text : Text)
  | sequence (items : List NodeId)
  | mapping (entries : Entries)
  deriving DecidableEq, Repr

structure Node where
  tag : Tag
  content : Content
  start : Mark
  deriving DecidableEq, Repr

instance : Inhabited Node := ⟨⟨.null, .scalar [], ⟨0, 0, 0⟩⟩⟩

def Content.kind : Content → NodeKind
  | .scalar _ => .scalar
  | .sequence _ => .sequence
  | .mapping _ => .mapping

def Node.kind (n : Node) : NodeKind := n.content.kind

/-- The entries of a mapping; other nodes have none. -/
def Node.entries (n : Node) : Entries :=
  match n.content with
  | .mapping entries => entries
  | _ => []

/-- The nodes of a document, its root, and a bound on the number of its nodes and of their parts. -/
structure Graph where
  nodes : Array Node
  root : NodeId
  bound : Nat

/-! ## Composing -/

/-- The events ahead, the nodes so far, and those that anchors name. `dates` tells whether the text of a
date shows a tag of its own. -/
structure Composer where
  dates : Bool
  events : Stream Event
  nodes : Array Node
  anchors : List (String × NodeId)

namespace Composer

def nodeFault {α : Type} (activity : Option Activity) (since : Option Mark) (problem : Problem)
    (mark : Mark) : Except Fault α :=
  .error (.at .node activity since problem mark)

/-- The next event and the state after it. -/
def next (c : Composer) : Except Fault (Event × Composer) :=
  match c.events.items, c.events.fault with
  | e :: rest, _ => .ok (e, { c with events := { c.events with items := rest } })
  | [], some f => .error f
  | [], none => .ok (⟨.streamEnd, ⟨0, 0, 0⟩⟩, c)

def startOf (c : Composer) (id : NodeId) : Mark := (c.nodes.getD id default).start

/-- One more node, which its anchor names from now on. An anchor may be set once. -/
def add (c : Composer) (anchor : Option String) (n : Node) : Except Fault (NodeId × Composer) :=
  let id := c.nodes.size
  let c' := { c with nodes := c.nodes.push n }
  match anchor with
  | none => .ok (id, c')
  | some name =>
    match c.anchors.lookup name with
    | some first => nodeFault (some (.anchorOnce name)) (some (c.startOf first)) .secondOccurrence n.start
    | none => .ok (id, { c' with anchors := (name, id) :: c.anchors })

/-- A node that is begun gets its content. -/
def fill (c : Composer) (id : NodeId) (content : Content) : Composer :=
  { c with nodes := c.nodes.setIfInBounds id { c.nodes.getD id default with content := content } }

/-- The tag of a scalar. -/
def scalarTag (c : Composer) (typing : Typing) (text : Text) : Tag :=
  match typing with
  | .tagged name => .ofName name
  | .byText => .ofText c.dates text
  | .asText => .str

/-- The tag of a collection: the one it is given, or else the usual one of its kind. -/
def collectionTag (usual : Tag) (given : Option String) : Tag := (given.map Tag.ofName).getD usual

mutual

/-- The node that begins with an event. -/
def node : Nat → Event → Composer → Except Fault (NodeId × Composer)
  | 0, _, c => .ok (0, c)
  | fuel + 1, e, c =>
    match e.kind with
    | .aliasOf name =>
      match c.anchors.lookup name with
      | some id => .ok (id, c)
      | none => nodeFault none none (.undefinedAlias name) e.start
    | .scalar anchor typing text => c.add anchor ⟨c.scalarTag typing text, .scalar text, e.start⟩
    | .sequenceStart anchor tag => do
      let (id, c) ← c.add anchor ⟨collectionTag .seq tag, .sequence [], e.start⟩
      let (items, c) ← nodeItems fuel c
      return (id, c.fill id (.sequence items))
    | .mappingStart anchor tag => do
      let (id, c) ← c.add anchor ⟨collectionTag .map tag, .mapping [], e.start⟩
      let (entries, c) ← nodeEntries fuel c
      return (id, c.fill id (.mapping entries))
    | _ => .ok (0, c)

/-- The items of a sequence, up to its end. -/
def nodeItems : Nat → Composer → Except Fault (List NodeId × Composer)
  | 0, c => .ok ([], c)
  | fuel + 1, c => do
    let (e, c) ← c.next
    if e.kind == .sequenceEnd then return ([], c)
    else
      let (id, c) ← node fuel e c
      let (rest, c) ← nodeItems fuel c
      return (id :: rest, c)

/-- The entries of a mapping, up to its end. -/
def nodeEntries : Nat → Composer → Except Fault (Entries × Composer)
  | 0, c => .ok ([], c)
  | fuel + 1, c => do
    let (e, c) ← c.next
    if e.kind == .mappingEnd then return ([], c)
    else
      let (k, c) ← node fuel e c
      let (e, c) ← c.next
      let (v, c) ← node fuel e c
      let (rest, c) ← nodeEntries fuel c
      return ((k, v) :: rest, c)

end

end Composer

/-- The only document of a stream of events; none if the stream holds no document. -/
def graph? (dates : Bool) (es : Stream Event) : Except Fault (Option Graph) := do
  let fuel := es.items.length + 2
  let c : Composer := ⟨dates, es, #[], []⟩
  let (_, c) ← c.next
  let (e, c) ← c.next
  if e.kind == .streamEnd then return none
  else
    let (e, c) ← c.next
    let (root, c) ← Composer.node fuel e c
    let (_, c) ← c.next
    let (e, _) ← c.next
    if e.kind == .streamEnd then return some ⟨c.nodes, root, fuel⟩
    else Composer.nodeFault (some .singleDocument) (some (c.startOf root)) .anotherDocument e.start

end BlockNotebook.Yaml
