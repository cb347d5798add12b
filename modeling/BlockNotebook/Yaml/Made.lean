import BlockNotebook.Yaml.Node
import BlockNotebook.Yaml.Scalar
/-!
The data made of the nodes of a document.

A node is made into data once, whatever refers to it. A collection is made empty, and its parts are
read when all nodes met before it have theirs: so of several faults the shallowest is met first, and
of equally deep ones the first. Merging changes a mapping for all that refers to it, but not for
what was read from it before.
-/

namespace BlockNotebook.Yaml

/-- The data of a node. The parts of a collection are given by their nodes, the pairs of an ordered list, and
the entries of a mapping, by two. -/
inductive Made
  | scalar (v : Value)
  /-- The not-a-number that its word spells, which is one and the same wherever it stands. -/
  | nan
  | list (items : List NodeId)
  | pairs (items : Entries)
  | set (members : List NodeId)
  | map (entries : Entries)

/-- A scalar as plain data; null for a collection. -/
def Made.plain : Made → Value
  | .scalar v => v
  | .nan => .float .nan
  | _ => .null

/-- May stand as a key. -/
def Made.isKey : Made → Bool
  | .scalar _ | .nan => true
  | _ => false

/-- The nodes as merging has left them, the data made of them so far, and the collections whose parts are still
to be read, the last one first. -/
structure Workshop where
  nodes : Array Node
  made : Array (Option Made)
  waiting : List NodeId

namespace Workshop

def start (g : Graph) : Workshop := ⟨g.nodes, Array.replicate g.nodes.size none, []⟩

def node (w : Workshop) (id : NodeId) : Node := w.nodes.getD id default

def made? (w : Workshop) (id : NodeId) : Option Made := w.made.getD id none

def setNode (id : NodeId) (n : Node) (w : Workshop) : Workshop :=
  { w with nodes := w.nodes.setIfInBounds id n }

def setEntries (id : NodeId) (entries : Entries) (w : Workshop) : Workshop :=
  w.setNode id { w.node id with content := .mapping entries }

def setMade (id : NodeId) (m : Made) (w : Workshop) : Workshop :=
  { w with made := w.made.setIfInBounds id (some m) }

/-- A collection is made, and its parts are to be read. -/
def await (id : NodeId) (m : Made) (w : Workshop) : Workshop :=
  { w.setMade id m with waiting := id :: w.waiting }

/-- The node is text from now on, if its tag is that of a value key. -/
def markText (w : Workshop) (id : NodeId) : Workshop :=
  if (w.node id).tag == .value then w.setNode id { w.node id with tag := .str } else w

/-- The text of a scalar; a mapping with a value key has the text of that entry. -/
def text (w : Workshop) : Nat → NodeId → Except Fault Text
  | 0, id => .error (.at .value none none (.expectedNode .scalar (w.node id).kind) (w.node id).start)
  | fuel + 1, id =>
    let wrong : Except Fault Text :=
      .error (.at .value none none (.expectedNode .scalar (w.node id).kind) (w.node id).start)
    match (w.node id).content with
    | .scalar t => .ok t
    | .sequence _ => wrong
    | .mapping entries =>
      match entries.find? fun e => (w.node e.1).tag == .value with
      | some (_, value) => text w fuel value
      | none => wrong

/-- The data of a node whose tag is that of a scalar. -/
def scalar (w : Workshop) (fuel : Nat) (id : NodeId) : Except Fault Made := do
  let n := w.node id
  let t ← w.text fuel id
  if n.tag == .timestamp && n.kind != .scalar then .error (.scalar .timestampNotText)
  else if n.tag == .float && Scalar.isNanWord t then return .nan
  else return .scalar (← Scalar.read n.tag t n.start)

/-- Two nodes are one key: they are one node, or their data are equal. -/
def sameKey (w : Workshop) (a b : NodeId) : Bool :=
  a == b ||
    match w.made? a, w.made? b with
    | some .nan, some .nan => true
    | some (.scalar u), some (.scalar v) => Value.sameKey u v
    | _, _ => false

/-- The entries with one more: a key that is there already keeps its place and takes the new value. -/
def insert (w : Workshop) (key value : NodeId) : Entries → Entries
  | [] => [(key, value)]
  | (k, v) :: rest => if w.sameKey k key then (k, value) :: rest else (k, v) :: insert w key value rest

end Workshop

/-- Work that changes nodes and makes data of them. -/
abbrev Making := StateT Workshop (Except Fault)

namespace Making

def refuse {α : Type} (activity : Option Activity) (since : Option Mark) (problem : Problem)
    (mark : Mark) : Making α :=
  throw (.at .value activity since problem mark)

/-! ### Merging -/

/-- The entries before the first merge key, the value at that key, and the entries after it. -/
def cutAtMerge (w : Workshop) : Entries → Option (Entries × NodeId × Entries)
  | [] => none
  | (k, v) :: rest =>
    if (w.node k).tag == .merge then some ([], v, rest)
    else (cutAtMerge w rest).map fun r => ((k, v) :: r.1, r.2)

/-- The entries that the items of a sequence give, the later items first, so that the earlier ones win. -/
def mergeItems (flatten : NodeId → Making Unit) (owner : Mark) : List NodeId → Making Entries
  | [] => return []
  | item :: items => do
    let n := (← get).node item
    if n.kind == .mapping then
      flatten item
      let entries := ((← get).node item).entries
      return (← mergeItems flatten owner items) ++ entries
    else refuse (some .mappingValue) (some owner) (.expectedMergeItem n.kind) n.start

/-- The entries that the value at a merge key gives to the mapping that starts at a mark. -/
def merged (flatten : NodeId → Making Unit) (owner : Mark) (value : NodeId) : Making Entries := do
  let n := (← get).node value
  match n.content with
  | .mapping _ =>
    flatten value
    return ((← get).node value).entries
  | .sequence items => mergeItems flatten owner items
  | .scalar _ => refuse (some .mappingValue) (some owner) (.expectedMerge n.kind) n.start

/-- To put the entries of its merge keys in front of the others of a mapping. Each merge key that is found is
taken out first: a mapping that is merged into itself gives what is left of it. -/
def flatten : Nat → NodeId → Making Unit
  | 0, _ => return
  | fuel + 1, id => do
    let w ← get
    let n := w.node id
    match cutAtMerge w n.entries with
    | none => modify fun w => n.entries.foldl (fun w e => w.markText e.1) w
    | some (before, value, after) =>
      modify (·.setEntries id (before ++ after))
      let entries ← merged (flatten fuel) n.start value
      flatten fuel id
      modify fun w => w.setEntries id (entries ++ (w.node id).entries)

/-! ### Data -/

/-- To make a node, if it is not made yet. -/
def make (fuel : Nat) (id : NodeId) : Making Unit := do
  let w ← get
  if (w.made? id).isSome then return
  else
    let n := w.node id
    match n.tag with
    | .seq => modify (·.await id (.list []))
    | .map => modify (·.await id (.map []))
    | .set => modify (·.await id (.set []))
    | .orderedMap | .pairs => modify (·.await id (.pairs []))
    | .merge | .value | .other _ => refuse none none (.unknownTag n.tag.name) n.start
    | _ =>
      let m ← w.scalar fuel id
      modify (·.setMade id m)

/-- To make the items of a sequence. -/
def items (fuel : Nat) (id : NodeId) : Making (List NodeId) := do
  let n := (← get).node id
  match n.content with
  | .sequence items =>
    items.forM (make fuel)
    return items
  | _ => refuse none none (.expectedNode .sequence n.kind) n.start

/-- To make the keys and values of a mapping that starts at a mark, after those already known; of equal keys the
last one gives the value. A collection is no key. -/
def readEntries (fuel : Nat) (owner : Mark) (known : Entries) : Entries → Making Entries
  | [] => return known
  | (k, v) :: rest => do
    make fuel k
    let w ← get
    if (w.made? k).any Made.isKey then
      make fuel v
      readEntries fuel owner (w.insert k v known) rest
    else refuse (some .mappingValue) (some owner) .unhashableKey (w.node k).start

/-- To make the entries of a mapping, merged. -/
def entries (fuel : Nat) (id : NodeId) : Making Entries := do
  let n := (← get).node id
  match n.content with
  | .mapping _ =>
    flatten fuel id
    readEntries fuel n.start [] ((← get).node id).entries
  | _ => refuse none none (.expectedNode .mapping n.kind) n.start

/-- To make the pairs of a list that starts at a mark: every item is a mapping with a single entry. -/
def readPairs (fuel : Nat) (activity : Activity) (owner : Mark) : List NodeId → Making Entries
  | [] => return []
  | item :: items => do
    let n := (← get).node item
    let wrong (p : Problem) : Making Entries := refuse (some activity) (some owner) p n.start
    match n.content with
    | .mapping [(k, v)] =>
      make fuel k
      make fuel v
      return (k, v) :: (← readPairs fuel activity owner items)
    | .mapping es => wrong (.expectedSingleItem es.length)
    | _ => wrong (.expectedSingle n.kind)

def pairs (fuel : Nat) (activity : Activity) (id : NodeId) : Making Entries := do
  let n := (← get).node id
  match n.content with
  | .sequence items => readPairs fuel activity n.start items
  | _ => refuse (some activity) (some n.start) (.expectedSequence n.kind) n.start

/-- To read the parts of a collection. -/
def complete (fuel : Nat) (id : NodeId) : Making Unit := do
  let m ←
    match ((← get).node id).tag with
    | .map => (entries fuel id).map .map
    | .set => (entries fuel id).map fun es => .set (es.map (·.1))
    | .orderedMap => (pairs fuel .orderedMap id).map .pairs
    | .pairs => (pairs fuel .pairs id).map .pairs
    | _ => (items fuel id).map .list
  modify (·.setMade id m)

/-- To read the parts of all collections that wait, level by level. The first argument bounds the levels. -/
def completeAll (fuel : Nat) : Nat → Making Unit
  | 0 => return
  | levels + 1 => do
    let ids := (← get).waiting.reverse
    if ids.isEmpty then return
    else
      modify fun w => { w with waiting := [] }
      ids.forM (complete fuel)
      completeAll fuel levels

/-- To make the whole of a document. -/
def document (g : Graph) : Making Unit := do
  make g.bound g.root
  completeAll g.bound (g.nodes.size + 1)

end Making

/-- The data of the nodes of a document. -/
def Graph.made (g : Graph) : Except Fault (Array (Option Made)) :=
  (StateT.run (Making.document g) (.start g)).map (·.2.made)

end BlockNotebook.Yaml
