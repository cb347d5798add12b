import BlockNotebook.Yaml.Made
/-!
The data of a YAML text.

A node that several others refer to stands in each of them. A collection that is met again
inside itself is data that encloses itself.
-/

namespace BlockNotebook.Yaml

/-- The plain data of a node that stands as a key. -/
def keyOf (made : Array (Option Made)) (id : NodeId) : Value := ((made.getD id none).map Made.plain).getD .null

/-- The data of a node, by what the nodes are made into. `path` are the collections around it, the nearest
first; a pair has no number, as nothing can refer to it. -/
def unfold (made : Array (Option Made)) : Nat → List (Option NodeId) → NodeId → Value
  | 0, _, _ => .null
  | fuel + 1, path, id =>
    match path.idxOf? (some id), made.getD id none with
    | some level, _ => .enclosing level
    | none, some (.list items) => .list (items.map (unfold made fuel (some id :: path)))
    | none, some (.pairs items) =>
      let part := unfold made fuel (none :: some id :: path)
      .list (items.map fun e => .pair (part e.1) (part e.2))
    | none, some (.set members) => .set (members.map (keyOf made))
    | none, some (.map entries) =>
      .map (entries.map fun e => (keyOf made e.1, unfold made fuel (some id :: path) e.2))
    | none, some m => m.plain
    | none, none => .null

/-- The data of a document. No path is longer than its nodes are many, as no node is twice on it. -/
def Graph.value (g : Graph) : Except Fault Value :=
  g.made.map fun made => unfold made (g.nodes.size + 1) [] g.root

/-- The code points that a YAML text may hold. -/
def isAllowed (c : CodePoint) : Bool :=
  let n := c.value
  n == 0x9 || n == 0xA || n == 0xD || (0x20 ≤ n && n ≤ 0x7E) || n == 0x85 ||
    (0xA0 ≤ n && n ≤ 0xD7FF) || (0xE000 ≤ n && n ≤ 0xFFFD) || 0x10000 ≤ n

/-- The data of a text; nothing at all is null. `dates` tells whether dates are data. -/
def load (dates : Bool) (t : Text) : Except Fault Value :=
  match t.find? (!isAllowed ·) with
  | some c => .error (.unacceptable c (t.takeWhile isAllowed).length)
  | none =>
    match graph? dates (events (tokens t.characters)) with
    | .error f => .error f
    | .ok none => .ok .null
    | .ok (some g) => g.value

/-- The data of a text in which dates are left as text. -/
def loadPlain (t : Text) : Except Fault Value := load false t

/-- The data of a text in which dates are data. -/
def loadDated (t : Text) : Except Fault Value := load true t

end BlockNotebook.Yaml
