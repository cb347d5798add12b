import BlockNotebook.Proofs.Success
import BlockNotebook.Proofs.Yaml.Node
import Mathlib.Logic.Relation
/-!
What a composed graph consists of.

Composing adds nodes at the end of those it has. Whatever it adds for an event is reached from the
node of that event (`Composer.Adds`), so every node of a graph is reached from its root
(`graph?_reaches`).
-/

namespace BlockNotebook.Yaml

/-- One node is reached from another: it is that node, or a part of one that is reached. -/
def Reaches (nodes : Array Node) : NodeId → NodeId → Prop :=
  Relation.ReflTransGen fun a b => b ∈ (nodes.getD a default).content.parts

namespace Composer

theorem nodeAt_of_le {c : Composer} {id : NodeId} (h : c.nodes.size ≤ id) : c.nodeAt id = default := by
  rw [nodeAt, Array.getD_eq_getD_getElem?, Array.getElem?_eq_none h]
  rfl

/-- What is reached stays so, if no node with parts loses any. -/
theorem reaches_mono {c d : Composer}
    (h : ∀ a, ∀ b ∈ (c.nodeAt a).content.parts, b ∈ (d.nodeAt a).content.parts) {a b : NodeId}
    (hab : Reaches c.nodes a b) : Reaches d.nodes a b :=
  Relation.ReflTransGen.mono (fun a b => h a b) _ _ hab

/-- Nodes are added, the others stay as they are, and what is added is reached from the roots. -/
structure Adds (c d : Composer) (roots : List NodeId) : Prop where
  size : c.nodes.size ≤ d.nodes.size
  same : ∀ id < c.nodes.size, d.nodeAt id = c.nodeAt id
  reached : ∀ id, c.nodes.size ≤ id → id < d.nodes.size → ∃ root ∈ roots, Reaches d.nodes root id

section
variable {c d e : Composer} {roots others : List NodeId}

theorem Adds.of_nodes (h : d.nodes = c.nodes) (roots : List NodeId) : c.Adds d roots := by
  refine ⟨Nat.le_of_eq (congrArg Array.size h.symm), fun id _ => by rw [nodeAt, nodeAt, h], fun id hle hlt => ?_⟩
  rw [h] at hlt
  exact absurd hlt (Nat.not_lt.2 hle)

/-- Parts of nodes that are there stay parts. -/
theorem Adds.parts (h : c.Adds d roots) (a b : NodeId) (hb : b ∈ (c.nodeAt a).content.parts) :
    b ∈ (d.nodeAt a).content.parts := by
  by_cases ha : a < c.nodes.size
  · rwa [h.same a ha]
  · rw [nodeAt_of_le (Nat.le_of_not_lt ha)] at hb
    cases hb

theorem Adds.append (h : c.Adds d roots) (h' : d.Adds e others) : c.Adds e (roots ++ others) := by
  refine ⟨Nat.le_trans h.size h'.size, fun id hid => ?_, fun id hle hlt => ?_⟩
  · rw [h'.same id (Nat.lt_of_lt_of_le hid h.size), h.same id hid]
  · by_cases hd : id < d.nodes.size
    · obtain ⟨root, hroot, hreach⟩ := h.reached id hle hd
      exact ⟨root, List.mem_append_left _ hroot, reaches_mono h'.parts hreach⟩
    · obtain ⟨root, hroot, hreach⟩ := h'.reached id (Nat.le_of_not_lt hd) hlt
      exact ⟨root, List.mem_append_right _ hroot, hreach⟩

theorem Adds.trans (h : c.Adds d []) (h' : d.Adds e roots) : c.Adds e roots := h.append h'

/-- Every successful step to the next event leaves the nodes alone. -/
theorem next_nodes {c : Composer} {e : Event} {d : Composer} (h : c.next = .ok (e, d)) : d.nodes = c.nodes := by
  unfold next at h
  split at h <;> cases h <;> rfl

theorem add_nodes {c d : Composer} {anchor : Option String} {n : Node} {id : NodeId} (h : c.add anchor n = .ok (id, d)) :
    id = c.nodes.size ∧ d.nodes = c.nodes.push n := by
  unfold add at h
  dsimp only at h
  split at h
  · cases h
    exact ⟨rfl, rfl⟩
  split at h
  · cases h
  · cases h
    exact ⟨rfl, rfl⟩

/-- A node that is added is reached from itself. -/
theorem Adds.of_add {anchor : Option String} {n : Node} {id : NodeId} (h : c.add anchor n = .ok (id, d)) :
    c.Adds d [id] ∧ id < d.nodes.size ∧ d.nodeAt id = n := by
  obtain ⟨rfl, hnodes⟩ := add_nodes h
  have hsize : d.nodes.size = c.nodes.size + 1 := by rw [hnodes, Array.size_push]
  refine ⟨⟨hsize ▸ Nat.le_succ _, fun id hid => ?_, fun id hle hlt => ?_⟩, hsize ▸ Nat.lt_succ_self _, ?_⟩
  · simp only [nodeAt, hnodes, Array.getD_eq_getD_getElem?, Array.getElem?_push_lt hid, Array.getElem?_eq_getElem hid]
  · obtain rfl : id = c.nodes.size := by omega
    exact ⟨_, List.mem_singleton_self _, .refl⟩
  · rw [nodeAt, hnodes, Array.getD_eq_getD_getElem?, Array.getElem?_push_size]
    rfl

/-- A collection that gets for parts what others are reached from reaches them all. -/
theorem Adds.fill {anchor : Option String} {n : Node} {id : NodeId} (hadd : c.add anchor n = .ok (id, d))
    (hn : n.content.parts = []) {content : Content} (h : d.Adds e content.parts) :
    c.Adds (e.fill id content) [id] := by
  obtain ⟨⟨hsize, hsame, hreached⟩, hid, hnode⟩ := Adds.of_add hadd
  have hide := Nat.lt_of_lt_of_le hid h.size
  have hfilled : (e.fill id content).nodes.size = e.nodes.size := Array.size_setIfInBounds
  have hnew : ((e.fill id content).nodeAt id).content = content := by
    simp [nodeAt, Composer.fill, Array.getD_eq_getD_getElem?, hide]
  have hold (other : NodeId) (hne : other ≠ id) : (e.fill id content).nodeAt other = e.nodeAt other := by
    simp [nodeAt, Composer.fill, Array.getD_eq_getD_getElem?, Ne.symm hne]
  have hparts (a b : NodeId) (hb : b ∈ (e.nodeAt a).content.parts) : b ∈ ((e.fill id content).nodeAt a).content.parts := by
    by_cases ha : a = id
    · rw [ha, h.same id hid, hnode, hn] at hb
      cases hb
    · rwa [hold a ha]
  refine ⟨hfilled ▸ Nat.le_trans hsize h.size, fun other hother => ?_, fun other hle hlt => ?_⟩
  · have hne : other ≠ id := fun heq => Nat.lt_irrefl _ ((add_nodes hadd).1 ▸ heq ▸ hother)
    rw [hold other hne, h.same other (Nat.lt_of_lt_of_le hother hsize), hsame other hother]
  · refine ⟨id, List.mem_singleton_self _, ?_⟩
    by_cases hd : other < d.nodes.size
    · obtain ⟨root, hroot, hreach⟩ := hreached other hle hd
      rw [List.mem_singleton.1 hroot] at hreach
      exact reaches_mono hparts (reaches_mono h.parts hreach)
    · obtain ⟨root, hroot, hreach⟩ := h.reached other (Nat.le_of_not_lt hd) (hfilled ▸ hlt)
      refine .head ?_ (reaches_mono hparts hreach)
      change root ∈ ((e.fill id content).nodeAt id).content.parts
      rwa [hnew]

end

mutual

/-- Whatever is added for an event is reached from the node of the event. -/
theorem node_adds : ∀ (fuel : Nat) (e : Event) {c d : Composer} {id : NodeId}, node fuel e c = .ok (id, d) → c.Adds d [id]
  | 0, _, c, _, _, h => by
    cases h
    exact .of_nodes rfl _
  | fuel + 1, e, c, _, _, h => by
    unfold node at h
    split at h
    · split at h
      · cases h
        exact .of_nodes rfl _
      · cases h
    · exact (Adds.of_add h).1
    · obtain ⟨⟨id, d⟩, hadd, h⟩ := bind_eq_ok h
      obtain ⟨⟨items, e⟩, hitems, h⟩ := bind_eq_ok h
      cases h
      exact .fill hadd rfl (nodeItems_adds fuel hitems)
    · obtain ⟨⟨id, d⟩, hadd, h⟩ := bind_eq_ok h
      obtain ⟨⟨entries, e⟩, hentries, h⟩ := bind_eq_ok h
      cases h
      exact .fill hadd rfl (nodeEntries_adds fuel hentries)
    · cases h
      exact .of_nodes rfl _

theorem nodeItems_adds : ∀ (fuel : Nat) {c d : Composer} {items : List NodeId}, nodeItems fuel c = .ok (items, d) →
    c.Adds d items
  | 0, _, _, _, h => by
    cases h
    exact .of_nodes rfl _
  | fuel + 1, c, _, _, h => by
    unfold nodeItems at h
    obtain ⟨⟨e, c₁⟩, hnext, h⟩ := bind_eq_ok h
    have h₁ : c.Adds c₁ [] := .of_nodes (next_nodes hnext) _
    dsimp only at h
    split at h
    · cases h
      exact h₁
    · obtain ⟨⟨id, c₂⟩, hnode, h⟩ := bind_eq_ok h
      obtain ⟨⟨rest, c₃⟩, hrest, h⟩ := bind_eq_ok h
      cases h
      exact h₁.trans ((node_adds fuel e hnode).append (nodeItems_adds fuel hrest))

theorem nodeEntries_adds : ∀ (fuel : Nat) {c d : Composer} {entries : Entries}, nodeEntries fuel c = .ok (entries, d) →
    c.Adds d (Content.mapping entries).parts
  | 0, _, _, _, h => by
    cases h
    exact .of_nodes rfl _
  | fuel + 1, c, _, _, h => by
    unfold nodeEntries at h
    obtain ⟨⟨e, c₁⟩, hnext, h⟩ := bind_eq_ok h
    have h₁ : c.Adds c₁ [] := .of_nodes (next_nodes hnext) _
    dsimp only at h
    split at h
    · cases h
      exact h₁
    · obtain ⟨⟨k, c₂⟩, hkey, h⟩ := bind_eq_ok h
      obtain ⟨⟨e', c₃⟩, hnext', h⟩ := bind_eq_ok h
      obtain ⟨⟨v, c₄⟩, hvalue, h⟩ := bind_eq_ok h
      obtain ⟨⟨rest, c₅⟩, hrest, h⟩ := bind_eq_ok h
      cases h
      have h₃ : c₂.Adds c₃ [] := .of_nodes (next_nodes hnext') _
      have hpair := (node_adds fuel e hkey).append (h₃.trans (node_adds fuel e' hvalue))
      exact h₁.trans (hpair.append (nodeEntries_adds fuel hrest))

end

end Composer

/-- Every node of a composed graph is reached from its root. -/
theorem graph?_reaches {dates : Bool} {es : Stream Event} {g : Graph} (h : graph? dates es = .ok (some g)) :
    ∀ id < g.nodes.size, Reaches g.nodes g.root id := by
  unfold graph? at h
  dsimp only at h
  obtain ⟨⟨_, c₁⟩, h₁, h⟩ := bind_eq_ok h
  obtain ⟨⟨e, c₂⟩, h₂, h⟩ := bind_eq_ok h
  dsimp only at h
  split at h
  · cases h
  obtain ⟨⟨e', c₃⟩, h₃, h⟩ := bind_eq_ok h
  obtain ⟨⟨root, c₄⟩, hroot, h⟩ := bind_eq_ok h
  obtain ⟨⟨_, c₅⟩, h₅, h⟩ := bind_eq_ok h
  obtain ⟨⟨last, c₆⟩, h₆, h⟩ := bind_eq_ok h
  dsimp only at h
  split at h
  · cases h
    intro id hid
    have hstart : c₃.nodes = #[] := by
      rw [Composer.next_nodes h₃, Composer.next_nodes h₂, Composer.next_nodes h₁]
    have hnodes : c₅.nodes = c₄.nodes := Composer.next_nodes h₅
    dsimp only at hid ⊢
    rw [hnodes] at hid ⊢
    obtain ⟨r, hr, hreach⟩ := (Composer.node_adds _ e' hroot).reached id (by rw [hstart]; exact Nat.zero_le _) hid
    rwa [List.mem_singleton.1 hr] at hreach
  · cases h

end BlockNotebook.Yaml
