import BlockNotebook.Proofs.Yaml.Event
import BlockNotebook.Yaml.Node
/-!
The graphs that are composed of events.

In such a graph every part of a node is a node (`Graph.Closed`), and every node
has its tag and its text from the event that begins it (`Begins`). The faults of
composing are at places, or they are those of the events.
-/

namespace BlockNotebook.Yaml

/-- The parts of a node: its items, or its keys and values. -/
def Content.parts : Content → List NodeId
  | .scalar _ => []
  | .sequence items => items
  | .mapping entries => entries.flatMap fun e => [e.1, e.2]

section
variable {n : Node}

theorem Node.kind_eq_scalar : n.kind = .scalar ↔ ∃ t, n.content = .scalar t := by
  unfold Node.kind
  cases n.content <;> simp [Content.kind]

theorem Node.kind_eq_sequence : n.kind = .sequence ↔ ∃ items, n.content = .sequence items := by
  unfold Node.kind
  cases n.content <;> simp [Content.kind]

theorem Node.kind_eq_mapping : n.kind = .mapping ↔ ∃ entries, n.content = .mapping entries := by
  unfold Node.kind
  cases n.content <;> simp [Content.kind]

end

/-- All parts of nodes are nodes. -/
def NodesClosed (nodes : Array Node) : Prop := ∀ n ∈ nodes, ∀ id ∈ n.content.parts, id < nodes.size

/-- All parts of nodes are nodes, and the root is one, if there are any. -/
structure Graph.Closed (g : Graph) : Prop where
  parts : NodesClosed g.nodes
  root : 0 < g.nodes.size → g.root < g.nodes.size

/-- An event begins a node. `dates` tells whether the text of a date shows a tag of its own. -/
inductive Begins (dates : Bool) : Event → Node → Prop
  | tagged {anchor : Option String} {name : String} {text : Text} {start : Mark} :
    Begins dates ⟨.scalar anchor (.tagged name) text, start⟩ ⟨.ofName name, .scalar text, start⟩
  | byText {anchor : Option String} {text : Text} {start : Mark} :
    Begins dates ⟨.scalar anchor .byText text, start⟩ ⟨.ofText dates text, .scalar text, start⟩
  | asText {anchor : Option String} {text : Text} {start : Mark} :
    Begins dates ⟨.scalar anchor .asText text, start⟩ ⟨.str, .scalar text, start⟩
  | sequence {anchor tag : Option String} {items : List NodeId} {start : Mark} :
    Begins dates ⟨.sequenceStart anchor tag, start⟩ ⟨Composer.collectionTag .seq tag, .sequence items, start⟩
  | mapping {anchor tag : Option String} {entries : Entries} {start : Mark} :
    Begins dates ⟨.mappingStart anchor tag, start⟩ ⟨Composer.collectionTag .map tag, .mapping entries, start⟩

/-- A collection may get other parts. -/
theorem Begins.withContent {dates : Bool} {e : Event} {n : Node} (h : Begins dates e n) {content : Content}
    (hkind : n.kind = content.kind) (hn : n.kind ≠ .scalar) : Begins dates e { n with content := content } := by
  cases h with
  | tagged => exact absurd rfl hn
  | byText => exact absurd rfl hn
  | asText => exact absurd rfl hn
  | sequence =>
    cases content with
    | sequence => exact .sequence
    | scalar => cases hkind
    | mapping => cases hkind
  | mapping =>
    cases content with
    | mapping => exact .mapping
    | scalar => cases hkind
    | sequence => cases hkind

namespace Composer

/-- The node of a number. -/
def nodeAt (c : Composer) (id : NodeId) : Node := c.nodes.getD id default

/-- A composer on its way through the events: nodes and anchors refer to nodes, and events of the stream have begun
the nodes. -/
structure Fine (dates : Bool) (es : Stream Event) (c : Composer) : Prop where
  sameDates : c.dates = dates
  fault : c.events.fault = es.fault
  items : c.events.items ⊆ es.items
  parts : NodesClosed c.nodes
  anchors : ∀ a ∈ c.anchors, a.2 < c.nodes.size
  begun : ∀ n ∈ c.nodes, ∃ e ∈ es.items, Begins dates e n

/-- The nodes stay, and there may be more of them. -/
structure Grows (c d : Composer) : Prop where
  size : c.nodes.size ≤ d.nodes.size
  kind : ∀ id < c.nodes.size, (d.nodeAt id).kind = (c.nodeAt id).kind

theorem Grows.refl (c : Composer) : c.Grows c := ⟨Nat.le_refl _, fun _ _ => rfl⟩

theorem Grows.trans {c d e : Composer} (h : c.Grows d) (h' : d.Grows e) : c.Grows e :=
  ⟨Nat.le_trans h.size h'.size,
    fun id hid => (h'.kind id (Nat.lt_of_lt_of_le hid h.size)).trans (h.kind id hid)⟩

theorem Grows.of_nodes {c d : Composer} (h : d.nodes = c.nodes) : c.Grows d :=
  ⟨Nat.le_of_eq (congrArg Array.size h.symm), fun id _ => by rw [nodeAt, nodeAt, h]⟩

section
variable {dates : Bool} {es : Stream Event} {c : Composer}

/-- The next event is one of the stream, or stands for its end. -/
theorem next_ends (h : c.Fine dates es) :
    Ends (fun f => es.fault = some (.scalar f))
      (fun a => a.2.Fine dates es ∧ a.2.nodes = c.nodes ∧ (a.1 ∈ es.items ∨ a.1.kind = .streamEnd)) c.next := by
  obtain ⟨hdates, hfault, hitems, hparts, hanchors, hbegun⟩ := h
  unfold next
  split
  · rename_i e rest _ he
    rw [he] at hitems
    obtain ⟨hmem, hrest⟩ := List.cons_subset.1 hitems
    exact .ok ⟨⟨hdates, hfault, hrest, hparts, hanchors, hbegun⟩, rfl, .inl hmem⟩
  · rename_i f _ hf
    cases f with
    | scalar f => exact .scalar (hfault ▸ hf)
    | «at» => exact .place
    | unacceptable => exact .character
  · exact .ok ⟨⟨hdates, hfault, hitems, hparts, hanchors, hbegun⟩, rfl, .inr rfl⟩

theorem nodesClosed_push {nodes : Array Node} (h : NodesClosed nodes) {n : Node} (hn : n.content.parts = []) :
    NodesClosed (nodes.push n) := by
  intro m hm id hid
  rw [Array.size_push]
  rcases Array.mem_push.1 hm with hm | rfl
  · exact Nat.lt_succ_of_lt (h m hm id hid)
  · rw [hn] at hid
    cases hid

/-- A node without parts is added; its number is that of a node from then on. -/
theorem add_ends (h : c.Fine dates es) (anchor : Option String) {n : Node} (hn : n.content.parts = []) {e : Event}
    (he : e ∈ es.items) (hbegins : Begins dates e n) :
    Ends (fun f => es.fault = some (.scalar f))
      (fun a => a.2.Fine dates es ∧ c.Grows a.2 ∧ a.1 < a.2.nodes.size ∧ a.2.nodeAt a.1 = n) (c.add anchor n) := by
  obtain ⟨hdates, hfault, hitems, hparts, hanchors, hbegun⟩ := h
  have hsize : (c.nodes.push n).size = c.nodes.size + 1 := Array.size_push _
  have hle : c.nodes.size ≤ (c.nodes.push n).size := hsize ▸ Nat.le_succ _
  have hnew : c.nodes.size < (c.nodes.push n).size := hsize ▸ Nat.lt_succ_self _
  have hold : ∀ a ∈ c.anchors, a.2 < (c.nodes.push n).size := fun a ha => Nat.lt_of_lt_of_le (hanchors a ha) hle
  have hbegun' : ∀ m ∈ c.nodes.push n, ∃ e ∈ es.items, Begins dates e m := by
    intro m hm
    rcases Array.mem_push.1 hm with hm | rfl
    · exact hbegun m hm
    · exact ⟨e, he, hbegins⟩
  have hgrows (d : Composer) (hd : d.nodes = c.nodes.push n) : c.Grows d := by
    refine ⟨hd ▸ hle, fun id hid => ?_⟩
    rw [nodeAt, nodeAt, hd, Array.getD_eq_getD_getElem?, Array.getElem?_push_lt hid, Array.getD_eq_getD_getElem?,
      Array.getElem?_eq_getElem hid]
  have hnode (d : Composer) (hd : d.nodes = c.nodes.push n) : d.nodeAt c.nodes.size = n := by
    rw [nodeAt, hd, Array.getD_eq_getD_getElem?, Array.getElem?_push_size]
    rfl
  unfold add
  extract_lets id c'
  split
  · exact .ok ⟨⟨hdates, hfault, hitems, nodesClosed_push hparts hn, hold, hbegun'⟩, hgrows _ rfl, hnew, hnode _ rfl⟩
  split
  · exact .place
  · exact .ok ⟨⟨hdates, hfault, hitems, nodesClosed_push hparts hn, List.forall_mem_cons.2 ⟨hnew, hold⟩, hbegun'⟩,
      hgrows _ rfl, hnew, hnode _ rfl⟩

/-- A collection gets its parts. -/
theorem fill_fine (h : c.Fine dates es) {id : NodeId} (hid : id < c.nodes.size) {content : Content}
    (hkind : (c.nodeAt id).kind = content.kind) (hcollection : content.kind ≠ .scalar)
    (hcontent : ∀ p ∈ content.parts, p < c.nodes.size) :
    (c.fill id content).Fine dates es ∧ c.Grows (c.fill id content) := by
  obtain ⟨hdates, hfault, hitems, hparts, hanchors, hbegun⟩ := h
  have hsize : (c.fill id content).nodes.size = c.nodes.size := Array.size_setIfInBounds
  have hmem : c.nodeAt id ∈ c.nodes := by
    rw [nodeAt, Array.getD_eq_getD_getElem?, Array.getElem?_eq_getElem hid]
    exact Array.getElem_mem hid
  refine ⟨⟨hdates, hfault, hitems, ?_, fun a ha => hsize.symm ▸ hanchors a ha, ?_⟩, Nat.le_of_eq hsize.symm, ?_⟩
  · intro n hn p hp
    rw [hsize]
    rcases Array.mem_or_eq_of_mem_setIfInBounds hn with hn | rfl
    · exact hparts n hn p hp
    · exact hcontent p hp
  · intro n hn
    rcases Array.mem_or_eq_of_mem_setIfInBounds hn with hn | rfl
    · exact hbegun n hn
    · obtain ⟨e, he, hbegins⟩ := hbegun _ hmem
      exact ⟨e, he, hbegins.withContent hkind (hkind ▸ hcollection)⟩
  · intro other _
    simp only [nodeAt, fill, Array.getD_eq_getD_getElem?, Array.getElem?_setIfInBounds]
    split
    · rename_i heq
      subst heq
      rw [nodeAt, Array.getD_eq_getD_getElem?] at hkind
      exact hkind.symm
    · rfl

theorem mem_of_lookup_anchors {anchors : List (String × NodeId)} {name : String} {id : NodeId}
    (h : anchors.lookup name = some id) : (name, id) ∈ anchors := by
  induction anchors with
  | nil => cases h
  | cons a rest ih =>
    rw [List.lookup_cons] at h
    split at h
    · rename_i hname
      cases h
      rw [eq_of_beq hname]
      exact List.mem_cons_self
    · exact List.mem_cons_of_mem _ (ih h)

theorem begins_scalar (h : c.Fine dates es) (anchor : Option String) (typing : Typing) (text : Text) (start : Mark) :
    Begins dates ⟨.scalar anchor typing text, start⟩ ⟨c.scalarTag typing text, .scalar text, start⟩ := by
  cases typing with
  | tagged name => exact .tagged
  | byText => exact h.sameDates ▸ .byText
  | asText => exact .asText

mutual

/-- A collection is added without its parts, and gets them when they are composed. -/
theorem node_ends : ∀ (fuel : Nat) (e : Event) {c : Composer}, c.Fine dates es → e ∈ es.items ∨ e.kind = .streamEnd →
    Ends (fun f => es.fault = some (.scalar f)) (fun a => a.2.Fine dates es ∧ c.Grows a.2 ∧
      (0 < a.2.nodes.size → a.1 < a.2.nodes.size)) (node fuel e c)
  | 0, _, c, h, _ => .ok ⟨h, .refl c, id⟩
  | fuel + 1, ⟨kind, start⟩, c, h, he => by
    unfold node
    dsimp only
    split
    · split
      · rename_i id hid
        exact .ok ⟨h, .refl c, fun _ => h.anchors _ (mem_of_lookup_anchors hid)⟩
      · exact .place
    · have he := he.resolve_right nofun
      exact (add_ends h _ rfl he (begins_scalar h _ _ _ _)).mono (fun _ h => h)
        fun a ⟨ha, hgrows, hid, _⟩ => ⟨ha, hgrows, fun _ => hid⟩
    · have he := he.resolve_right nofun
      refine (add_ends h _ rfl he .sequence).bind fun ⟨id, d⟩ ⟨hd, hcd, hid, hnode⟩ => ?_
      refine (nodeItems_ends fuel hd (Nat.zero_lt_of_lt hid)).bind fun ⟨items, b⟩ ⟨hb, hdb, hitems⟩ => ?_
      have hidb := Nat.lt_of_lt_of_le hid hdb.size
      have hkind : (b.nodeAt id).kind = (Content.sequence items).kind := by rw [hdb.kind id hid, hnode]; rfl
      obtain ⟨hfine, hfill⟩ := fill_fine hb hidb hkind nofun hitems
      exact .ok ⟨hfine, (hcd.trans hdb).trans hfill, fun _ => Nat.lt_of_lt_of_le hidb hfill.size⟩
    · have he := he.resolve_right nofun
      refine (add_ends h _ rfl he .mapping).bind fun ⟨id, d⟩ ⟨hd, hcd, hid, hnode⟩ => ?_
      refine (nodeEntries_ends fuel hd (Nat.zero_lt_of_lt hid)).bind fun ⟨entries, b⟩ ⟨hb, hdb, hentries⟩ => ?_
      have hidb := Nat.lt_of_lt_of_le hid hdb.size
      have hkind : (b.nodeAt id).kind = (Content.mapping entries).kind := by rw [hdb.kind id hid, hnode]; rfl
      obtain ⟨hfine, hfill⟩ := fill_fine hb hidb hkind nofun hentries
      exact .ok ⟨hfine, (hcd.trans hdb).trans hfill, fun _ => Nat.lt_of_lt_of_le hidb hfill.size⟩
    · exact .ok ⟨h, .refl c, id⟩

theorem nodeItems_ends : ∀ (fuel : Nat) {c : Composer}, c.Fine dates es → 0 < c.nodes.size →
    Ends (fun f => es.fault = some (.scalar f)) (fun a => a.2.Fine dates es ∧ c.Grows a.2 ∧
      ∀ id ∈ a.1, id < a.2.nodes.size) (nodeItems fuel c)
  | 0, c, h, _ => .ok ⟨h, .refl c, nofun⟩
  | fuel + 1, c, h, hpos => by
    unfold nodeItems
    refine (next_ends h).bind fun ⟨e, d⟩ ⟨hd, hcd, he⟩ => ?_
    have hcd : c.Grows d := .of_nodes hcd
    dsimp only at hd he ⊢
    split
    · exact .ok ⟨hd, hcd, nofun⟩
    refine (node_ends fuel e hd he).bind fun ⟨id, b⟩ ⟨hb, hdb, hid⟩ => ?_
    have hcb := hcd.trans hdb
    have hposb := Nat.lt_of_lt_of_le hpos hcb.size
    refine (nodeItems_ends fuel hb hposb).bind fun ⟨rest, a⟩ ⟨ha, hba, hrest⟩ => ?_
    exact .ok ⟨ha, hcb.trans hba, List.forall_mem_cons.2 ⟨Nat.lt_of_lt_of_le (hid hposb) hba.size, hrest⟩⟩

theorem nodeEntries_ends : ∀ (fuel : Nat) {c : Composer}, c.Fine dates es → 0 < c.nodes.size →
    Ends (fun f => es.fault = some (.scalar f)) (fun a => a.2.Fine dates es ∧ c.Grows a.2 ∧
      ∀ id ∈ (Content.mapping a.1).parts, id < a.2.nodes.size) (nodeEntries fuel c)
  | 0, c, h, _ => .ok ⟨h, .refl c, nofun⟩
  | fuel + 1, c, h, hpos => by
    unfold nodeEntries
    refine (next_ends h).bind fun ⟨e, d⟩ ⟨hd, hcd, he⟩ => ?_
    have hcd : c.Grows d := .of_nodes hcd
    dsimp only at hd he ⊢
    split
    · exact .ok ⟨hd, hcd, nofun⟩
    refine (node_ends fuel e hd he).bind fun ⟨k, b⟩ ⟨hb, hdb, hk⟩ => ?_
    refine (next_ends hb).bind fun ⟨e', b'⟩ ⟨hb', hbb, he'⟩ => ?_
    have hbb : b.Grows b' := .of_nodes hbb
    refine (node_ends fuel e' hb' he').bind fun ⟨v, a⟩ ⟨ha, hba, hv⟩ => ?_
    dsimp only at *
    have hcb := hcd.trans hdb
    have hgrows := hbb.trans hba
    have hka : k < a.nodes.size := Nat.lt_of_lt_of_le (hk (Nat.lt_of_lt_of_le hpos hcb.size)) hgrows.size
    have hva : v < a.nodes.size := hv (Nat.zero_lt_of_lt hka)
    refine (nodeEntries_ends fuel ha (Nat.zero_lt_of_lt hka)).bind fun ⟨rest, z⟩ ⟨hz, haz, hrest⟩ => ?_
    exact .ok ⟨hz, (hcb.trans hgrows).trans haz, List.forall_mem_cons.2 ⟨Nat.lt_of_lt_of_le hka haz.size,
      List.forall_mem_cons.2 ⟨Nat.lt_of_lt_of_le hva haz.size, hrest⟩⟩⟩

end

end

end Composer

/-- A graph that is composed of events is closed, and they have begun its nodes; the faults of composing are at places
or those of the events. -/
theorem graph?_ends (dates : Bool) (es : Stream Event) :
    Ends (fun f => es.fault = some (.scalar f))
      (fun g => ∀ h ∈ g, h.Closed ∧ ∀ n ∈ h.nodes, ∃ e ∈ es.items, Begins dates e n) (graph? dates es) := by
  have hstart : Composer.Fine dates es ⟨dates, es, #[], []⟩ := ⟨rfl, rfl, List.Subset.refl _, nofun, nofun, nofun⟩
  unfold graph?
  extract_lets fuel c
  refine (Composer.next_ends hstart).bind fun ⟨_, c₁⟩ ⟨h₁, _⟩ => ?_
  refine (Composer.next_ends h₁).bind fun ⟨e, c₂⟩ ⟨h₂, _⟩ => ?_
  dsimp only
  split
  · exact .ok nofun
  refine (Composer.next_ends h₂).bind fun ⟨e', c₃⟩ ⟨h₃, _, he'⟩ => ?_
  refine (Composer.node_ends fuel e' h₃ he').bind fun ⟨root, c₄⟩ ⟨h₄, _, hroot⟩ => ?_
  refine (Composer.next_ends h₄).bind fun ⟨_, c₅⟩ ⟨h₅, h₄₅, _⟩ => ?_
  refine (Composer.next_ends h₅).bind fun ⟨last, c₆⟩ ⟨h₆, _⟩ => ?_
  dsimp only at *
  split
  · refine .ok fun g hg => ?_
    cases hg
    exact ⟨⟨h₅.parts, h₄₅ ▸ hroot⟩, h₅.begun⟩
  · exact .place

end BlockNotebook.Yaml
