import BlockNotebook.Proofs.Yaml.Node
import BlockNotebook.Yaml.Load
/-!
The faults of making data.

Merging changes the nodes of a graph, but neither the texts of scalars nor the
tags under which they are read (`Workshop.Keeps`). So whenever the data of a scalar
cannot be made, the graph holds a node whose tag does not take its text
(`ValueCause`); all other faults are at places.
-/

namespace BlockNotebook.Yaml

/-- A node of the graph. -/
def Graph.node (g : Graph) (id : NodeId) : Node := g.nodes.getD id default

/-- What in a graph makes the making of its data end in a scalar fault. -/
inductive ValueCause (g : Graph) : ScalarFault → Prop
  /-- A scalar whose tag does not take its text. -/
  | scalar {n : Node} {t : Text} {f : ScalarFault} (hn : n ∈ g.nodes) (ht : n.content = .scalar t)
      (h : Scalar.read n.tag t n.start = .error (.scalar f)) : ValueCause g f
  /-- A mapping with the tag of a scalar, and a scalar whose text that tag does not take. -/
  | mapping {n m : Node} {t : Text} {f : ScalarFault} (hn : n ∈ g.nodes) (hkind : n.kind = .mapping) (hm : m ∈ g.nodes)
      (ht : m.content = .scalar t) (h : Scalar.read n.tag t n.start = .error (.scalar f)) : ValueCause g f
  /-- A mapping with the tag of a timestamp. -/
  | timestamp {n : Node} (hn : n ∈ g.nodes) (hkind : n.kind = .mapping) (htag : n.tag = .timestamp) :
      ValueCause g .timestampNotText

/-- A number that is not that of a node stands for one without parts and with the tag of null. -/
theorem Graph.mem_of_ne {g : Graph} {id : NodeId} (h : g.node id ≠ default) : g.node id ∈ g.nodes := by
  unfold Graph.node at h ⊢
  rw [Array.getD_eq_getD_getElem?] at h ⊢
  cases hn : g.nodes[id]? with
  | none =>
    rw [hn] at h
    exact absurd rfl h
  | some n => exact Array.mem_of_getElem? hn

theorem Graph.mem_of_lt {g : Graph} {id : NodeId} (h : id < g.nodes.size) : g.node id ∈ g.nodes := by
  unfold Graph.node
  rw [Array.getD_eq_getD_getElem?, Array.getElem?_eq_getElem h]
  exact Array.getElem_mem h

namespace Workshop

/-- What merging leaves of a node: a value key becomes text, and a mapping may get other entries, whose values are
nodes. -/
structure Kept (size : Nat) (n m : Node) : Prop where
  tag : m.tag = n.tag ∨ m.tag = .str
  kind : m.kind = n.kind
  start : m.start = n.start
  text : ∀ t, m.content = .scalar t → n.content = .scalar t
  values : ∀ e ∈ m.entries, e.2 < size

/-- The nodes are what merging leaves of those of a graph. -/
structure Keeps (g : Graph) (w : Workshop) : Prop where
  size : w.nodes.size = g.nodes.size
  node : ∀ id, Kept g.nodes.size (g.node id) (w.node id)

section
variable {g : Graph} {w : Workshop}

theorem node_setNode (w : Workshop) (id : NodeId) (n : Node) (other : NodeId) :
    (w.setNode id n).node other = n ∧ other = id ∨ (w.setNode id n).node other = w.node other := by
  simp only [node, setNode, Array.getD_eq_getD_getElem?, Array.getElem?_setIfInBounds]
  split
  · rename_i h
    subst h
    split
    · exact .inl ⟨rfl, rfl⟩
    · rename_i hsize
      rw [Array.getElem?_eq_none (Nat.le_of_not_lt hsize)]
      exact .inr rfl
  · exact .inr rfl

theorem setNode_keeps (h : w.Keeps g) {id : NodeId} {n : Node} (hn : Kept g.nodes.size (g.node id) n) :
    (w.setNode id n).Keeps g := by
  refine ⟨Array.size_setIfInBounds.trans h.size, fun other => ?_⟩
  rcases w.node_setNode id n other with ⟨he, rfl⟩ | he
  · rw [he]
    exact hn
  · rw [he]
    exact h.node other

theorem setEntries_keeps (h : w.Keeps g) {id : NodeId} (hid : (g.node id).kind = .mapping) {entries : Entries}
    (hentries : ∀ e ∈ entries, e.2 < g.nodes.size) : (w.setEntries id entries).Keeps g := by
  obtain ⟨htag, -, hstart, -, -⟩ := h.node id
  exact setNode_keeps h ⟨htag, hid.symm, hstart, nofun, hentries⟩

theorem markText_keeps (h : w.Keeps g) (id : NodeId) : (w.markText id).Keeps g := by
  unfold markText
  split
  · obtain ⟨-, hkind, hstart, htext, hvalues⟩ := h.node id
    exact setNode_keeps h ⟨.inr rfl, hkind, hstart, htext, hvalues⟩
  · exact h

/-- Only mappings have entries. -/
theorem Keeps.kind_of_mem (h : w.Keeps g) {id : NodeId} {e : NodeId × NodeId} (he : e ∈ (w.node id).entries) :
    (g.node id).kind = .mapping := by
  rw [← (h.node id).kind]
  unfold Node.entries at he
  split at he
  · rename_i entries hcontent
    rw [Node.kind, hcontent]
    rfl
  · cases he

theorem start_keeps (h : g.Closed) : (start g).Keeps g := by
  refine ⟨rfl, fun id => ⟨.inl rfl, rfl, rfl, fun _ h => h, fun e he => ?_⟩⟩
  change e ∈ (g.node id).entries at he
  unfold Node.entries at he
  split at he
  · rename_i entries hcontent
    have hmem : g.node id ∈ g.nodes := Graph.mem_of_ne fun hdefault => by
      rw [hdefault] at hcontent
      cases hcontent
    refine h.parts _ hmem _ ?_
    rw [hcontent]
    exact List.mem_flatMap.2 ⟨e, he, List.mem_cons_of_mem _ List.mem_cons_self⟩
  · cases he

/-! ## Scalars -/

theorem node_of_not_lt (h : w.Keeps g) {id : NodeId} (hid : ¬ id < g.nodes.size) : w.node id = default := by
  rw [node, Array.getD_eq_getD_getElem?, Array.getElem?_eq_none (h.size ▸ Nat.le_of_not_lt hid)]
  rfl

/-- The text that a scalar is read from is that of a node of the graph. -/
theorem text_ends {cause : ScalarFault → Prop} (h : w.Keeps g) (fuel : Nat) {id : NodeId} (hid : id < g.nodes.size) :
    Ends cause (fun t => (∃ m ∈ g.nodes, m.content = .scalar t) ∧
      ((g.node id).content = .scalar t ∨ (g.node id).kind = .mapping)) (w.text fuel id) := by
  induction fuel generalizing id with
  | zero => exact .place
  | succ fuel ih =>
    unfold text
    extract_lets wrong
    split
    · rename_i t ht
      have hcontent := (h.node id).text t ht
      exact .ok ⟨⟨_, Graph.mem_of_lt hid, hcontent⟩, .inl hcontent⟩
    · exact .place
    · rename_i entries hcontent
      have hentries : (w.node id).entries = entries := by rw [Node.entries, hcontent]
      split
      · rename_i k value hfind
        have hmem : (k, value) ∈ (w.node id).entries := hentries ▸ List.mem_of_find?_eq_some hfind
        exact (ih ((h.node id).values _ hmem)).mono (fun _ hf => hf) fun t ht => ⟨ht.1, .inr (h.kind_of_mem hmem)⟩
      · exact .place

/-- When a scalar cannot be made, the reason is in the graph. -/
theorem scalar_ends (h : w.Keeps g) (fuel : Nat) (id : NodeId) :
    Ends (ValueCause g) (fun _ => True) (w.scalar fuel id) := by
  unfold scalar
  extract_lets n
  by_cases hid : id < g.nodes.size
  · obtain ⟨htag, hkind, hstart, -, -⟩ := h.node id
    have hmem := Graph.mem_of_lt hid
    refine (text_ends h fuel hid).bind fun t ⟨⟨m, hm, hmt⟩, hcontent⟩ => ?_
    split
    · rename_i hc
      obtain ⟨ht, hk⟩ := Bool.and_eq_true_iff.1 hc
      have htimestamp : (g.node id).tag = .timestamp := by
        rw [← eq_of_beq ht]
        exact (htag.resolve_right fun hstr => by rw [eq_of_beq ht] at hstr; cases hstr).symm
      refine .scalar (.timestamp hmem (hcontent.resolve_left fun hscalar => ?_) htimestamp)
      rw [hkind, Node.kind, hscalar] at hk
      cases hk
    split
    · exact .ok trivial
    refine Ends.bind ((Ends.self (Scalar.read n.tag t n.start)).mono (fun f hf => ?_) fun _ h => h) fun _ _ => .ok trivial
    rcases htag with htag | hstr
    · rw [htag, hstart] at hf
      rcases hcontent with hscalar | hmapping
      · exact .scalar hmem hscalar hf
      · exact .mapping hmem hmapping hm hmt hf
    · rw [hstr] at hf
      cases hf
  · have hdefault : n = default := node_of_not_lt h hid
    cases fuel with
    | zero => exact .place
    | succ fuel =>
      have htext : w.text (fuel + 1) id = .ok [] := by
        unfold text
        rw [show w.node id = default from hdefault]
        rfl
      rw [htext, hdefault]
      exact .ok trivial

end

end Workshop

/-! ## Work -/

/-- Work on what merging leaves of a graph leaves it so, and gives a result with a property; its scalar faults have a
cause in the graph. -/
def Makes (g : Graph) {α : Type} (result : α → Prop) (m : Making α) : Prop :=
  ∀ w, w.Keeps g → Ends (ValueCause g) (fun r => result r.1 ∧ r.2.Keeps g) (m.run w)

/-- The values of entries are nodes. -/
def ValuesIn (g : Graph) (entries : Entries) : Prop := ∀ e ∈ entries, e.2 < g.nodes.size

namespace Makes

variable {g : Graph} {α β : Type} {P : α → Prop} {Q : β → Prop}

theorem pure {a : α} (h : P a) : Makes g P (Pure.pure a) := fun _ hw => .ok ⟨h, hw⟩

theorem bind {x : Making α} {f : α → Making β} (hx : Makes g P x) (hf : ∀ a, P a → Makes g Q (f a)) :
    Makes g Q (x >>= f) := fun w hw => (hx w hw).bind fun r hr => hf r.1 hr.1 r.2 hr.2

theorem map {x : Making α} {f : α → β} (hx : Makes g P x) (hf : ∀ a, P a → Q (f a)) : Makes g Q (x.map f) :=
  hx.bind fun a ha => .pure (hf a ha)

theorem get : Makes g (·.Keeps g) MonadState.get := fun _ hw => .ok ⟨hw, hw⟩

theorem modify {f : Workshop → Workshop} (hf : ∀ w, w.Keeps g → (f w).Keeps g) :
    Makes g (fun _ => True) (modify f) := fun w hw => .ok ⟨trivial, hf w hw⟩

theorem refuse (activity : Option Activity) (since : Option Mark) (problem : Problem) (mark : Mark) :
    Makes g P (Making.refuse activity since problem mark) := fun _ _ => .place

theorem lift {x : Except Fault α} (h : Ends (ValueCause g) P x) : Makes g P (liftM x) :=
  fun _ hw => h.bind fun _ ha => .ok ⟨ha, hw⟩

theorem forM {f : α → Making Unit} (hf : ∀ a, Makes g (fun _ => True) (f a)) (as : List α) :
    Makes g (fun _ => True) (as.forM f) := by
  induction as with
  | nil => exact .pure trivial
  | cons a as ih => exact (hf a).bind fun _ _ => ih

end Makes

namespace Making

open Workshop

variable {g : Graph}

/-! ### Merging -/

theorem cutAtMerge_subset {w : Workshop} {entries before after : Entries} {value : NodeId}
    (h : cutAtMerge w entries = some (before, value, after)) :
    (∃ k, (k, value) ∈ entries) ∧ before ++ after ⊆ entries := by
  induction entries generalizing before with
  | nil => cases h
  | cons e rest ih =>
    unfold cutAtMerge at h
    split at h
    · cases h
      exact ⟨⟨_, List.mem_cons_self⟩, List.subset_cons_self _ _⟩
    · obtain ⟨⟨before', r⟩, hr, he⟩ := Option.map_eq_some_iff.1 h
      cases he
      obtain ⟨⟨k, hk⟩, hrest⟩ := ih hr
      exact ⟨⟨k, List.mem_cons_of_mem _ hk⟩, List.cons_subset_cons _ hrest⟩

theorem mergeItems_makes {flatten : NodeId → Making Unit} (hflatten : ∀ id, Makes g (fun _ => True) (flatten id))
    (owner : Mark) (items : List NodeId) : Makes g (ValuesIn g) (mergeItems flatten owner items) := by
  induction items with
  | nil => exact .pure nofun
  | cons item items ih =>
    unfold mergeItems
    refine Makes.get.bind fun w _ => ?_
    extract_lets n
    split
    · refine (hflatten item).bind fun _ _ => Makes.get.bind fun w hw => ?_
      extract_lets entries
      refine ih.bind fun later hlater => .pure fun e he => ?_
      rcases List.mem_append.1 he with he | he
      · exact hlater e he
      · exact (hw.node item).values e he
    · exact .refuse _ _ _ _

theorem merged_makes {flatten : NodeId → Making Unit} (hflatten : ∀ id, Makes g (fun _ => True) (flatten id))
    (owner : Mark) (value : NodeId) : Makes g (ValuesIn g) (merged flatten owner value) := by
  unfold merged
  refine Makes.get.bind fun w _ => ?_
  extract_lets n
  split
  · exact (hflatten value).bind fun _ _ => Makes.get.bind fun w hw => .pure (hw.node value).values
  · exact mergeItems_makes hflatten owner _
  · exact .refuse _ _ _ _

theorem flatten_makes (fuel : Nat) (id : NodeId) : Makes g (fun _ => True) (flatten fuel id) := by
  induction fuel generalizing id with
  | zero => exact .pure trivial
  | succ fuel ih =>
    unfold flatten
    refine Makes.get.bind fun w hw => ?_
    extract_lets n
    split
    · refine .modify fun w hw => ?_
      induction n.entries generalizing w with
      | nil => exact hw
      | cons e rest ih => exact ih _ (markText_keeps hw e.1)
    · rename_i before value after hcut
      obtain ⟨⟨k, hk⟩, hrest⟩ := cutAtMerge_subset hcut
      have hkind := hw.kind_of_mem hk
      have hvalues : ValuesIn g (before ++ after) := fun e he => (hw.node id).values e (hrest he)
      refine (Makes.modify fun w hw => setEntries_keeps hw hkind hvalues).bind fun _ _ => ?_
      refine (merged_makes ih _ value).bind fun entries hentries => ?_
      refine (ih id).bind fun _ _ => .modify fun w hw => ?_
      refine setEntries_keeps hw hkind fun e he => ?_
      rcases List.mem_append.1 he with he | he
      · exact hentries e he
      · exact (hw.node id).values e he

/-! ### Data -/

theorem make_makes (fuel : Nat) (id : NodeId) : Makes g (fun _ => True) (make fuel id) := by
  unfold make
  refine Makes.get.bind fun w hw => ?_
  split
  · exact .pure trivial
  extract_lets n
  have hawait (m : Made) : Makes g (fun _ => True) (modify (·.await id m)) := .modify fun _ hw => ⟨hw.size, hw.node⟩
  split <;> first
    | exact hawait _
    | exact .refuse _ _ _ _
    | exact (Makes.lift (scalar_ends hw fuel id)).bind fun _ _ => .modify fun _ hw => ⟨hw.size, hw.node⟩

theorem items_makes (fuel : Nat) (id : NodeId) : Makes g (fun _ => True) (items fuel id) := by
  unfold items
  refine Makes.get.bind fun w _ => ?_
  extract_lets n
  split
  · exact (Makes.forM (make_makes fuel) _).bind fun _ _ => .pure trivial
  · exact .refuse _ _ _ _

theorem readEntries_makes (fuel : Nat) (owner : Mark) (known entries : Entries) :
    Makes g (fun _ => True) (readEntries fuel owner known entries) := by
  induction entries generalizing known with
  | nil => exact .pure trivial
  | cons e rest ih =>
    unfold readEntries
    refine (make_makes fuel e.1).bind fun _ _ => Makes.get.bind fun w _ => ?_
    split
    · exact (make_makes fuel e.2).bind fun _ _ => ih _
    · exact .refuse _ _ _ _

theorem entries_makes (fuel : Nat) (id : NodeId) : Makes g (fun _ => True) (entries fuel id) := by
  unfold entries
  refine Makes.get.bind fun w _ => ?_
  extract_lets n
  split
  · exact (flatten_makes fuel id).bind fun _ _ => Makes.get.bind fun w _ => readEntries_makes fuel _ _ _
  · exact .refuse _ _ _ _

theorem readPairs_makes (fuel : Nat) (activity : Activity) (owner : Mark) (items : List NodeId) :
    Makes g (fun _ => True) (readPairs fuel activity owner items) := by
  induction items with
  | nil => exact .pure trivial
  | cons item items ih =>
    unfold readPairs
    refine Makes.get.bind fun w _ => ?_
    extract_lets n wrong
    split
    · rename_i k v _
      exact (make_makes fuel k).bind fun _ _ => (make_makes fuel v).bind fun _ _ => ih.bind fun _ _ => .pure trivial
    · exact .refuse _ _ _ _
    · exact .refuse _ _ _ _

theorem pairs_makes (fuel : Nat) (activity : Activity) (id : NodeId) :
    Makes g (fun _ => True) (pairs fuel activity id) := by
  unfold pairs
  refine Makes.get.bind fun w _ => ?_
  extract_lets n
  split
  · exact readPairs_makes fuel activity _ _
  · exact .refuse _ _ _ _

theorem complete_makes (fuel : Nat) (id : NodeId) : Makes g (fun _ => True) (complete fuel id) := by
  unfold complete
  refine Makes.get.bind fun w _ => ?_
  have hset {α : Type} {x : Making α} (hx : Makes g (fun _ => True) x) (f : α → Made) :
      Makes g (fun _ => True) (x.map f >>= fun m => modify (·.setMade id m)) :=
    (hx.map (Q := fun _ => True) fun _ h => h).bind fun _ _ => .modify fun _ hw => ⟨hw.size, hw.node⟩
  split
  · exact hset (entries_makes fuel id) _
  · exact hset (entries_makes fuel id) _
  · exact hset (pairs_makes fuel _ id) _
  · exact hset (pairs_makes fuel _ id) _
  · exact hset (items_makes fuel id) _

theorem completeAll_makes (fuel levels : Nat) : Makes g (fun _ => True) (completeAll fuel levels) := by
  induction levels with
  | zero => exact .pure trivial
  | succ levels ih =>
    unfold completeAll
    refine Makes.get.bind fun w _ => ?_
    extract_lets ids
    split
    · exact .pure trivial
    · refine Makes.bind (.modify fun w hw => ⟨hw.size, hw.node⟩) fun _ _ => ?_
      exact (Makes.forM (complete_makes fuel) _).bind fun _ _ => ih

theorem document_makes (g : Graph) : Makes g (fun _ => True) (document g) :=
  (make_makes g.bound g.root).bind fun _ _ => completeAll_makes g.bound _

end Making

/-- When the data of a graph cannot be made, the fault is at a place or has a cause in the graph. -/
theorem Graph.value_ends {g : Graph} (h : g.Closed) : Ends (ValueCause g) (fun _ => True) g.value :=
  ((Making.document_makes g _ (Workshop.start_keeps h)).map (Q := fun _ => True) fun _ _ => trivial).map fun _ _ => trivial

end BlockNotebook.Yaml
