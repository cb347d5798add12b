import BlockNotebook.Proofs.Success
import BlockNotebook.Proofs.Yaml.Made
/-!
What merging takes from mappings, and where it puts that.

Merging a mapping goes through other mappings, those at its merge keys and at theirs. `Merges` says
what it leaves of all mappings: entries are added, and an entry goes only if it has a merge key and
the mappings at that key were gone through. `Gathers` says what it gives the mapping itself: the
entries of all mappings it went through, up to such merge keys. Both hold of a mapping that is
merged into itself, and of one that more than one mapping merges (`flatten_merges`).
-/

namespace BlockNotebook.Yaml

/-! ## Work that succeeds -/

/-- Work leads from one workshop to another, with a result. -/
def Making.Leads {α : Type} (x : Making α) (w : Workshop) (a : α) (w' : Workshop) : Prop := x.run w = .ok (a, w')

namespace Making.Leads

variable {α β : Type} {w w' : Workshop}

theorem of_pure {a b : α} (h : Leads (pure a) w b w') : b = a ∧ w' = w := by
  cases h
  exact ⟨rfl, rfl⟩

theorem of_bind {x : Making α} {f : α → Making β} {b : β} (h : Leads (x >>= f) w b w') :
    ∃ a w₁, Leads x w a w₁ ∧ Leads (f a) w₁ b w' := by
  obtain ⟨⟨a, w₁⟩, hx, hf⟩ := bind_eq_ok h
  exact ⟨a, w₁, hx, hf⟩

/-- What follows the look at a workshop works on that workshop. -/
theorem of_get {f : Workshop → Making β} {b : β} (h : Leads (get >>= f) w b w') : Leads (f w) w b w' := h

theorem of_modify {f : Workshop → Workshop} {u : Unit} (h : Leads (modify f) w u w') : w' = f w := by
  cases h
  rfl

theorem of_lift {x : Except Fault α} {a : α} (h : Leads (liftM x) w a w') : x = .ok a ∧ w' = w := by
  cases x with
  | error f => cases h
  | ok b =>
    cases h
    exact ⟨rfl, rfl⟩

theorem of_map {x : Making α} {f : α → β} {b : β} (h : Leads (x.map f) w b w') : ∃ a, Leads x w a w' ∧ b = f a := by
  obtain ⟨⟨a, w₁⟩, hx, hpure⟩ := bind_eq_ok h
  cases hpure
  exact ⟨a, hx, rfl⟩

theorem of_refuse {activity : Option Activity} {since : Option Mark} {problem : Problem} {mark : Mark} {a : α} :
    ¬ Leads (refuse activity since problem mark) w a w' := nofun

end Making.Leads

/-! ## Nodes under work -/

/-- What work leaves of a node: a value key may have become text, and a mapping may have other entries. -/
structure Reworked (n m : Node) : Prop where
  tag : m.tag = n.tag ∨ n.tag = .value ∧ m.tag = .str
  content : m.content = n.content ∨ n.kind = .mapping ∧ m.kind = .mapping

namespace Workshop

/-- The workshop has what work leaves of the nodes of a graph. -/
structure WorksOn (g : Graph) (w : Workshop) : Prop where
  size : w.nodes.size = g.nodes.size
  places : w.made.size = g.nodes.size
  node : ∀ id, Reworked (g.node id) (w.node id)

section
variable {g : Graph} {w : Workshop}

theorem start_worksOn (g : Graph) : (start g).WorksOn g :=
  ⟨rfl, Array.size_replicate, fun _ => ⟨.inl rfl, .inl rfl⟩⟩

theorem WorksOn.isMerge_iff (h : w.WorksOn g) (id : NodeId) : (w.node id).tag = .merge ↔ (g.node id).tag = .merge := by
  rcases (h.node id).tag with htag | ⟨hvalue, htext⟩
  · rw [htag]
  · rw [hvalue, htext]
    exact ⟨nofun, nofun⟩

theorem WorksOn.kind (h : w.WorksOn g) (id : NodeId) : (w.node id).kind = (g.node id).kind := by
  rcases (h.node id).content with hcontent | ⟨hn, hm⟩
  · rw [Node.kind, hcontent, Node.kind]
  · rw [hn, hm]

/-- Apart from mappings, nodes keep their content. -/
theorem WorksOn.content (h : w.WorksOn g) {id : NodeId} (hkind : (g.node id).kind ≠ .mapping) :
    (w.node id).content = (g.node id).content :=
  (h.node id).content.resolve_right fun hmapping => hkind hmapping.1

theorem WorksOn.sequence (h : w.WorksOn g) {id : NodeId} {items : List NodeId}
    (hcontent : (w.node id).content = .sequence items) : (g.node id).content = .sequence items := by
  have hkind : (g.node id).kind = .sequence := (h.kind id).symm.trans (Node.kind_eq_sequence.2 ⟨items, hcontent⟩)
  rw [← h.content (by rw [hkind]; nofun), hcontent]

theorem kind_of_mem_entries {n : Node} {e : NodeId × NodeId} (he : e ∈ n.entries) : n.kind = .mapping := by
  unfold Node.entries at he
  split at he
  · rename_i entries hcontent
    exact Node.kind_eq_mapping.2 ⟨entries, hcontent⟩
  · cases he

theorem lt_of_mem_entries {id : NodeId} {e : NodeId × NodeId} (he : e ∈ (w.node id).entries) : id < w.nodes.size := by
  refine Nat.lt_of_not_le fun hid => ?_
  rw [node, Array.getD_eq_getD_getElem?, Array.getElem?_eq_none hid] at he
  cases he

theorem node_setNode_self {id : NodeId} (hid : id < w.nodes.size) (n : Node) : (w.setNode id n).node id = n := by
  simp [node, setNode, Array.getD_eq_getD_getElem?, hid]

theorem node_setNode_ne {id other : NodeId} (hne : other ≠ id) (n : Node) : (w.setNode id n).node other = w.node other := by
  simp [node, setNode, Array.getD_eq_getD_getElem?, Ne.symm hne]

theorem setNode_worksOn (h : w.WorksOn g) {id : NodeId} {n : Node} (hn : Reworked (g.node id) n) :
    (w.setNode id n).WorksOn g := by
  refine ⟨Array.size_setIfInBounds.trans h.size, h.places, fun other => ?_⟩
  rcases w.node_setNode id n other with ⟨he, rfl⟩ | he
  · rwa [he]
  · rw [he]
    exact h.node other

theorem setEntries_worksOn (h : w.WorksOn g) {id : NodeId} (hkind : (w.node id).kind = .mapping) (entries : Entries) :
    (w.setEntries id entries).WorksOn g :=
  setNode_worksOn h ⟨(h.node id).tag, .inr ⟨(h.kind id).symm.trans hkind, rfl⟩⟩

theorem entries_setEntries_self {id : NodeId} (hid : id < w.nodes.size) (entries : Entries) :
    ((w.setEntries id entries).node id).entries = entries := by
  rw [setEntries, node_setNode_self hid]
  rfl

theorem entries_setEntries_ne {id other : NodeId} (hne : other ≠ id) (entries : Entries) :
    (w.setEntries id entries).node other = w.node other := node_setNode_ne hne _

theorem markText_worksOn (h : w.WorksOn g) (id : NodeId) : (w.markText id).WorksOn g := by
  unfold markText
  split
  · rename_i htag
    refine setNode_worksOn h ⟨.inr ⟨?_, rfl⟩, (h.node id).content⟩
    have hvalue := eq_of_beq htag
    rcases (h.node id).tag with hsame | ⟨-, htext⟩
    · rw [← hsame, hvalue]
    · rw [hvalue] at htext
      cases htext
  · exact h

theorem content_markText (w : Workshop) (id other : NodeId) :
    ((w.markText id).node other).content = (w.node other).content := by
  unfold markText
  split
  · rcases w.node_setNode id { w.node id with tag := .str } other with ⟨he, rfl⟩ | he <;> rw [he]
  · rfl

/-- To mark the keys of some entries changes tags only. -/
theorem markTexts (h : w.WorksOn g) (entries : Entries) :
    (entries.foldl (fun w e => w.markText e.1) w).WorksOn g ∧
      (∀ id, ((entries.foldl (fun w e => w.markText e.1) w).node id).content = (w.node id).content) ∧
      (entries.foldl (fun w e => w.markText e.1) w).made = w.made ∧
      (entries.foldl (fun w e => w.markText e.1) w).waiting = w.waiting := by
  induction entries generalizing w with
  | nil => exact ⟨h, fun _ => rfl, rfl, rfl⟩
  | cons e rest ih =>
    obtain ⟨hworks, hcontent, hmade, hwaiting⟩ := ih (markText_worksOn h e.1)
    have hsame : (w.markText e.1).made = w.made ∧ (w.markText e.1).waiting = w.waiting := by
      unfold markText
      split <;> exact ⟨rfl, rfl⟩
    exact ⟨hworks, fun id => (hcontent id).trans (content_markText w e.1 id), hmade.trans hsame.1, hwaiting.trans hsame.2⟩

end

end Workshop

/-! ## What merging leaves -/

/-- The mappings at a merge key are among those gone through. -/
def Graph.Taken (g : Graph) (seen : List NodeId) (value : NodeId) : Prop :=
  match (g.node value).content with
  | .scalar _ => False
  | .sequence items => ∀ item ∈ items, (g.node item).kind = .mapping ∧ item ∈ seen
  | .mapping _ => value ∈ seen

/-- An entry that gives way to the entries of other mappings. -/
def Graph.Yields (g : Graph) (seen : List NodeId) (e : NodeId × NodeId) : Prop :=
  (g.node e.1).tag = .merge ∧ g.Taken seen e.2

theorem Graph.Yields.mono {g : Graph} {seen others : List NodeId} (hsub : seen ⊆ others) {e : NodeId × NodeId}
    (h : g.Yields seen e) : g.Yields others e := by
  refine ⟨h.1, ?_⟩
  have htaken := h.2
  unfold Graph.Taken at htaken ⊢
  split
  · rename_i hcontent
    rw [hcontent] at htaken
    exact htaken
  · rename_i items hcontent
    rw [hcontent] at htaken
    exact fun item hitem => ⟨(htaken item hitem).1, hsub (htaken item hitem).2⟩
  · rename_i entries hcontent
    rw [hcontent] at htaken
    exact hsub htaken

/-- From one workshop to another, the mappings that were gone through were merged, and only they. -/
structure Merges (g : Graph) (seen : List NodeId) (w w' : Workshop) : Prop where
  works : w'.WorksOn g
  made : w'.made = w.made
  waiting : w'.waiting = w.waiting
  others : ∀ m ∉ seen, (w'.node m).entries = (w.node m).entries
  kept : ∀ m, ∀ e ∈ (w.node m).entries, e ∈ (w'.node m).entries ∨ g.Yields seen e

/-- Some entries hold those of all mappings that were gone through. -/
def Gathers (g : Graph) (seen : List NodeId) (w : Workshop) (entries : Entries) : Prop :=
  ∀ m ∈ seen, ∀ e ∈ (w.node m).entries, e ∈ entries ∨ g.Yields seen e

section
variable {g : Graph} {seen others : List NodeId} {w w₁ w₂ w' : Workshop}

theorem Merges.append (h : Merges g seen w w₁) (h' : Merges g others w₁ w₂) : Merges g (seen ++ others) w w₂ := by
  refine ⟨h'.works, h'.made.trans h.made, h'.waiting.trans h.waiting, fun m hm => ?_, fun m e he => ?_⟩
  · have hm := not_or.1 fun h => hm (List.mem_append.2 h)
    rw [h'.others m hm.2, h.others m hm.1]
  · rcases h.kept m e he with he | he
    · rcases h'.kept m e he with he | he
      · exact .inl he
      · exact .inr (he.mono (List.subset_append_right _ _))
    · exact .inr (he.mono (List.subset_append_left _ _))

/-- What was gathered first stays gathered, and what is gathered later was there before, or gave way. -/
theorem Gathers.append {entries later : Entries} (h : Merges g seen w w₁) (hfirst : Gathers g seen w entries)
    (hlater : Gathers g others w₁ later) {all : Entries} (hentries : entries ⊆ all) (hall : later ⊆ all) :
    Gathers g (seen ++ others) w all := by
  intro m hm e he
  rcases List.mem_append.1 hm with hm | hm
  · rcases hfirst m hm e he with he | he
    · exact .inl (hentries he)
    · exact .inr (he.mono (List.subset_append_left _ _))
  · rcases h.kept m e he with he | he
    · rcases hlater m hm e he with he | he
      · exact .inl (hall he)
      · exact .inr (he.mono (List.subset_append_right _ _))
    · exact .inr (he.mono (List.subset_append_left _ _))

end

namespace Making

open Workshop

variable {g : Graph} {w w' : Workshop}

theorem cutAtMerge_eq_some {entries before after : Entries} {value : NodeId}
    (h : cutAtMerge w entries = some (before, value, after)) :
    ∃ k, (w.node k).tag = .merge ∧ entries = before ++ (k, value) :: after := by
  induction entries generalizing before with
  | nil => cases h
  | cons e rest ih =>
    unfold cutAtMerge at h
    split at h
    · rename_i htag
      cases h
      exact ⟨_, eq_of_beq htag, rfl⟩
    · obtain ⟨⟨before', r⟩, hr, he⟩ := Option.map_eq_some_iff.1 h
      cases he
      obtain ⟨k, hk, rfl⟩ := ih hr
      exact ⟨k, hk, rfl⟩

/-- Merging a mapping goes through mappings, itself among them, and gathers their entries in it. -/
def Flattens (g : Graph) (flatten : NodeId → Making Unit) : Prop :=
  ∀ id w w', w.WorksOn g → (flatten id).Leads w () w' →
    ∃ seen, id ∈ seen ∧ Merges g seen w w' ∧ Gathers g seen w (w'.node id).entries

/-- What merging the items of a sequence does. -/
theorem mergeItems_merges {flatten : NodeId → Making Unit} (hflatten : Flattens g flatten) (owner : Mark)
    (items : List NodeId) {w w' : Workshop} (hw : w.WorksOn g) {entries : Entries}
    (h : (mergeItems flatten owner items).Leads w entries w') :
    ∃ seen, (∀ item ∈ items, (g.node item).kind = .mapping ∧ item ∈ seen) ∧ Merges g seen w w' ∧
      Gathers g seen w entries := by
  induction items generalizing w entries with
  | nil =>
    obtain ⟨rfl, rfl⟩ := h.of_pure
    exact ⟨[], nofun, ⟨hw, rfl, rfl, fun _ _ => rfl, fun _ _ he => .inl he⟩, nofun⟩
  | cons item items ih =>
    unfold mergeItems at h
    have h := h.of_get
    dsimp only at h
    split at h
    · rename_i hkind
      obtain ⟨_, w₁, hitem, h⟩ := h.of_bind
      obtain ⟨seen, hmem, hmerges, hgathers⟩ := hflatten item w w₁ hw hitem
      have h := h.of_get
      obtain ⟨later, w₂, hlater, h⟩ := h.of_bind
      obtain ⟨rfl, rfl⟩ := h.of_pure
      obtain ⟨others, hitems, hmerges', hgathers'⟩ := ih hmerges.works hlater
      refine ⟨seen ++ others, List.forall_mem_cons.2 ⟨⟨?_, List.mem_append_left _ hmem⟩, fun i hi => ?_⟩,
        hmerges.append hmerges', hgathers.append hmerges hgathers' (List.subset_append_right _ _)
          (List.subset_append_left _ _)⟩
      · rw [← hw.kind item]
        exact eq_of_beq hkind
      · exact ⟨(hitems i hi).1, List.mem_append_right _ (hitems i hi).2⟩
    · exact absurd h Leads.of_refuse

/-- What merging the value at a merge key does. -/
theorem merged_merges {flatten : NodeId → Making Unit} (hflatten : Flattens g flatten) (owner : Mark)
    (value : NodeId) {w w' : Workshop} (hw : w.WorksOn g) {entries : Entries}
    (h : (merged flatten owner value).Leads w entries w') :
    ∃ seen, g.Taken seen value ∧ Merges g seen w w' ∧ Gathers g seen w entries := by
  unfold merged at h
  have h := h.of_get
  dsimp only at h
  split at h
  · rename_i es hcontent
    obtain ⟨_, w₁, hvalue, h⟩ := h.of_bind
    obtain ⟨seen, hmem, hmerges, hgathers⟩ := hflatten value w w₁ hw hvalue
    obtain ⟨rfl, rfl⟩ := Leads.of_pure h.of_get
    refine ⟨seen, ?_, hmerges, hgathers⟩
    have hkind : (g.node value).kind = .mapping := (hw.kind value).symm.trans (Node.kind_eq_mapping.2 ⟨es, hcontent⟩)
    obtain ⟨entries, hmapping⟩ := Node.kind_eq_mapping.1 hkind
    rw [Graph.Taken, hmapping]
    exact hmem
  · rename_i items hcontent
    obtain ⟨seen, hitems, hmerges, hgathers⟩ := mergeItems_merges hflatten owner items hw h
    refine ⟨seen, ?_, hmerges, hgathers⟩
    rw [Graph.Taken, hw.sequence hcontent]
    exact hitems
  · exact absurd h Leads.of_refuse

/-- Where no merge key is left, the keys are marked, and the entries stay. -/
theorem markTexts_merges (hw : w.WorksOn g) (id : NodeId) (entries : Entries) :
    Merges g [id] w (entries.foldl (fun w e => w.markText e.1) w) ∧
      Gathers g [id] w ((entries.foldl (fun w e => w.markText e.1) w).node id).entries := by
  obtain ⟨hworks, hcontent, hmade, hwaiting⟩ := markTexts hw entries
  have hentries (m : NodeId) : ((entries.foldl (fun w e => w.markText e.1) w).node m).entries = (w.node m).entries := by
    rw [Node.entries, hcontent m, Node.entries]
  refine ⟨⟨hworks, hmade, hwaiting, fun m _ => hentries m, fun m e he => .inl ?_⟩, fun m hm e he => .inl ?_⟩
  · rwa [hentries]
  · rwa [hentries, ← List.mem_singleton.1 hm]

/-- Of the entries of all mappings, the one at the merge key is taken out. -/
theorem mem_of_cut {id k value : NodeId} {before after : Entries}
    (hentries : (w.node id).entries = before ++ (k, value) :: after) (hid : id < w.nodes.size) {m : NodeId}
    {e : NodeId × NodeId} (he : e ∈ (w.node m).entries) :
    e ∈ ((w.setEntries id (before ++ after)).node m).entries ∨ e = (k, value) := by
  by_cases hm : m = id
  · rw [hm, entries_setEntries_self hid]
    rw [hm, hentries] at he
    rcases List.mem_append.1 he with he | he
    · exact .inl (List.mem_append_left _ he)
    · rcases List.mem_cons.1 he with he | he
      · exact .inr he
      · exact .inl (List.mem_append_right _ he)
  · rw [entries_setEntries_ne hm]
    exact .inl he

/-- The induction is on the bound of the recursion; if that is too low, merge keys are left, which is allowed for here. -/
theorem flatten_merges (g : Graph) (fuel : Nat) : Flattens g (flatten fuel) := by
  intro id w w' hw h
  induction fuel generalizing id w w' with
  | zero =>
    obtain ⟨-, rfl⟩ := h.of_pure
    refine ⟨[id], List.mem_singleton_self _, ⟨hw, rfl, rfl, fun _ _ => rfl, fun _ _ he => .inl he⟩, fun m hm e he => ?_⟩
    rw [List.mem_singleton.1 hm] at he
    exact .inl he
  | succ fuel ih =>
    unfold flatten at h
    have h := h.of_get
    dsimp only at h
    split at h
    · obtain rfl := h.of_modify
      exact ⟨[id], List.mem_singleton_self _, markTexts_merges hw id _⟩
    · rename_i before value after hcut
      obtain ⟨k, hk, hentries⟩ := cutAtMerge_eq_some hcut
      have hmem : (k, value) ∈ (w.node id).entries := by
        rw [hentries]
        exact List.mem_append_right _ List.mem_cons_self
      have hid := lt_of_mem_entries hmem
      obtain ⟨_, w₁, hmodify, h⟩ := h.of_bind
      obtain rfl := hmodify.of_modify
      obtain ⟨entries, w₂, hmerged, h⟩ := h.of_bind
      obtain ⟨_, w₃, hrest, h⟩ := h.of_bind
      obtain rfl := h.of_modify
      have hw₁ := setEntries_worksOn hw (kind_of_mem_entries hmem) (before ++ after)
      obtain ⟨seen, htaken, hmerges, hgathers⟩ := merged_merges ih _ value hw₁ hmerged
      obtain ⟨others, hself, hmerges', hgathers'⟩ := ih id w₂ w₃ hmerges.works hrest
      -- both runs together, from the workshop without the merge key
      have hboth := hmerges.append hmerges'
      have hall := hgathers.append hmerges hgathers' (List.subset_append_left entries (w₃.node id).entries)
        (List.subset_append_right _ _)
      have hyields : g.Yields (seen ++ others) (k, value) :=
        Graph.Yields.mono (List.subset_append_left _ _) ⟨(hw.isMerge_iff k).1 hk, htaken⟩
      have hid₃ : id < w₃.nodes.size := by rwa [hboth.works.size, ← hw.size]
      have hkind₃ : (w₃.node id).kind = .mapping := by
        rw [hboth.works.kind, ← hw.kind]
        exact kind_of_mem_entries hmem
      have hseen : id ∈ seen ++ others := List.mem_append_right _ hself
      refine ⟨seen ++ others, hseen, ⟨setEntries_worksOn hboth.works hkind₃ _, hboth.made, hboth.waiting,
        fun m hm => ?_, fun m e he => ?_⟩, fun m hm e he => ?_⟩
      · have hne : m ≠ id := fun heq => hm (heq ▸ hseen)
        rw [entries_setEntries_ne hne, hboth.others m hm, entries_setEntries_ne hne]
      · rcases mem_of_cut hentries hid he with he | rfl
        · refine (hboth.kept m e he).imp_left fun he => ?_
          by_cases hm : m = id
          · rw [hm, entries_setEntries_self hid₃]
            exact List.mem_append_right _ (hm ▸ he)
          · rwa [entries_setEntries_ne hm]
        · exact .inr hyields
      · rw [entries_setEntries_self hid₃]
        rcases mem_of_cut hentries hid he with he | rfl
        · exact hall m hm e he
        · exact .inr hyields

end Making

end BlockNotebook.Yaml
