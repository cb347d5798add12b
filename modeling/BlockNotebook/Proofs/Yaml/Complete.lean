import BlockNotebook.Proofs.Yaml.Reach
import BlockNotebook.Proofs.Yaml.Untagged
/-!
What is made of a graph without tags.

When making it succeeds, no scalar is left out: every one that the root reaches is made, but for
merge keys (`document_made`). Collections are made empty and wait for their parts; the parts of a
mapping that is merged are made in the place of the mapping (`Visits`), and there is a level for
every node, so none is left waiting (`completeAll_underway`).
-/

namespace BlockNotebook.Yaml

/-! ## Reading mappings -/

/-- The key and the value of an entry are made. -/
def AreMade (g : Graph) (w : Workshop) (e : NodeId × NodeId) : Prop := w.IsMade g e.1 ∧ w.IsMade g e.2

/-- The mappings that were gone through have been read: the keys and values of their entries are made, but for
entries that gave way to those of other mappings gone through. -/
structure Visits (g : Graph) (seen : List NodeId) (w w' : Workshop) : Prop where
  others : ∀ m ∉ seen, (w'.node m).entries = (w.node m).entries
  read : ∀ m ∈ seen, ∀ e ∈ (w.node m).entries, AreMade g w' e ∨ g.Yields seen e

/-- More is made, and the mappings that were gone through have been read. -/
structure Reads (g : Graph) (seen : List NodeId) (w w' : Workshop) : Prop where
  more : w.Extends g w'
  visits : Visits g seen w w'

section
variable {g : Graph} {seen others : List NodeId} {w w₁ w₂ w' : Workshop}

theorem Visits.append (h : Visits g seen w w₁) (h' : Visits g others w₁ w₂) (hmore : w₁.Extends g w₂) :
    Visits g (seen ++ others) w w₂ := by
  refine ⟨fun m hm => ?_, fun m hm e he => ?_⟩
  · have hm := not_or.1 fun h => hm (List.mem_append.2 h)
    rw [h'.others m hm.2, h.others m hm.1]
  · by_cases hseen : m ∈ seen
    · rcases h.read m hseen e he with ⟨hkey, hvalue⟩ | hyields
      · exact .inl ⟨hkey.mono hmore, hvalue.mono hmore⟩
      · exact .inr (hyields.mono (List.subset_append_left _ _))
    · rw [← h.others m hseen] at he
      have hother := (List.mem_append.1 hm).resolve_left hseen
      exact (h'.read m hother e he).imp_right fun hyields => hyields.mono (List.subset_append_right _ _)

theorem Reads.refl (h : w.Sound g) : Reads g [] w w := ⟨.refl h, fun _ _ => rfl, nofun⟩

theorem Reads.append (h : Reads g seen w w₁) (h' : Reads g others w₁ w₂) : Reads g (seen ++ others) w w₂ :=
  ⟨h.more.trans h'.more, h.visits.append h'.visits h'.more⟩

/-- A step that makes something and leaves the nodes alone. -/
theorem Reads.of_nodes (h : w.Extends g w') (hnodes : w'.nodes = w.nodes) : Reads g [] w w' :=
  ⟨h, fun m _ => by rw [Workshop.node, Workshop.node, hnodes], nofun⟩

/-- A collection that is made stays sound when its parts take their place. -/
theorem Reads.place {id : NodeId} (hreads : Reads g seen w w₁) (hid : (w.made? id).isSome) {m : Made}
    (hm : MadeOf (g.node id) m) : Reads g seen w (w₁.setMade id m) := by
  have hset := (Workshop.setMade_extends hreads.more.sound hm (.inl (hreads.more.made id hid))).1
  have hplace := hreads.append (.of_nodes hset rfl)
  rwa [List.append_nil] at hplace

/-- Merging makes nothing. -/
theorem Merges.more (hmerges : Merges g seen w w') (h : w.Sound g) : w.Extends g w' := by
  have hmade (id : NodeId) : w'.made? id = w.made? id := by rw [Workshop.made?, Workshop.made?, hmerges.made]
  have hwaiting := hmerges.waiting
  refine ⟨⟨hmerges.works, fun id m hm => h.made id m (hmade id ▸ hm), fun id hid => ?_⟩, fun id hid => ?_, ?_,
    fun id hid => .inl (hwaiting ▸ hid), fun id hid => .inl (hmade id ▸ hid)⟩
  · rw [hmade]
    exact h.waiting id (hwaiting ▸ hid)
  · rwa [hmade]
  · rw [hwaiting]
    exact List.Subset.refl _

/-- A mapping that is merged, and whose entries are then made, is read with all mappings it merges. -/
theorem Merges.reads (hmerges : Merges g seen w w₁) (h : w.Sound g) {entries : Entries} (hgathers : Gathers g seen w entries)
    (hreads : Reads g [] w₁ w₂) (hmade : ∀ e ∈ entries, AreMade g w₂ e) : Reads g seen w w₂ := by
  refine ⟨(hmerges.more h).trans hreads.more, fun m hm => ?_, fun m hm e he => ?_⟩
  · rw [hreads.visits.others m List.not_mem_nil, hmerges.others m hm]
  · exact (hgathers m hm e he).imp_left (hmade e)

end

/-! ## Making -/

namespace Making

open Workshop

/-- The parts of a collection are made: the items of a sequence; a mapping is among those gone through. -/
def IsDone (g : Graph) (seen : List NodeId) (w : Workshop) (id : NodeId) : Prop :=
  match (g.node id).content with
  | .scalar _ => True
  | .sequence items => ∀ item ∈ items, w.IsMade g item
  | .mapping _ => id ∈ seen

section
variable {g : Graph} {seen others : List NodeId} {w w' : Workshop} {id : NodeId}

theorem IsDone.mono (h : IsDone g seen w id) (hmore : w.Extends g w') : IsDone g seen w' id := by
  unfold IsDone at h ⊢
  split
  · trivial
  · rename_i items hcontent
    rw [hcontent] at h
    exact fun item hitem => (h item hitem).mono hmore
  · rename_i entries hcontent
    rwa [hcontent] at h

theorem IsDone.more (h : IsDone g seen w id) (hsub : seen ⊆ others) : IsDone g others w id := by
  unfold IsDone at h ⊢
  split
  · trivial
  · rename_i items hcontent
    rwa [hcontent] at h
  · rename_i entries hcontent
    rw [hcontent] at h
    exact hsub h

theorem isDone_of_scalar (hkind : (g.node id).kind = .scalar) : IsDone g seen w id := by
  obtain ⟨t, hcontent⟩ := Node.kind_eq_scalar.1 hkind
  rw [IsDone, hcontent]
  trivial

theorem isDone_of_mapping (hid : id ∈ seen) (hkind : (g.node id).kind = .mapping) : IsDone g seen w id := by
  obtain ⟨entries, hcontent⟩ := Node.kind_eq_mapping.1 hkind
  rw [IsDone, hcontent]
  exact hid

end

section
variable {g : Graph} (hg : g.IsUntagged)
include hg

/-- What is to be made is made. -/
theorem make_reads {fuel : Nat} {id : NodeId} {w w' : Workshop} (h : w.Sound g) {u : Unit}
    (hmake : (make fuel id).Leads w u w') : Reads g [] w w' ∧ w'.IsMade g id := by
  unfold make at hmake
  have hmake := hmake.of_get
  dsimp only at hmake
  split at hmake
  · rename_i hsome
    obtain ⟨-, rfl⟩ := hmake.of_pure
    exact ⟨.refl h, fun _ => hsome⟩
  rename_i hnone
  have hnone := Option.not_isSome_iff_eq_none.1 hnone
  rcases h.works.tag hg id with ⟨hkind, htag⟩ | ⟨hkind, htag⟩ | ⟨hkind, htag⟩
  · split at hmake
    all_goals first
      | exact absurd hmake Leads.of_refuse
      | skip
    case h_9 =>
      obtain ⟨m, w₁, hlift, hset⟩ := hmake.of_bind
      obtain ⟨hscalar, rfl⟩ := Leads.of_lift hlift
      obtain rfl := hset.of_modify
      exact (setMade_extends h (scalar_madeOf h.works hkind htag hscalar) (.inr hkind)).imp_left (.of_nodes · rfl)
    -- texts show no tag of a collection
    all_goals
      rename_i heq
      rw [heq] at htag
      simp [shownTags] at htag
  · rw [htag] at hmake
    obtain rfl := hmake.of_modify
    exact (await_extends h hnone (by simp [hkind]) (.list hkind)).imp_left (.of_nodes · rfl)
  · rw [htag] at hmake
    obtain rfl := hmake.of_modify
    exact (await_extends h hnone (by simp [hkind]) (.map hkind)).imp_left (.of_nodes · rfl)

theorem forM_make_reads {fuel : Nat} {ids : List NodeId} {w w' : Workshop} (h : w.Sound g) {u : Unit}
    (hmake : (ids.forM (make fuel)).Leads w u w') : Reads g [] w w' ∧ ∀ id ∈ ids, w'.IsMade g id := by
  induction ids generalizing w with
  | nil =>
    obtain ⟨-, rfl⟩ := Leads.of_pure hmake
    exact ⟨.refl h, nofun⟩
  | cons id ids ih =>
    obtain ⟨_, w₁, hfirst, hrest⟩ := Leads.of_bind hmake
    obtain ⟨hreads, hmade⟩ := make_reads hg h hfirst
    obtain ⟨hreads', hmade'⟩ := ih hreads.more.sound hrest
    exact ⟨hreads.append hreads', List.forall_mem_cons.2 ⟨hmade.mono hreads'.more, hmade'⟩⟩

theorem readEntries_reads {fuel : Nat} {owner : Mark} {known entries : Entries} {w w' : Workshop} (h : w.Sound g)
    {all : Entries} (hread : (readEntries fuel owner known entries).Leads w all w') :
    Reads g [] w w' ∧ ∀ e ∈ entries, AreMade g w' e := by
  induction entries generalizing w known with
  | nil =>
    obtain ⟨-, rfl⟩ := hread.of_pure
    exact ⟨.refl h, nofun⟩
  | cons e rest ih =>
    unfold readEntries at hread
    obtain ⟨_, w₁, hkey, hread⟩ := hread.of_bind
    obtain ⟨hreads, hkeyMade⟩ := make_reads hg h hkey
    have hread := hread.of_get
    split at hread
    · obtain ⟨_, w₂, hvalue, hread⟩ := hread.of_bind
      obtain ⟨hreads', hvalueMade⟩ := make_reads hg hreads.more.sound hvalue
      obtain ⟨hreads'', hrest⟩ := ih hreads'.more.sound hread
      have hpair : AreMade g w' e := ⟨(hkeyMade.mono hreads'.more).mono hreads''.more, hvalueMade.mono hreads''.more⟩
      exact ⟨(hreads.append hreads').append hreads'', List.forall_mem_cons.2 ⟨hpair, hrest⟩⟩
    · exact absurd hread Leads.of_refuse

/-- The entries of a mapping are read after those it merges. -/
theorem entries_reads {fuel : Nat} {id : NodeId} {w w' : Workshop} (h : w.Sound g) {all : Entries}
    (hread : (entries fuel id).Leads w all w') :
    ∃ seen, id ∈ seen ∧ Reads g seen w w' ∧ (g.node id).kind = .mapping := by
  unfold entries at hread
  have hread := hread.of_get
  dsimp only at hread
  split at hread
  · rename_i es hcontent
    obtain ⟨_, w₁, hflatten, hread⟩ := hread.of_bind
    obtain ⟨seen, hmem, hmerges, hgathers⟩ := flatten_merges g fuel id w w₁ h.works hflatten
    have hread := hread.of_get
    obtain ⟨hreads, hmade⟩ := readEntries_reads hg (hmerges.more h).sound hread
    exact ⟨seen, hmem, hmerges.reads h hgathers hreads hmade,
      (h.works.kind id).symm.trans (Node.kind_eq_mapping.2 ⟨es, hcontent⟩)⟩
  · exact absurd hread Leads.of_refuse

theorem items_reads {fuel : Nat} {id : NodeId} {w w' : Workshop} (h : w.Sound g) {all : List NodeId}
    (hread : (items fuel id).Leads w all w') :
    Reads g [] w w' ∧ ∃ items, (g.node id).content = .sequence items ∧ ∀ item ∈ items, w'.IsMade g item := by
  unfold items at hread
  have hread := hread.of_get
  dsimp only at hread
  split at hread
  · rename_i items hcontent
    obtain ⟨_, w₁, hmake, hpure⟩ := hread.of_bind
    obtain ⟨-, rfl⟩ := hpure.of_pure
    obtain ⟨hreads, hmade⟩ := forM_make_reads hg h hmake
    exact ⟨hreads, items, h.works.sequence hcontent, hmade⟩
  · exact absurd hread Leads.of_refuse

/-- Without tags, a collection is completed as a mapping or as a list. -/
theorem complete_cases {fuel : Nat} {id : NodeId} {w w' : Workshop} (h : w.WorksOn g) {u : Unit}
    (hcomplete : (complete fuel id).Leads w u w') :
    (∃ es w₁, (entries fuel id).Leads w es w₁ ∧ w' = w₁.setMade id (.map es)) ∨
      ∃ parts w₁, (items fuel id).Leads w parts w₁ ∧ w' = w₁.setMade id (.list parts) := by
  have hcollection : (w.node id).tag ∉ [Tag.set, .orderedMap, .pairs] := by
    have hshown : ∀ tag ∈ shownTags, tag ∉ [Tag.set, .orderedMap, .pairs] := by decide
    rcases h.tag hg id with ⟨-, htag⟩ | ⟨-, htag⟩ | ⟨-, htag⟩
    · exact hshown _ htag
    · rw [htag]
      decide
    · rw [htag]
      decide
  unfold complete at hcomplete
  have hcomplete := hcomplete.of_get
  dsimp only at hcomplete
  split at hcomplete
  · obtain ⟨m, w₁, hparts, hset⟩ := hcomplete.of_bind
    obtain ⟨es, hentries, rfl⟩ := hparts.of_map
    exact .inl ⟨es, w₁, hentries, hset.of_modify⟩
  · exact absurd (by simp_all) hcollection
  · exact absurd (by simp_all) hcollection
  · exact absurd (by simp_all) hcollection
  · obtain ⟨m, w₁, hparts, hset⟩ := hcomplete.of_bind
    obtain ⟨parts, hitems, rfl⟩ := hparts.of_map
    exact .inr ⟨parts, w₁, hitems, hset.of_modify⟩

/-- The parts of a collection that waits are made. -/
theorem complete_reads {fuel : Nat} {id : NodeId} {w w' : Workshop} (h : w.Sound g) (hid : (w.made? id).isSome) {u : Unit}
    (hcomplete : (complete fuel id).Leads w u w') : ∃ seen, Reads g seen w w' ∧ IsDone g seen w' id := by
  rcases complete_cases hg h.works hcomplete with ⟨es, w₁, hentries, rfl⟩ | ⟨parts, w₁, hitems, rfl⟩
  · obtain ⟨seen, hmem, hreads, hkind⟩ := entries_reads hg h hentries
    exact ⟨seen, hreads.place hid (.map hkind), isDone_of_mapping hmem hkind⟩
  · obtain ⟨hreads, items, hcontent, hmade⟩ := items_reads hg h hitems
    refine ⟨[], hreads.place hid (.list (Node.kind_eq_sequence.2 ⟨items, hcontent⟩)), ?_⟩
    rw [IsDone, hcontent]
    exact fun item hitem hlt => isSome_setMade (hmade item hitem hlt)

end

/-! ## Levels -/

/-- A graph on its way: of what is made, the collections wait, or are still to do, or have their parts. -/
structure Underway (g : Graph) (seen todo : List NodeId) (w : Workshop) : Prop where
  sound : w.Sound g
  visits : Visits g seen (.start g) w
  done : ∀ id, (w.made? id).isSome → id ∈ w.waiting ∨ id ∈ todo ∨ IsDone g seen w id

section
variable {g : Graph} {w w' : Workshop}

theorem Underway.step {seen others todo : List NodeId} {id : NodeId} (h : Underway g seen (id :: todo) w)
    (hreads : Reads g others w w') (hid : IsDone g others w' id) : Underway g (seen ++ others) todo w' := by
  refine ⟨hreads.more.sound, h.visits.append hreads.visits hreads.more, fun other hother => ?_⟩
  rcases hreads.more.awaits other hother with hmade | hscalar | hwaits
  · rcases h.done other hmade with hwaits | htodo | hdone
    · exact .inl (hreads.more.waiting hwaits)
    · rcases List.mem_cons.1 htodo with rfl | htodo
      · exact .inr (.inr (hid.more (List.subset_append_right _ _)))
      · exact .inr (.inl htodo)
    · exact .inr (.inr ((hdone.mono hreads.more).more (List.subset_append_left _ _)))
  · exact .inr (.inr (isDone_of_scalar hscalar))
  · exact .inl hwaits

/-- The parts of the collections of one level are made. -/
theorem forM_complete_underway (hg : g.IsUntagged) {fuel : Nat} {ids seen : List NodeId} {w w' : Workshop}
    (h : Underway g seen ids w) (hids : ∀ id ∈ ids, (w.made? id).isSome) {u : Unit}
    (hcomplete : (ids.forM (complete fuel)).Leads w u w') :
    ∃ all, Underway g all [] w' ∧ w.Extends g w' := by
  induction ids generalizing w seen with
  | nil =>
    obtain ⟨-, rfl⟩ := Leads.of_pure hcomplete
    exact ⟨seen, h, .refl h.sound⟩
  | cons id ids ih =>
    obtain ⟨_, w₁, hfirst, hrest⟩ := Leads.of_bind hcomplete
    obtain ⟨hid, hids⟩ := List.forall_mem_cons.1 hids
    obtain ⟨others, hreads, hdone⟩ := complete_reads hg h.sound hid hfirst
    obtain ⟨all, hall, hextends⟩ := ih (h.step hreads hdone) (fun i hi => hreads.more.made i (hids i hi)) hrest
    exact ⟨all, hall, hreads.more.trans hextends⟩

/-- The number of nodes that are not made. -/
def unmade (g : Graph) (w : Workshop) : Nat := ((List.range g.nodes.size).filter fun id => (w.made? id).isNone).length

/-- A level that leaves a collection waiting has made it. -/
theorem unmade_lt (h : w.Extends g w') (hempty : w.waiting = []) (hwaiting : w'.waiting ≠ []) : unmade g w' < unmade g w := by
  obtain ⟨id, rest, hid⟩ := List.exists_cons_of_ne_nil hwaiting
  have hmem : id ∈ w'.waiting := hid ▸ List.mem_cons_self
  have hmade := h.sound.waiting id hmem
  have hnone : w.made? id = none := by
    refine (h.fresh id hmem).resolve_left ?_
    rw [hempty]
    exact List.not_mem_nil
  have hfilter : (List.range g.nodes.size).filter (fun id => (w'.made? id).isNone) =
      ((List.range g.nodes.size).filter fun id => (w.made? id).isNone).filter fun id => (w'.made? id).isNone := by
    rw [List.filter_filter]
    refine List.filter_congr fun other _ => ?_
    cases hother : w.made? other with
    | none => simp
    | some m =>
      obtain ⟨m', hm'⟩ := Option.isSome_iff_exists.1 (h.made other (Option.isSome_of_eq_some hother))
      simp [hm']
  unfold unmade
  rw [hfilter]
  refine List.length_filter_lt_length_iff_exists.2 ⟨id, List.mem_filter.2 ⟨List.mem_range.2 ?_, by rw [hnone]; rfl⟩, ?_⟩
  · rw [← h.sound.works.places]
    exact lt_of_isSome hmade
  · obtain ⟨m, hm⟩ := Option.isSome_iff_exists.1 hmade
    simp [hm]

/-- With a level for every node that is not made yet, nothing is left waiting. -/
theorem completeAll_underway (hg : g.IsUntagged) {fuel levels : Nat} {seen : List NodeId} {w w' : Workshop}
    (h : Underway g seen [] w) (hlevels : w.waiting = [] ∨ unmade g w < levels) {u : Unit}
    (hrun : (completeAll fuel levels).Leads w u w') :
    ∃ all, Underway g all [] w' ∧ w'.waiting = [] ∧ ∀ id, (w.made? id).isSome → (w'.made? id).isSome := by
  induction levels generalizing w seen with
  | zero =>
    obtain ⟨-, rfl⟩ := hrun.of_pure
    exact ⟨seen, h, hlevels.resolve_right (Nat.not_lt_zero _), fun _ h => h⟩
  | succ levels ih =>
    unfold completeAll at hrun
    have hrun := hrun.of_get
    dsimp only at hrun
    split at hrun
    · rename_i hempty
      obtain ⟨-, rfl⟩ := hrun.of_pure
      exact ⟨seen, h, List.reverse_eq_nil_iff.1 (List.isEmpty_iff.1 hempty), fun _ h => h⟩
    · rename_i hne
      obtain ⟨_, w₀, hclear, hrun⟩ := hrun.of_bind
      obtain rfl := hclear.of_modify
      obtain ⟨_, w₁, hlevel, hrun⟩ := hrun.of_bind
      have hstart : Underway g seen w.waiting.reverse { w with waiting := [] } := by
        refine ⟨⟨⟨h.sound.works.size, h.sound.works.places, h.sound.works.node⟩, h.sound.made,
          fun _ hid => absurd hid List.not_mem_nil⟩, ⟨h.visits.others, h.visits.read⟩, fun id hid => ?_⟩
        rcases h.done id hid with hwaits | htodo | hdone
        · exact .inr (.inl (List.mem_reverse.2 hwaits))
        · cases htodo
        · exact .inr (.inr hdone)
      obtain ⟨all, hall, hextends⟩ := forM_complete_underway hg hstart
        (fun id hid => h.sound.waiting id (List.mem_reverse.1 hid)) hlevel
      have hlevels : w₁.waiting = [] ∨ unmade g w₁ < levels := by
        by_cases hw₁ : w₁.waiting = []
        · exact .inl hw₁
        · have hless := unmade_lt hextends rfl hw₁
          have hmore : unmade g w < levels + 1 := hlevels.resolve_left fun hempty => hne (by rw [hempty]; rfl)
          exact .inr (Nat.lt_of_lt_of_le hless (Nat.le_of_lt_succ hmore))
      obtain ⟨whole, hwhole, hempty, hmade⟩ := ih hall hlevels hrun
      exact ⟨whole, hwhole, hempty, fun id hid => hmade id (hextends.made id hid)⟩

/-! ## Whole documents -/

/-- Why a node is not left out: it is made, or its parts are made in its place. -/
inductive Accounted (g : Graph) (seen : List NodeId) (w : Workshop) (id : NodeId) : Prop
  | made (h : w.IsMade g id)
  /-- A mapping whose entries were read for one that merges it. -/
  | visited (hkind : (g.node id).kind = .mapping) (h : id ∈ seen)
  /-- A sequence of such mappings. -/
  | sequence {items : List NodeId} (hcontent : (g.node id).content = .sequence items)
      (h : ∀ item ∈ items, (g.node item).kind = .mapping ∧ item ∈ seen)
  | mergeKey (h : (g.node id).tag = .merge)

theorem Accounted.of_taken {seen : List NodeId} {value : NodeId} (h : g.Taken seen value) : Accounted g seen w value := by
  unfold Graph.Taken at h
  split at h
  · cases h
  · rename_i items hcontent
    exact .sequence hcontent h
  · rename_i entries hcontent
    exact .visited (Node.kind_eq_mapping.2 ⟨entries, hcontent⟩) h

/-- Nothing is left out of what is not left out. -/
theorem Accounted.part (hg : g.IsUntagged) {seen : List NodeId} (h : Underway g seen [] w) (hempty : w.waiting = [])
    {a b : NodeId} (ha : Accounted g seen w a) (hb : b ∈ (g.node a).content.parts) : Accounted g seen w b := by
  have hkind : (g.node a).kind ≠ .scalar := by
    intro hscalar
    obtain ⟨t, hcontent⟩ := Node.kind_eq_scalar.1 hscalar
    rw [hcontent] at hb
    cases hb
  have hvisited (hmem : a ∈ seen) {entries : Entries} (hcontent : (g.node a).content = .mapping entries) :
      Accounted g seen w b := by
    rw [hcontent] at hb
    obtain ⟨e, he, hb⟩ := List.mem_flatMap.1 hb
    have hentry : e ∈ (g.node a).entries := by rwa [Node.entries, hcontent]
    rcases h.visits.read a hmem e hentry with ⟨hkey, hvalue⟩ | ⟨hmerge, htaken⟩
    · rcases List.mem_cons.1 hb with rfl | hb
      · exact .made hkey
      · rw [List.mem_singleton.1 hb]
        exact .made hvalue
    · rcases List.mem_cons.1 hb with rfl | hb
      · exact .mergeKey hmerge
      · rw [List.mem_singleton.1 hb]
        exact .of_taken htaken
  cases ha with
  | made hmade =>
    have hdone : IsDone g seen w a := by
      rcases h.done a (hmade (lt_of_kind hkind)) with hwaits | htodo | hdone
      · rw [hempty] at hwaits
        cases hwaits
      · cases htodo
      · exact hdone
    unfold IsDone at hdone
    split at hdone
    · rename_i t hcontent
      rw [hcontent] at hb
      cases hb
    · rename_i items hcontent
      rw [hcontent] at hb
      exact .made (hdone b hb)
    · rename_i entries hcontent
      exact hvisited hdone hcontent
  | visited hmapping hmem =>
    obtain ⟨entries, hcontent⟩ := Node.kind_eq_mapping.1 hmapping
    exact hvisited hmem hcontent
  | sequence hcontent hitems =>
    rw [hcontent] at hb
    exact .visited (hitems b hb).1 (hitems b hb).2
  | mergeKey hmerge => exact absurd ((hg a).scalar_of_tag (by rw [hmerge]; simp [shownTags])) hkind

theorem made?_start (g : Graph) (id : NodeId) : (start g).made? id = none := by
  rw [made?, start, Array.getD_eq_getD_getElem?, Array.getElem?_replicate]
  split <;> rfl

theorem start_sound (g : Graph) : (start g).Sound g := by
  refine ⟨start_worksOn g, fun id m hm => ?_, nofun⟩
  rw [made?_start] at hm
  cases hm

/-- When making a graph without tags succeeds, the scalars that its root reaches are made, but for merge keys. -/
theorem document_made (hg : g.IsUntagged) {u : Unit} (hrun : (document g).Leads (start g) u w) :
    w.Sound g ∧ ∀ id < g.nodes.size, Reaches g.nodes g.root id → (g.node id).kind = .scalar → (g.node id).tag ≠ .merge →
      (w.made? id).isSome := by
  obtain ⟨_, w₁, hroot, hrest⟩ := Leads.of_bind hrun
  obtain ⟨hreads, hrootMade⟩ := make_reads hg (start_sound g) hroot
  have hstart : Underway g [] [] w₁ := by
    refine ⟨hreads.more.sound, hreads.visits, fun id hid => ?_⟩
    rcases hreads.more.awaits id hid with hmade | hscalar | hwaits
    · rw [made?_start] at hmade
      cases hmade
    · exact .inr (.inr (isDone_of_scalar hscalar))
    · exact .inl hwaits
  have hlevels : unmade g w₁ < g.nodes.size + 1 := by
    have := List.length_filter_le (fun id => (w₁.made? id).isNone) (List.range g.nodes.size)
    rw [List.length_range] at this
    exact Nat.lt_succ_of_le this
  obtain ⟨all, hall, hempty, hmade⟩ := completeAll_underway hg hstart (.inr hlevels) hrest
  refine ⟨hall.sound, fun id hid hreach hkind htag => ?_⟩
  have haccounted : Accounted g all w id := by
    clear hid hkind htag
    induction hreach with
    | refl => exact .made fun hlt => hmade g.root (hrootMade hlt)
    | tail _ hpart ih => exact ih.part hg hall hempty hpart
  cases haccounted with
  | made hmade => exact hmade hid
  | visited hmapping => cases hmapping.symm.trans hkind
  | sequence hcontent => cases (Node.kind_eq_sequence.2 ⟨_, hcontent⟩).symm.trans hkind
  | mergeKey hmerge => exact absurd hmerge htag

end

end Making

end BlockNotebook.Yaml
