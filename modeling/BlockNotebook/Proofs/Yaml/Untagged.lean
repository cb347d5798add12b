import BlockNotebook.Proofs.Yaml.Merge
/-!
Nodes without tags, and what each of them is made into.

Without tags, a scalar is made into null, a truth value, a number or a text, a sequence into a list
and a mapping into a mapping (`MadeOf`). A workshop in which nothing else is made is sound
(`Workshop.Sound`), and stays so when more is made (`Workshop.Extends`).
-/

namespace BlockNotebook

/-- Null, a truth value, a number or a text. -/
def Value.IsBasic : Value → Prop
  | .null | .bool _ | .int _ | .float _ | .str _ => True
  | _ => False

namespace Yaml

/-! ## Nodes without tags -/

/-- The node has the tag that its kind or its text gives it. -/
inductive IsUntagged : Node → Prop
  | byText {text : Text} {start : Mark} : IsUntagged ⟨.ofText false text, .scalar text, start⟩
  | asText {text : Text} {start : Mark} : IsUntagged ⟨.str, .scalar text, start⟩
  | sequence {items : List NodeId} {start : Mark} : IsUntagged ⟨.seq, .sequence items, start⟩
  | mapping {entries : Entries} {start : Mark} : IsUntagged ⟨.map, .mapping entries, start⟩

/-- A number that is not that of a node stands for the scalar with no text. -/
theorem Graph.node_of_le {g : Graph} {id : NodeId} (hid : g.nodes.size ≤ id) :
    g.node id = ⟨.null, .scalar [], ⟨0, 0, 0⟩⟩ := by
  rw [Graph.node, Array.getD_eq_getD_getElem?, Array.getElem?_eq_none hid]
  rfl

/-- No node has a tag of its own. -/
def Graph.IsUntagged (g : Graph) : Prop := ∀ id, Yaml.IsUntagged (g.node id)

/-- The tags that texts show. -/
def shownTags : List Tag :=
  [.bool, .float, .int, .merge, .null, .value, .other "tag:yaml.org,2002:yaml", .str]

theorem ofText_mem (t : Text) : Tag.ofText false t ∈ shownTags := by
  have hshown := Tag.shown_ofText false t
  generalize Tag.ofText false t = tag at hshown ⊢
  cases hshown with
  | flag | float | int => simp [shownTags]
  | date hdates => cases hdates
  | other h =>
    simp only [List.mem_cons, List.not_mem_nil, or_false] at h
    rcases h with rfl | rfl | rfl | rfl | rfl <;> simp [shownTags]

theorem IsUntagged.tag {n : Node} (h : IsUntagged n) :
    n.kind = .scalar ∧ n.tag ∈ shownTags ∨ n.kind = .sequence ∧ n.tag = .seq ∨ n.kind = .mapping ∧ n.tag = .map := by
  cases h with
  | byText => exact .inl ⟨rfl, ofText_mem _⟩
  | asText => exact .inl ⟨rfl, by simp [shownTags]⟩
  | sequence => exact .inr (.inl ⟨rfl, rfl⟩)
  | mapping => exact .inr (.inr ⟨rfl, rfl⟩)

theorem IsUntagged.scalar_of_tag {n : Node} (h : IsUntagged n) (htag : n.tag ∈ shownTags) : n.kind = .scalar := by
  rcases h.tag with ⟨hkind, -⟩ | ⟨-, hseq⟩ | ⟨-, hmap⟩
  · exact hkind
  · rw [hseq] at htag
    simp [shownTags] at htag
  · rw [hmap] at htag
    simp [shownTags] at htag

/-- What a node without a tag is made into. The parts of collections are left open. -/
inductive MadeOf (n : Node) : Made → Prop
  | scalar {v : Value} (hkind : n.kind = .scalar) (hv : v.IsBasic)
      (htext : n.tag = .str → ∀ t, n.content = .scalar t → v = .str t) : MadeOf n (.scalar v)
  | nan (hkind : n.kind = .scalar) (htag : n.tag ≠ .str) : MadeOf n .nan
  | list {items : List NodeId} (hkind : n.kind = .sequence) : MadeOf n (.list items)
  | map {entries : Entries} (hkind : n.kind = .mapping) : MadeOf n (.map entries)

theorem isBasic_of_read {tag : Tag} (htag : tag ∈ shownTags) {t : Text} {start : Mark} {v : Value}
    (h : Scalar.read tag t start = .ok v) : v.IsBasic ∧ (tag = .str → v = .str t) := by
  have hmap {x : Except ScalarFault Value} (hx : x.mapError Fault.scalar = .ok v) : x = .ok v := by
    cases x with
    | ok a => cases hx; rfl
    | error e => cases hx
  unfold Scalar.read at h
  split at h
  · cases h
    exact ⟨trivial, nofun⟩
  · refine ⟨?_, nofun⟩
    have h := hmap h
    unfold Scalar.readFlag at h
    dsimp only at h
    repeat' split at h
    all_goals cases h
    all_goals trivial
  · refine ⟨?_, nofun⟩
    have h := hmap h
    unfold Scalar.readInt at h
    split at h
    · cases h
    all_goals
      obtain ⟨n, -, rfl⟩ := map_eq_ok h
      trivial
  · refine ⟨?_, nofun⟩
    have h := hmap h
    unfold Scalar.readFloat at h
    split at h
    · cases h
    all_goals
      obtain ⟨n, -, rfl⟩ := map_eq_ok h
      trivial
  · simp [shownTags] at htag
  · simp [shownTags] at htag
  · cases h
    exact ⟨trivial, fun _ => rfl⟩

/-! ## Making -/

namespace Workshop

/-- What is made is made of its node, and the collections that wait are made already. -/
structure Sound (g : Graph) (w : Workshop) : Prop where
  works : w.WorksOn g
  made : ∀ id m, w.made? id = some m → MadeOf (g.node id) m
  waiting : ∀ id ∈ w.waiting, (w.made? id).isSome

/-- A node is made, if it is one. -/
def IsMade (g : Graph) (w : Workshop) (id : NodeId) : Prop := id < g.nodes.size → (w.made? id).isSome

/-- More is made: what was made stays so, and a collection that is made now waits for its parts. -/
structure Extends (g : Graph) (w w' : Workshop) : Prop where
  sound : w'.Sound g
  made : ∀ id, (w.made? id).isSome → (w'.made? id).isSome
  waiting : w.waiting ⊆ w'.waiting
  fresh : ∀ id ∈ w'.waiting, id ∈ w.waiting ∨ w.made? id = none
  awaits : ∀ id, (w'.made? id).isSome → (w.made? id).isSome ∨ (g.node id).kind = .scalar ∨ id ∈ w'.waiting

section
variable {g : Graph} {w w₁ w₂ w' : Workshop}

theorem Extends.refl (h : w.Sound g) : Extends g w w :=
  ⟨h, fun _ h => h, List.Subset.refl _, fun _ h => .inl h, fun _ h => .inl h⟩

theorem Extends.trans (h : Extends g w w₁) (h' : Extends g w₁ w₂) : Extends g w w₂ := by
  refine ⟨h'.sound, fun id hid => h'.made id (h.made id hid), List.Subset.trans h.waiting h'.waiting,
    fun id hid => ?_, fun id hid => ?_⟩
  · rcases h'.fresh id hid with hid | hnone
    · exact h.fresh id hid
    · refine .inr (Option.not_isSome_iff_eq_none.1 fun hsome => ?_)
      exact Option.not_isSome_iff_eq_none.2 hnone (h.made id hsome)
  · rcases h'.awaits id hid with hid | hscalar | hid
    · rcases h.awaits id hid with hid | hscalar | hid
      · exact .inl hid
      · exact .inr (.inl hscalar)
      · exact .inr (.inr (h'.waiting hid))
    · exact .inr (.inl hscalar)
    · exact .inr (.inr hid)

theorem IsMade.mono {id : NodeId} (hmade : IsMade g w id) (h : Extends g w w') : IsMade g w' id :=
  fun hid => h.made id (hmade hid)

theorem made?_setMade (w : Workshop) (id : NodeId) (m : Made) (other : NodeId) :
    (w.setMade id m).made? other = if other = id ∧ id < w.made.size then some m else w.made? other := by
  simp only [made?, setMade, Array.getD_eq_getD_getElem?, Array.getElem?_setIfInBounds]
  by_cases hid : id = other
  · subst hid
    by_cases hsize : id < w.made.size
    · simp [hsize]
    · simp [hsize]
  · simp [hid, Ne.symm hid]

theorem lt_of_isSome {id : NodeId} (h : (w.made? id).isSome) : id < w.made.size := by
  refine Nat.lt_of_not_le fun hid => ?_
  rw [made?, Array.getD_eq_getD_getElem?, Array.getElem?_eq_none hid] at h
  cases h

theorem setMade_worksOn (h : w.WorksOn g) (id : NodeId) (m : Made) : (w.setMade id m).WorksOn g :=
  ⟨h.size, Array.size_setIfInBounds.trans h.places, h.node⟩

/-- To put something in the place of a node leaves what is made sound. -/
theorem setMade_sound (h : w.Sound g) {id : NodeId} {m : Made} (hm : MadeOf (g.node id) m) : (w.setMade id m).Sound g := by
  refine ⟨setMade_worksOn h.works id m, fun other m' hother => ?_, fun other hother => ?_⟩
  · rw [made?_setMade] at hother
    split at hother
    · rename_i hsame
      cases hother
      rwa [hsame.1]
    · exact h.made other m' hother
  · rw [made?_setMade]
    split
    · rfl
    · exact h.waiting other hother

theorem isMade_setMade (h : w.WorksOn g) (id : NodeId) (m : Made) : IsMade g (w.setMade id m) id := by
  intro hid
  rw [made?_setMade, if_pos ⟨rfl, by rwa [h.places]⟩]
  rfl

theorem isSome_setMade {id other : NodeId} {m : Made} (h : (w.made? other).isSome) :
    ((w.setMade id m).made? other).isSome := by
  rw [made?_setMade]
  split
  · rfl
  · exact h

/-- The tag of a node under work is that of its kind, or one that a text shows. -/
theorem WorksOn.tag (h : w.WorksOn g) (hg : g.IsUntagged) (id : NodeId) :
    (g.node id).kind = .scalar ∧ (w.node id).tag ∈ shownTags ∨ (g.node id).kind = .sequence ∧ (w.node id).tag = .seq ∨
      (g.node id).kind = .mapping ∧ (w.node id).tag = .map := by
  rcases (h.node id).tag with htag | ⟨hvalue, htext⟩
  · rw [htag]
    exact (hg id).tag
  · exact .inl ⟨(hg id).scalar_of_tag (by rw [hvalue]; simp [shownTags]), by rw [htext]; simp [shownTags]⟩

theorem lt_of_kind {id : NodeId} (hkind : (g.node id).kind ≠ .scalar) : id < g.nodes.size := by
  refine Nat.lt_of_not_le fun hid => hkind ?_
  rw [Graph.node_of_le hid]
  rfl

theorem await_extends (h : w.Sound g) {id : NodeId} {m : Made} (hnone : w.made? id = none)
    (hkind : (g.node id).kind ≠ .scalar) (hm : MadeOf (g.node id) m) :
    Extends g w (w.await id m) ∧ IsMade g (w.await id m) id := by
  obtain ⟨hworks, hmade, hwaiting⟩ := setMade_sound h hm
  have hself := isMade_setMade h.works id m
  have hworks' : (w.await id m).WorksOn g := ⟨hworks.size, hworks.places, hworks.node⟩
  refine ⟨⟨⟨hworks', hmade, List.forall_mem_cons.2 ⟨hself (lt_of_kind hkind), hwaiting⟩⟩, fun _ => isSome_setMade,
    List.subset_cons_self _ _, fun other hother => ?_, fun other hother => ?_⟩, hself⟩
  · rcases List.mem_cons.1 hother with rfl | hother
    · exact .inr hnone
    · exact .inl hother
  · change ((w.setMade id m).made? other).isSome at hother
    rw [made?_setMade] at hother
    split at hother
    · rename_i hsame
      exact .inr (.inr (hsame.1 ▸ List.mem_cons_self))
    · exact .inl hother

theorem setMade_extends (h : w.Sound g) {id : NodeId} {m : Made} (hm : MadeOf (g.node id) m)
    (hid : (w.made? id).isSome ∨ (g.node id).kind = .scalar) :
    Extends g w (w.setMade id m) ∧ IsMade g (w.setMade id m) id := by
  refine ⟨⟨setMade_sound h hm, fun _ => isSome_setMade, List.Subset.refl _, fun _ h => .inl h, fun other hother => ?_⟩,
    isMade_setMade h.works id m⟩
  rw [made?_setMade] at hother
  split at hother
  · rename_i hsame
    rw [hsame.1]
    exact hid.imp_right .inl
  · exact .inl hother

/-- A scalar is made into the data of its text, which is text if its tag is that of text. -/
theorem scalar_madeOf (h : w.WorksOn g) {fuel : Nat} {id : NodeId} {m : Made}
    (hkind : (g.node id).kind = .scalar) (htag : (w.node id).tag ∈ shownTags) (hm : w.scalar fuel id = .ok m) :
    MadeOf (g.node id) m := by
  have hcontent := @WorksOn.content g w h id (by rw [hkind]; nofun)
  have htext : (g.node id).tag = .str → (w.node id).tag = .str := by
    intro hstr
    rcases (h.node id).tag with hsame | ⟨hvalue, -⟩
    · rw [hsame, hstr]
    · cases hstr.symm.trans hvalue
  unfold Workshop.scalar at hm
  dsimp only at hm
  obtain ⟨t, ht, hm⟩ := bind_eq_ok hm
  have hsame : ∀ u, (g.node id).content = .scalar u → u = t := by
    intro u hu
    rw [← hcontent] at hu
    cases fuel with
    | zero => cases ht
    | succ fuel =>
      unfold Workshop.text at ht
      rw [hu] at ht
      cases ht
      rfl
  split at hm
  · cases hm
  split at hm
  · rename_i hnan
    cases hm
    refine .nan hkind fun hstr => ?_
    rw [htext hstr] at hnan
    cases hnan
  · obtain ⟨v, hv, hm⟩ := bind_eq_ok hm
    cases hm
    obtain ⟨hbasic, hstr⟩ := isBasic_of_read htag hv
    exact .scalar hkind hbasic fun hg u hu => by rw [hsame u hu, hstr (htext hg)]

end

end Workshop

end Yaml

end BlockNotebook
