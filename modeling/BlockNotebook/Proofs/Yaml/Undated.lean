import BlockNotebook.Proofs.Yaml.Complete
import BlockNotebook.Proofs.Yaml.Timestamp
import BlockNotebook.Value.Shown
import BlockNotebook.Yaml.Load
/-!
The data of a text without tags, where dates are left as text.

Every scalar in it is null, a truth value, a number or a text, and so is every key. A scalar that
has the form of a date is made into its own text, wherever it stands: in a list, as a key, as a
value, in a mapping that is merged, and at an anchor (`dates_stay_text`).
-/

namespace BlockNotebook

/-- Data without dates: its scalars, keys included, are null, truth values, numbers and texts. -/
inductive Value.IsUndated : Value → Prop
  | basic {v : Value} (h : v.IsBasic) : IsUndated v
  | list {items : List Value} (h : ∀ v ∈ items, IsUndated v) : IsUndated (.list items)
  | map {entries : List (Value × Value)} (hkeys : ∀ e ∈ entries, e.1.IsBasic) (hvalues : ∀ e ∈ entries, IsUndated e.2) :
    IsUndated (.map entries)
  | enclosing {level : Nat} : IsUndated (.enclosing level)

namespace Yaml

/-! ## Texts without tags -/

/-- The event carries no tag. -/
def Event.isUntagged (e : Event) : Bool :=
  match e.kind with
  | .scalar _ (.tagged _) _ => false
  | .sequenceStart _ tag => tag.isNone
  | .mappingStart _ tag => tag.isNone
  | _ => true

/-- No node of the text carries a tag. -/
def IsUntaggedText (t : Text) : Prop := ∀ e ∈ (events (tokens t.characters)).items, e.isUntagged

theorem Begins.isUntagged {e : Event} {n : Node} (h : Begins false e n) (he : e.isUntagged) : IsUntagged n := by
  cases h with
  | tagged => cases he
  | byText => exact .byText
  | asText => exact .asText
  | sequence =>
    rw [Option.isNone_iff_eq_none.1 he]
    exact .sequence
  | mapping =>
    rw [Option.isNone_iff_eq_none.1 he]
    exact .mapping

theorem isUntagged_of_begun {g : Graph} {es : Stream Event} (hbegun : ∀ n ∈ g.nodes, ∃ e ∈ es.items, Begins false e n)
    (htags : ∀ e ∈ es.items, e.isUntagged) : g.IsUntagged := by
  intro id
  by_cases hid : id < g.nodes.size
  · obtain ⟨e, he, hbegins⟩ := hbegun _ (Graph.mem_of_lt hid)
    exact hbegins.isUntagged (htags e he)
  · have hnull : Tag.ofText false [] = .null := by decide
    rw [Graph.node_of_le (Nat.le_of_not_lt hid), ← hnull]
    exact .byText

/-! ## Data without dates -/

theorem MadeOf.isBasic {n : Node} {m : Made} (h : MadeOf n m) : m.plain.IsBasic := by
  cases h with
  | scalar _ hv => exact hv
  | nan => trivial
  | list => trivial
  | map => trivial

section
variable {made : Array (Option Made)}

theorem isBasic_keyOf (h : ∀ id m, made.getD id none = some m → ∃ n, MadeOf n m) (id : NodeId) :
    (keyOf made id).IsBasic := by
  unfold keyOf
  cases hm : made.getD id none with
  | none => trivial
  | some m =>
    obtain ⟨n, hn⟩ := h id m hm
    exact hn.isBasic

/-- The induction is on the bound for the length of paths. -/
theorem isUndated_unfold (h : ∀ id m, made.getD id none = some m → ∃ n, MadeOf n m) (fuel : Nat) (path : List (Option NodeId))
    (id : NodeId) : (unfold made fuel path id).IsUndated := by
  induction fuel generalizing path id with
  | zero => exact .basic trivial
  | succ fuel ih =>
    unfold Yaml.unfold
    split
    · exact .enclosing
    · refine .list fun v hv => ?_
      obtain ⟨item, -, rfl⟩ := List.mem_map.1 hv
      exact ih _ item
    · rename_i hm
      obtain ⟨n, hn⟩ := h id _ hm
      cases hn
    · rename_i hm
      obtain ⟨n, hn⟩ := h id _ hm
      cases hn
    · refine .map (fun e he => ?_) fun e he => ?_
      · obtain ⟨entry, -, rfl⟩ := List.mem_map.1 he
        exact isBasic_keyOf h entry.1
      · obtain ⟨entry, -, rfl⟩ := List.mem_map.1 he
        exact ih _ entry.2
    · rename_i m _ _ _ _ _ hm
      obtain ⟨n, hn⟩ := h id m hm
      exact .basic hn.isBasic
    · exact .basic trivial

/-- What is made into a text stands as that text, as a key and as any other part. -/
theorem unfold_of_text {id : NodeId} {text : Text} (h : made.getD id none = some (.scalar (.str text))) :
    keyOf made id = .str text ∧ ∀ fuel path, some id ∉ path → unfold made (fuel + 1) path id = .str text := by
  refine ⟨by rw [keyOf, h]; rfl, fun fuel path hpath => ?_⟩
  have hnone : path.idxOf? (some id) = none := List.idxOf?_eq_none_iff.2 hpath
  unfold Yaml.unfold
  rw [hnone, h]
  rfl

end

/-! ## Loading -/

/-- The data of a graph is that of what its nodes are made into. -/
theorem Graph.value_eq_ok {g : Graph} {v : Value} (h : g.value = .ok v) :
    ∃ w, Making.Leads (Making.document g) (.start g) () w ∧ g.made = .ok w.made ∧
      v = unfold w.made (g.nodes.size + 1) [] g.root := by
  obtain ⟨made, hmade, rfl⟩ := map_eq_ok h
  obtain ⟨⟨u, w⟩, hrun, rfl⟩ := map_eq_ok hmade
  exact ⟨w, hrun, hmade, rfl⟩

/-- What is loaded is null, where there is no document, or the data of the graph of the text. -/
theorem loadPlain_cases {t : Text} {v : Value} (h : loadPlain t = .ok v) :
    graph? false (events (tokens t.characters)) = .ok none ∧ v = .null ∨
      ∃ g, graph? false (events (tokens t.characters)) = .ok (some g) ∧ g.value = .ok v := by
  unfold loadPlain load at h
  split at h
  · cases h
  · split at h
    · cases h
    · rename_i hg
      cases h
      exact .inl ⟨hg, rfl⟩
    · rename_i g hg
      exact .inr ⟨g, hg, h⟩

/-- A node with the form of a date has the tag of text. -/
theorem tag_of_isTimestamp {n : Node} (h : IsUntagged n) {text : Text} (hcontent : n.content = .scalar text)
    (hdate : Tag.IsTimestamp (Tag.dropLastLineFeed text.characters)) : n.tag = .str := by
  cases h with
  | byText =>
    cases hcontent
    exact Tag.ofText_plain hdate
  | asText => rfl
  | sequence => cases hcontent
  | mapping => cases hcontent

/-- A scalar with the form of a date is made into its own text. -/
def DatesAreMade (g : Graph) (made : Array (Option Made)) : Prop :=
  ∀ id < g.nodes.size, ∀ text, (g.node id).content = .scalar text →
    Tag.IsTimestamp (Tag.dropLastLineFeed text.characters) → made.getD id none = some (.scalar (.str text))

theorem Graph.value_undated {g : Graph} (hg : g.IsUntagged) (hreach : ∀ id < g.nodes.size, Reaches g.nodes g.root id)
    {v : Value} (h : g.value = .ok v) :
    v.IsUndated ∧ ∃ made, g.made = .ok made ∧ v = unfold made (g.nodes.size + 1) [] g.root ∧ DatesAreMade g made := by
  obtain ⟨w, hrun, hmade, rfl⟩ := Graph.value_eq_ok h
  obtain ⟨hsound, hall⟩ := Making.document_made hg hrun
  refine ⟨isUndated_unfold (fun id m hm => ⟨_, hsound.made id m hm⟩) _ _ _, w.made, hmade, rfl,
    fun id hid text hcontent hdate => ?_⟩
  have htag := tag_of_isTimestamp (hg id) hcontent hdate
  have hkind : (g.node id).kind = .scalar := Node.kind_eq_scalar.2 ⟨text, hcontent⟩
  obtain ⟨m, hm⟩ := Option.isSome_iff_exists.1 (hall id hid (hreach id hid) hkind (by rw [htag]; nofun))
  change w.made? id = _
  rw [hm]
  cases hsound.made id m hm with
  | scalar _ _ htext => rw [htext htag text hcontent]
  | nan _ hne => exact absurd htag hne
  | list hsequence => cases hsequence.symm.trans hkind
  | map hmapping => cases hmapping.symm.trans hkind

/--
Where dates are left as text, the data of a text without tags has null, truth values, numbers and
texts for scalars and keys. Every scalar of the text in the form of a date, which is one that shows
the tag of a timestamp to a reader of dates, is made into its own text, and stands as that text as
a key and as any part of the data.
-/
theorem dates_stay_text {t : Text} {v : Value} (hload : loadPlain t = .ok v) (htags : IsUntaggedText t) :
    v.IsUndated ∧
    (∀ text, Tag.ofText true text = .timestamp ↔ Tag.IsTimestamp (Tag.dropLastLineFeed text.characters)) ∧
    ∀ g, graph? false (events (tokens t.characters)) = .ok (some g) →
      ∃ made, g.made = .ok made ∧ v = unfold made (g.nodes.size + 1) [] g.root ∧
        ∀ id < g.nodes.size, ∀ text, (g.node id).content = .scalar text →
          Tag.IsTimestamp (Tag.dropLastLineFeed text.characters) →
            made.getD id none = some (.scalar (.str text)) ∧ keyOf made id = .str text ∧
              ∀ fuel path, some id ∉ path → unfold made (fuel + 1) path id = .str text := by
  have hgraph {g : Graph} (hg : graph? false (events (tokens t.characters)) = .ok (some g)) (hvalue : g.value = .ok v) :=
    Graph.value_undated (isUntagged_of_begun (((graph?_ends false _).of_eq_ok hg g rfl).2) htags) (graph?_reaches hg) hvalue
  refine ⟨?_, fun text => Tag.ofText_dated_iff, fun g hg => ?_⟩
  · rcases loadPlain_cases hload with ⟨-, rfl⟩ | ⟨g, hg, hvalue⟩
    · exact .basic trivial
    · exact (hgraph hg hvalue).1
  · rcases loadPlain_cases hload with ⟨hnone, -⟩ | ⟨g', hg', hvalue⟩
    · cases hnone.symm.trans hg
    · cases hg.symm.trans hg'
      obtain ⟨-, made, hmade, hv, hdates⟩ := hgraph hg hvalue
      refine ⟨made, hmade, hv, fun id hid text hcontent hdate => ?_⟩
      have hm := hdates id hid text hcontent hdate
      exact ⟨hm, unfold_of_text hm⟩

/-- A date as a key and at an anchor, in a list, and in a mapping that is merged. -/
def dated : Text := "&d 2001-01-01: [*d, 2001-1-1 1:00:00Z]\n<<: \x7ba: 2001-01-02\x7d\n"

theorem dated_stays :
    (loadPlain dated).toOption.map Value.label =
      some "\x7b'a': '2001-01-02', '2001-01-01': ['2001-01-01', '2001-1-1 1:00:00Z']\x7d" ∧
    IsUntaggedText dated ∧
    ∃ g made, graph? false (events (tokens dated.characters)) = .ok (some g) ∧ g.made = .ok made ∧
      (g.node 1).content = .scalar "2001-01-01" ∧ made.getD 1 none = some (.scalar (.str "2001-01-01")) := by
  have hshown : (loadPlain dated).toOption.map Value.label =
      some "\x7b'a': '2001-01-02', '2001-01-01': ['2001-01-01', '2001-1-1 1:00:00Z']\x7d" := by
    rw [dated]
    repeat rw [Text.ofString_ofList]
    decide +kernel
  have htags : IsUntaggedText dated := by
    rw [IsUntaggedText, dated]
    repeat rw [Text.ofString_ofList]
    decide +kernel
  have hnode : (graph? false (events (tokens dated.characters))).toOption.map (fun graph =>
      graph.any fun g => decide (1 < g.nodes.size ∧ (g.node 1).content = .scalar "2001-01-01")) = some true := by
    rw [dated]
    repeat rw [Text.ofString_ofList]
    decide +kernel
  obtain ⟨v, hload, -⟩ := exists_of_toOption hshown
  obtain ⟨graph, hgraph, hany⟩ := exists_of_toOption hnode
  obtain ⟨g, rfl, hg⟩ := (Option.any_eq_true _ graph).1 hany
  obtain ⟨hsize, hcontent⟩ := of_decide_eq_true hg
  obtain ⟨made, hmade, -, hdates⟩ := (dates_stay_text hload htags).2.2 g hgraph
  have hform : Tag.IsTimestamp (Tag.dropLastLineFeed (Text.ofString "2001-01-01").characters) :=
    Tag.isTimestamp_of_text (by decide +kernel)
  exact ⟨hshown, htags, g, made, hgraph, hmade, hcontent, (hdates 1 hsize _ hcontent hform).1⟩

end Yaml

end BlockNotebook
