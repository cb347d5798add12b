import BlockNotebook.Proofs.Schema.Below
import BlockNotebook.Proofs.Document.Finding
/-!
Blocks in documents and on their own.

A document is checked as a whole, and a block can be checked on its own. Both
find the same: `read_block` says that the findings of a document inside a block
are those of the block, moved to its place, and that the block of a document that
is read is the block that is read on its own. It does not matter what else the
document holds.
-/

namespace BlockNotebook

open Schema

namespace Schema

/-! ## Paths that keep their segments -/

/-- No segment of the path is taken for an arm; the two segments before it are given. -/
def Stays (list index : Option Segment) : Path → Prop
  | [] => True
  | s :: p => (∀ t, Path.isArm list index t = false) ∧ Stays index (some s) p

theorem Stays.prefix_iff {list index : Option Segment} {p : Path} (h : Stays list index p) (raw : Path) :
    p <+: Path.withoutArmsAfter list index raw ↔ p <+: raw := by
  induction p generalizing list index raw with
  | nil => simp
  | cons s p ih =>
    obtain ⟨hs, hp⟩ := h
    cases raw with
    | nil => rfl
    | cons t rest =>
      rw [Path.withoutArmsAfter, hs, if_neg Bool.false_ne_true, List.cons_prefix_cons, List.cons_prefix_cons]
      refine and_congr_right fun he => ?_
      rw [← he]
      exact ih hp rest

/-- After a key it does not matter what stands before the key. -/
theorem withoutArmsAfter_key (list : Option Segment) (name : Text) (rest : Path) :
    Path.withoutArmsAfter list (some (.key name)) rest = Path.withoutArmsAfter none (some (.key name)) rest := by
  cases rest with
  | nil => rfl
  | cons s rest =>
    rw [Path.withoutArmsAfter, Path.withoutArmsAfter, isArm_after_key, isArm_after_key]

end Schema

namespace Document

/-! ## The place of a block -/

/-- The data of a block of a notebook. -/
def blockData? (v : Value) (notebook block : Nat) : Option Value := do
  let project ← v.get? "project"
  let notebooks ← (← project.get? "notebooks").items?
  let blocks ← (← (← notebooks[notebook]?).get? "blocks").items?
  blocks[block]?

/-- The path to a block of a notebook. -/
def blockPath (notebook block : Nat) : Path :=
  [.key "project", .key "notebooks", .index notebook, .key "blocks", .index block]

/-- The steps to a block. -/
theorem blockData?_eq_some {v x : Value} {k i : Nat} (h : blockData? v k i = some x) :
    ∃ project listed notebooks notebook bs blocks, v.get? "project" = some project ∧
      project.get? "notebooks" = some listed ∧ listed.items? = some notebooks ∧ notebooks[k]? = some notebook ∧
      notebook.get? "blocks" = some bs ∧ bs.items? = some blocks ∧ blocks[i]? = some x := by
  simp only [blockData?, Option.bind_eq_bind, Option.bind_eq_some_iff] at h
  obtain ⟨project, hproject, listed, hlisted, notebooks, hnotebooks, notebook, hnotebook, bs, hbs, blocks, hblocks,
    hx⟩ := h
  exact ⟨_, _, _, _, _, _, hproject, hlisted, hnotebooks, hnotebook, hbs, hblocks, hx⟩

theorem find_of_get? {v x : Value} {f : RecordField Shape} (h : v.get? f.key = some x) :
    ∃ entries, v.entries? = some entries ∧ f.find entries = some (f.key, x) := by
  obtain ⟨entries, hentries, hx⟩ := Option.bind_eq_some_iff.1 h
  exact ⟨entries, hentries, by rw [RecordField.find, hx]⟩

/-- The issues below a field that has one name are those of the check of the data there. -/
theorem issuesBelow_get {title : String} {fields : List (RecordField Shape)} (hd : fieldsPass fields)
    {f : RecordField Shape} (hf : fields.filter (·.isSpelled f.key) = [f]) {v x : Value} (hx : v.get? f.key = some x)
    (p : Path) :
    issuesBelow (.key f.key :: p) (check (.record title false fields) v) = issuesBelow p (check f.shape x) := by
  obtain ⟨entries, hv, hfind⟩ := find_of_get? hx
  exact issuesBelow_record hd hf hv hfind p

theorem field_get {title : String} {fields : List (RecordField Shape)} {f : RecordField Shape}
    (hf : fields.find? (·.key == f.key) = some f) {v x : Value} (hx : v.get? f.key = some x) {c : Checked}
    (h : check (.record title false fields) v = .ok c) : ∃ d, c.field? f.key = some d ∧ check f.shape x = .ok d := by
  obtain ⟨entries, hv, hfind⟩ := find_of_get? hx
  exact field_of_record h hv hf hfind

/-- The issues of a document inside a block are those of the block. -/
theorem issuesBelow_block {v x : Value} {k i : Nat} (h : blockData? v k i = some x) :
    issuesBelow (blockPath k i) (check shape v) = issuesOf (check Block.shape x) := by
  obtain ⟨project, listed, notebooks, notebook, bs, blocks, hproject, hlisted, hnotebooks, hnotebook, hbs, hblocks, hx⟩ :=
    blockData?_eq_some h
  calc issuesBelow (blockPath k i) (check shape v)
    _ = issuesBelow ((blockPath k i).drop 1) (check projectShape project) :=
        issuesBelow_get (f := Block.required "project" projectShape) (by decide +kernel) rfl hproject _
    _ = issuesBelow ((blockPath k i).drop 2) (check (.listOf Notebook.shape) listed) :=
        issuesBelow_get (f := Block.required "notebooks" (.listOf Notebook.shape)) (by decide +kernel) rfl hlisted _
    _ = issuesBelow ((blockPath k i).drop 3) (check Notebook.shape notebook) :=
        issuesBelow_listOf hnotebooks hnotebook _
    _ = issuesBelow ((blockPath k i).drop 4) (check (.listOf Block.shape) bs) :=
        issuesBelow_get (f := Block.required "blocks" (.listOf Block.shape)) (by decide +kernel) rfl hbs _
    _ = issuesBelow [] (check Block.shape x) := issuesBelow_listOf hblocks hx _
    _ = issuesOf (check Block.shape x) := issuesBelow_nil _

/-- A field of a field is one of a record. -/
theorem record?_of_field? {c p d : Checked} {name inner : String} (hp : c.field? name = some p)
    (hd : p.field? inner = some d) : c.record? name = some p := by
  cases p with
  | record fields others => rw [Checked.record?, hp]
  | _ => cases hd

/-- The block of a document that is read is the one that is read on its own. -/
theorem block_of_read {v x : Value} {k i : Nat} (h : blockData? v k i = some x) {d : Document} (hd : read v = .ok d) :
    ∃ n b, d.notebooks[k]? = some n ∧ n.blocks[i]? = some b ∧ Block.read x = .ok b := by
  obtain ⟨project, listed, notebooks, notebook, bs, blocks, hproject, hlisted, hnotebooks, hnotebook, hbs, hblocks, hx⟩ :=
    blockData?_eq_some h
  obtain ⟨c, hc, rfl⟩ : ∃ c, check shape v = .ok c ∧ Document.mk c = d := by
    unfold read at hd
    split at hd
    · cases hd; exact ⟨_, ‹_›, rfl⟩
    · cases hd
  obtain ⟨p, hp, hpc⟩ : ∃ p, c.field? "project" = some p ∧ check projectShape project = .ok p :=
    field_get (f := Block.required "project" projectShape) rfl hproject hc
  obtain ⟨ns, hns, hnsc⟩ : ∃ ns, p.field? "notebooks" = some ns ∧ check (.listOf Notebook.shape) listed = .ok ns :=
    field_get (f := Block.required "notebooks" (.listOf Notebook.shape)) rfl hlisted hpc
  obtain ⟨cs, n, rfl, hn, hnc⟩ := item_of_listOf hnsc hnotebooks hnotebook
  obtain ⟨ls, hls, hlsc⟩ : ∃ ls, n.field? "blocks" = some ls ∧ check (.listOf Block.shape) bs = .ok ls :=
    field_get (f := Block.required "blocks" (.listOf Block.shape)) rfl hbs hnc
  obtain ⟨ds, b, rfl, hb, hbc⟩ := item_of_listOf hlsc hblocks hx
  have hproject : Document.project ⟨c⟩ = p := by
    rw [Document.project, record?_of_field? hp hns]
    rfl
  refine ⟨⟨n⟩, Block.ofChecked b, ?_, ?_, ?_⟩
  · have hitems : p.items? "notebooks" = some cs := by rw [Checked.items?, hns]
    rw [Document.notebooks, hproject, hitems, Option.getD_some, List.getElem?_map, hn]
    rfl
  · have hitems : n.items? "blocks" = some ds := by rw [Checked.items?, hls]
    rw [Notebook.blocks, hitems, Option.getD_some, List.getElem?_map, hb]
    rfl
  · rw [Block.read, hbc]
    rfl

/-! ## Findings of blocks -/

/-- What is wrong with data that should be a block. Every path begins with the arm of the block. -/
def blockFindings (x : Value) : List Finding := (issuesOf (Block.read x)).map Finding.ofIssue

/-- The finding of a block, as one of a document that holds the block; the path to the block stands for the arm. -/
def placed (p : Path) (f : Finding) : Finding := { f with path := p ++ f.path.drop 1 }

theorem stays_blockPath (k i : Nat) : Stays none none (blockPath k i) :=
  ⟨fun _ => rfl, fun _ => rfl, isArm_after_key _ _, isArm_of_not_isArmed rfl _, isArm_after_key _ _, trivial⟩

theorem issuesOf_tagged (key otherwise : String) (arms : List (String × Shape)) (v : Value) :
    issuesOf (check (.tagged key otherwise arms) v) =
      (issuesOf (checkArm arms (chosenArm key otherwise arms v) v)).map
        (Issue.under (.key (chosenArm key otherwise arms v))) := by
  rw [check, issuesOf_map, issuesOf_under]

/-- All issues of a block lie below one arm, which a document drops after an item of a list of blocks. -/
theorem arm_of_block (x : Value) :
    ∃ (arm : String) (js : List Issue), drops "blocks" arm ∧ issuesOf (check Block.shape x) = js.map (Issue.under (.key arm)) := by
  refine ⟨_, _, ?_, issuesOf_tagged _ _ _ x⟩
  rcases List.mem_cons.1 (chosenArm_mem "type" _ _ x) with hgeneric | hchosen
  · rw [hgeneric]
    exact drops_blockArm (List.mem_map.2 ⟨_, List.mem_append_right _ (.head _), rfl⟩)
  · exact drops_blockArm hchosen

/-- A path that goes on from a block with an arm loses the arm in a document, and nothing else that it does not lose
in the block. -/
theorem withoutArms_above {arm : String} (harm : drops "blocks" arm) (k i : Nat) (rest : Path) :
    Path.withoutArms (blockPath k i ++ .key arm :: rest) =
      blockPath k i ++ (Path.withoutArms (.key arm :: rest)).drop 1 := by
  have hdropped : Path.isArm (some (.key "blocks")) (some (.index i)) (.key arm) = true := isArm_of_drops harm i
  obtain ⟨h₁, h₂, h₃, h₄, h₅, -⟩ := stays_blockPath k i
  simp only [blockPath, Path.withoutArms, List.cons_append, List.nil_append, Path.withoutArmsAfter, h₁, h₂, h₃, h₄,
    h₅, hdropped, if_true, Bool.false_eq_true, if_false, List.drop_one, List.tail_cons]
  rw [withoutArmsAfter_key]

theorem ofIssue_above {arm : String} (harm : drops "blocks" arm) (k i : Nat) (j : Issue) :
    Finding.ofIssue ((j.under (.key arm)).above (blockPath k i)) =
      placed (blockPath k i) (Finding.ofIssue (j.under (.key arm))) := by
  simp only [Finding.ofIssue, Issue.above, Issue.under, placed]
  rw [withoutArms_above harm]

/-- A document and its blocks agree. Of a document that is read, each block is the one that is read on its own. Of any
other, the findings inside a block are those of the block, in their order, with the path to the block in place of the
arm at their head: whatever else is wrong with the document, and with its other blocks. -/
theorem read_block {v x : Value} {k i : Nat} (hx : blockData? v k i = some x) :
    match read v with
    | .ok d => ∃ n b, d.notebooks[k]? = some n ∧ n.blocks[i]? = some b ∧ Block.read x = .ok b
    | .error fs =>
      fs.filter (fun f => decide (blockPath k i <+: f.path)) = (blockFindings x).map (placed (blockPath k i)) := by
  unfold read
  cases hc : check shape v with
  | ok c =>
    have hread : read v = .ok ⟨c⟩ := by rw [read, hc]
    exact block_of_read hx hread
  | error is =>
    obtain ⟨arm, js, harm, hjs⟩ := arm_of_block x
    have hbelow : is.filterMap (Issue.from? (blockPath k i)) = js.map (Issue.under (.key arm)) := by
      rw [← hjs, ← issuesBelow_block hx, hc]
      rfl
    have hkept : (fun j : Issue => decide (blockPath k i <+: (Finding.ofIssue j).path)) =
        fun j => decide (blockPath k i <+: j.path) :=
      funext fun j => decide_eq_decide.2 ((stays_blockPath k i).prefix_iff j.path)
    calc (is.map Finding.ofIssue).filter (fun f => decide (blockPath k i <+: f.path))
      _ = (is.filter fun j => decide (blockPath k i <+: j.path)).map Finding.ofIssue := by
          rw [List.filter_map]
          exact congrArg _ (congrArg (List.filter · is) hkept)
      _ = js.map fun j => Finding.ofIssue ((j.under (.key arm)).above (blockPath k i)) := by
          rw [filter_path, hbelow, List.map_map, List.map_map]
          rfl
      _ = (blockFindings x).map (placed (blockPath k i)) := by
          rw [blockFindings, Block.read, issuesOf_map, hjs, List.map_map, List.map_map]
          exact List.map_congr_left fun j _ => ofIssue_above harm k i j

/-- A document without a version. Its first block has no key to sort by; its second has a link without an address, in a
list of ranges that goes by its other name. -/
def faultyBlocks : Value := .map [
  (.str "metadata", .map [(.str "createdAt", .str "2024")]),
  (.str "project", .map [(.str "id", .str "p"), (.str "name", .str "P"), (.str "notebooks", .list [.map [
    (.str "id", .str "n"), (.str "name", .str "N"), (.str "blocks", .list [
      .map [(.str "id", .str "a"), (.str "type", .str "code")],
      .map [(.str "id", .str "b"), (.str "type", .str "text-cell-p"), (.str "sortingKey", .str "0"),
        (.str "metadata", .map [(.str "formatted_ranges", .list [.map [(.str "type", .str "link"),
          (.str "fromCodePoint", .int 0), (.str "toCodePoint", .int 1), (.str "ranges", .list [])]])])]])]])])]

/-- Of its three findings, the one inside the second block is that of the block. -/
theorem faultyBlocks_read_block : ∃ x fs, blockData? faultyBlocks 0 1 = some x ∧ read faultyBlocks = .error fs ∧
    fs.length = 3 ∧ (blockFindings x).length = 1 ∧
    fs.filter (fun f => decide (blockPath 0 1 <+: f.path)) = (blockFindings x).map (placed (blockPath 0 1)) := by
  have hread : (match read faultyBlocks with | .error fs => fs.length == 3 | .ok _ => false) = true := by decide +kernel
  obtain ⟨x, hx, hcount⟩ : ∃ x, blockData? faultyBlocks 0 1 = some x ∧ (blockFindings x).length = 1 := by
    have hone : (blockData? faultyBlocks 0 1).map (fun x => (blockFindings x).length) = some 1 := by decide +kernel
    exact Option.map_eq_some_iff.1 hone
  generalize faultyBlocks = v at hread hx ⊢
  have h := read_block hx
  cases hfs : read v with
  | ok d => rw [hfs] at hread; cases hread
  | error fs =>
    rw [hfs] at h hread
    exact ⟨x, fs, hx, rfl, eq_of_beq hread, hcount, h⟩

end Document

end BlockNotebook
