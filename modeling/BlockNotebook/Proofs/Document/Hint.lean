import BlockNotebook.Proofs.Schema.Names
import BlockNotebook.Proofs.Document.Block
import Mathlib.Data.List.TakeWhile
/-!
The hints of findings.

A hint is made from the path of a finding alone: from the index after the first `blocks` on it, or else after the first
`notebooks`. It is right because a document has these names nowhere else (`belongs_of_issue`): each path of an issue
leads into a block that is there, or into a notebook that is there and past its blocks, or past all notebooks. Arms
that are dropped on the way change nothing about this (`Belongs.withoutArms`).
-/

namespace BlockNotebook

open Schema

namespace Schema

/-! ## Kept paths -/

theorem Path.withoutArmsAfter_sublist (list index : Option Segment) (p : Path) :
    (Path.withoutArmsAfter list index p).Sublist p := by
  induction p generalizing list index with
  | nil => exact .slnil
  | cons s rest ih =>
    rw [Path.withoutArmsAfter]
    split
    · exact (ih _ _).cons s
    · exact (ih _ _).cons_cons s

/-- A path that stays is kept in front, and of the rest some segments are. -/
theorem Stays.append {list index : Option Segment} {p : Path} (h : Stays list index p) (rest : Path) :
    ∃ kept, kept.Sublist rest ∧ Path.withoutArmsAfter list index (p ++ rest) = p ++ kept := by
  induction p generalizing list index with
  | nil => exact ⟨_, Path.withoutArmsAfter_sublist list index rest, rfl⟩
  | cons s p ih =>
    obtain ⟨kept, hkept, heq⟩ := ih h.2
    refine ⟨kept, hkept, ?_⟩
    rw [List.cons_append, Path.withoutArmsAfter, h.1, if_neg Bool.false_ne_true, heq]
    rfl

theorem Path.indexAfter?_of_not_mem {name : Text} {p : Path} (h : .key name ∉ p) : p.indexAfter? name = none := by
  have hnone : p.dropWhile (· != .key name) = [] :=
    List.dropWhile_eq_nil_iff.2 fun s hs => bne_iff_ne.2 fun he => h (he ▸ hs)
  rw [Path.indexAfter?, hnone]

end Schema

namespace Document

/-! ## The place of a notebook -/

/-- The data of a notebook. -/
def notebookData? (v : Value) (notebook : Nat) : Option Value := do
  let project ← v.get? "project"
  let notebooks ← (← project.get? "notebooks").items?
  notebooks[notebook]?

/-- The path to a notebook. -/
def notebookPath (notebook : Nat) : Path := [.key "project", .key "notebooks", .index notebook]

theorem blockData?_of_notebook {v n bs : Value} {blocks : List Value} {k : Nat} (hn : notebookData? v k = some n)
    (hbs : n.get? "blocks" = some bs) (hblocks : bs.items? = some blocks) (i : Nat) :
    blockData? v k i = blocks[i]? := by
  simp only [notebookData?, Option.bind_eq_bind, Option.bind_eq_some_iff] at hn
  obtain ⟨project, hproject, listed, hlisted, notebooks, hnotebooks, hk⟩ := hn
  simp [blockData?, hproject, hlisted, hnotebooks, hk, hbs, hblocks]

theorem stays_notebookPath (k : Nat) : Stays none none (notebookPath k) :=
  ⟨fun _ => rfl, fun _ => rfl, isArm_after_key _ _, trivial⟩

/-! ## Where a path leads -/

/-- A path leads into a block, into a notebook but none of its blocks, or into no notebook. -/
inductive Belongs (v : Value) : Path → Prop
  | outside {p : Path} (hn : .key "notebooks" ∉ p) (hb : .key "blocks" ∉ p) : Belongs v p
  | notebooks : Belongs v [.key "project", .key "notebooks"]
  | notebook {k : Nat} {n : Value} (hn : notebookData? v k = some n) {p : Path} (hp : .key "blocks" ∉ p) :
      Belongs v (notebookPath k ++ p)
  | blocks {k : Nat} {n : Value} (hn : notebookData? v k = some n) : Belongs v (notebookPath k ++ [.key "blocks"])
  | block {k i : Nat} {b : Value} (hb : blockData? v k i = some b) (p : Path) : Belongs v (blockPath k i ++ p)

/-- The field has nothing to do with notebooks and blocks. -/
def isOutside (f : RecordField Shape) : Bool :=
  fieldsPass [f] && fieldsAvoid "notebooks" [f] && fieldsAvoid "blocks" [f]

theorem not_mem_of_isOutside {f : RecordField Shape} (hf : isOutside f) {v : Value} (hv : v.hasTextKeys)
    {entries : List (Value × Value)} (hentries : v.entries? = some entries) {i : Issue}
    (hi : i ∈ issuesOf (fieldVerdict f v entries)) : .key "notebooks" ∉ i.path ∧ .key "blocks" ∉ i.path := by
  simp only [isOutside, Bool.and_eq_true] at hf
  obtain ⟨⟨hd, hn⟩, hb⟩ := hf
  exact ⟨fields_avoid [f] hn hd hv hentries f List.mem_cons_self i hi,
    fields_avoid [f] hb hd hv hentries f List.mem_cons_self i hi⟩

/-- Of the fields of a record, all but one have nothing to do with notebooks and blocks. That one has one name, and an
issue of it is that it is missing, or one of what the data has under its name. -/
theorem issue_beside (special : RecordField Shape) {title : String} {fields : List (RecordField Shape)}
    (hfields : ∀ f ∈ fields, f = special ∨ isOutside f) (hname : special.name = special.key)
    (hgiven : special.whenAbsent = none) {v : Value} (hv : v.hasTextKeys) {i : Issue}
    (hi : i ∈ issuesOf (check (.record title false fields) v)) :
    (.key "notebooks" ∉ i.path ∧ .key "blocks" ∉ i.path) ∨ i.path = [.key special.key] ∨
      ∃ x j, v.get? special.key = some x ∧ x.hasTextKeys ∧ j ∈ issuesOf (check special.shape x) ∧
        i.path = .key special.key :: j.path := by
  rcases issue_of_record hv hi with hpath | ⟨entries, hentries, f, hf, hi⟩
  · rw [hpath]
    exact .inl ⟨List.not_mem_nil, List.not_mem_nil⟩
  rcases hfields f hf with rfl | hf
  · refine .inr ?_
    rcases issue_of_field (by rw [hgiven]; nofun) hi with hpath | ⟨used, x, j, hfind, hj, rfl⟩
    · exact .inl hpath
    · obtain ⟨rfl, hx⟩ := get?_of_find hname hentries hfind
      exact .inr ⟨x, j, hx, hasTextKeys_find hv hentries hfind, hj, rfl⟩
  · exact .inl (not_mem_of_isOutside hf hv hentries hi)

/-- Inside a notebook, only the blocks are under their name. -/
theorem belongs_of_notebook {v n : Value} {k : Nat} (hn : notebookData? v k = some n) (hv : n.hasTextKeys) {i : Issue}
    (hi : i ∈ issuesOf (check Notebook.shape n)) : Belongs v (notebookPath k ++ i.path) := by
  have hissue := issue_beside (Block.required "blocks" (.listOf Block.shape))
    (by
      simp only [List.forall_mem_cons]
      exact ⟨.inr rfl, .inr rfl, .inl trivial, .inr rfl, .inr rfl, .inr rfl, List.forall_mem_nil _⟩) rfl rfl hv hi
  rcases hissue with ⟨-, hb⟩ | hpath | ⟨bs, j, hbs, -, hj, hpath⟩
  · exact .notebook hn hb
  · rw [hpath]
    exact .blocks hn
  · rw [hpath]
    rcases issue_of_listOf hj with hpath | ⟨blocks, m, b, l, hblocks, hb, -, rfl⟩
    · rw [hpath]
      exact .blocks hn
    · exact .block ((blockData?_of_notebook hn hbs hblocks m).trans hb) l.path

/-- Inside a project, only the notebooks are under their name. -/
theorem belongs_of_project {v project : Value} (hproject : v.get? "project" = some project) (hv : project.hasTextKeys)
    {i : Issue} (hi : i ∈ issuesOf (check projectShape project)) : Belongs v (.key "project" :: i.path) := by
  have hissue := issue_beside (Block.required "notebooks" (.listOf Notebook.shape))
    (by
      simp only [List.forall_mem_cons]
      exact ⟨.inr rfl, .inr rfl, .inl trivial, .inr rfl, .inr rfl, .inr rfl, List.forall_mem_nil _⟩) rfl rfl hv hi
  rcases hissue with ⟨hn, hb⟩ | hpath | ⟨listed, j, hlisted, hkeys, hj, hpath⟩
  · exact .outside (key_not_mem_cons (by decide) hn) (key_not_mem_cons (by decide) hb)
  · rw [hpath]
    exact .notebooks
  · rw [hpath]
    rcases issue_of_listOf hj with hpath | ⟨notebooks, k, n, l, hnotebooks, hn, hl, rfl⟩
    · rw [hpath]
      exact .notebooks
    · have hlisted : project.get? "notebooks" = some listed := hlisted
      have hdata : notebookData? v k = some n := by simp [notebookData?, hproject, hlisted, hnotebooks, hn]
      exact belongs_of_notebook hdata (Value.hasTextKeys_item hkeys hnotebooks (List.mem_of_getElem? hn)) hl

theorem belongs_of_issue {v : Value} (hv : v.hasTextKeys) {i : Issue} (hi : i ∈ issuesOf (check shape v)) :
    Belongs v i.path := by
  have hissue := issue_beside (Block.required "project" projectShape)
    (by
      simp only [List.forall_mem_cons]
      exact ⟨.inr rfl, .inr rfl, .inl trivial, List.forall_mem_nil _⟩) rfl rfl hv hi
  rcases hissue with ⟨hn, hb⟩ | hpath | ⟨project, j, hproject, hkeys, hj, hpath⟩
  · exact .outside hn hb
  · rw [hpath]
    exact .outside (key_not_mem_cons (by decide) List.not_mem_nil) (key_not_mem_cons (by decide) List.not_mem_nil)
  · rw [hpath]
    exact belongs_of_project hproject hkeys hj

/-- Without the names of arms, a path still leads where it did. -/
theorem Belongs.withoutArms {v : Value} {p : Path} (h : Belongs v p) : Belongs v p.withoutArms := by
  cases h with
  | outside hn hb =>
    have hkept := (Path.withoutArmsAfter_sublist none none p).subset
    exact .outside (fun h => hn (hkept h)) fun h => hb (hkept h)
  | notebooks => exact .notebooks
  | @notebook k n hn p hp =>
    obtain ⟨kept, hkept, heq⟩ := (stays_notebookPath k).append p
    rw [Path.withoutArms, heq]
    exact .notebook hn fun h => hp (hkept.subset h)
  | @blocks k n hn =>
    have heq : Path.withoutArms (notebookPath k ++ [.key "blocks"]) = notebookPath k ++ [.key "blocks"] := by
      obtain ⟨h₁, h₂, h₃, h₄, -⟩ := stays_blockPath k 0
      simp [Path.withoutArms, notebookPath, Path.withoutArmsAfter, h₁, h₂, h₃, h₄]
    rw [heq]
    exact .blocks hn
  | @block k i b hb p =>
    obtain ⟨kept, -, heq⟩ := (stays_blockPath k i).append p
    rw [Path.withoutArms, heq]
    exact .block hb kept

/-! ## Hints -/

theorem indexAfter?_block {p : Path} {k i : Nat} (hp : blockPath k i <+: p) : p.indexAfter? "blocks" = some (i : Int) := by
  obtain ⟨rest, rfl⟩ := hp
  rfl

theorem indexAfter?_notebook {p : Path} {k : Nat} (hp : notebookPath k <+: p) :
    p.indexAfter? "notebooks" = some (k : Int) := by
  obtain ⟨rest, rfl⟩ := hp
  rfl

/-- A path into a block leads into one that is there. -/
theorem Belongs.block_exists {v : Value} {p : Path} (h : Belongs v p) {k i : Nat} (hp : blockPath k i <+: p) :
    ∃ b, blockData? v k i = some b := by
  cases h with
  | outside _ hb => exact absurd (hp.subset (by simp [blockPath])) hb
  | notebooks => exact absurd hp.length_le (by simp [blockPath])
  | @notebook _ _ _ _ hb =>
    obtain ⟨rest, hrest⟩ := hp
    cases hrest
    exact absurd List.mem_cons_self hb
  | blocks _ => exact absurd hp.length_le (by simp [blockPath, notebookPath])
  | block hb rest =>
    obtain ⟨after, hafter⟩ := hp
    cases hafter
    exact ⟨_, hb⟩

/-- A path into a notebook, and into none of its blocks, leads into a notebook that is there; no index comes after
`blocks` on it. -/
theorem Belongs.notebook_exists {v : Value} {p : Path} (h : Belongs v p) {k : Nat} (hp : notebookPath k <+: p)
    (hblocks : ∀ i : Nat, ¬ blockPath k i <+: p) : (∃ n, notebookData? v k = some n) ∧ p.indexAfter? "blocks" = none := by
  cases h with
  | outside hn _ => exact absurd (hp.subset (by simp [notebookPath])) hn
  | notebooks => exact absurd hp.length_le (by simp [notebookPath])
  | @notebook _ n hn rest hb =>
    obtain ⟨after, hafter⟩ := hp
    cases hafter
    exact ⟨⟨n, hn⟩, Path.indexAfter?_of_not_mem (by simpa [notebookPath, Text.ofString_inj] using hb)⟩
  | @blocks _ n hn =>
    obtain ⟨after, hafter⟩ := hp
    cases hafter
    exact ⟨⟨n, hn⟩, rfl⟩
  | @block _ i b _ rest =>
    obtain ⟨after, hafter⟩ := hp
    cases hafter
    exact absurd ⟨rest, rfl⟩ (hblocks i)

/-- On a path into no notebook there is no index after either name. -/
theorem Belongs.outside_notebooks {v : Value} {p : Path} (h : Belongs v p) (hp : ∀ k : Nat, ¬ notebookPath k <+: p) :
    p.indexAfter? "blocks" = none ∧ p.indexAfter? "notebooks" = none := by
  cases h with
  | outside hn hb => exact ⟨Path.indexAfter?_of_not_mem hb, Path.indexAfter?_of_not_mem hn⟩
  | notebooks => exact ⟨rfl, rfl⟩
  | notebook _ _ => exact absurd ⟨_, rfl⟩ (hp _)
  | blocks _ => exact absurd ⟨_, rfl⟩ (hp _)
  | @block k i _ _ rest => exact absurd ⟨.key "blocks" :: .index i :: rest, rfl⟩ (hp k)

/-- Of data under texts, a finding inside a block hints at the block, one inside a notebook and none of its blocks hints
at the notebook, and any other one has no hint. The data has this block, and this notebook. -/
theorem finding_hint {v : Value} (hv : v.hasTextKeys) {fs : List Finding} (h : read v = .error fs) {f : Finding}
    (hf : f ∈ fs) :
    (∀ k i : Nat, blockPath k i <+: f.path →
      (∃ b, blockData? v k i = some b) ∧ f.hint = s!" (block index: {i})") ∧
    (∀ k : Nat, notebookPath k <+: f.path → (∀ i : Nat, ¬ blockPath k i <+: f.path) →
      (∃ n, notebookData? v k = some n) ∧ f.hint = s!" (notebook index: {k})") ∧
    ((∀ k : Nat, ¬ notebookPath k <+: f.path) → f.hint = "") := by
  unfold read at h
  split at h
  · cases h
  rename_i is his
  cases h
  obtain ⟨i, hi, rfl⟩ := List.mem_map.1 hf
  have hissue : i ∈ issuesOf (check shape v) := by
    rw [his]
    exact hi
  have hbelongs : Belongs v (Finding.ofIssue i).path := (belongs_of_issue hv hissue).withoutArms
  refine ⟨fun k n hp => ⟨hbelongs.block_exists hp, ?_⟩, fun k hp hblocks => ?_, fun hp => ?_⟩
  · rw [Finding.hint, indexAfter?_block hp]
    rfl
  · obtain ⟨hn, hnone⟩ := hbelongs.notebook_exists hp hblocks
    refine ⟨hn, ?_⟩
    rw [Finding.hint, hnone, indexAfter?_notebook hp]
    rfl
  · obtain ⟨hblocks, hnotebooks⟩ := hbelongs.outside_notebooks hp
    rw [Finding.hint, hblocks, hnotebooks]

/-- A document without a version. Its second notebook has no name, and the only block in it has a link without an
address; a notebook that is none comes last. -/
def faultyNotebooks : Value := .map [
  (.str "metadata", .map [(.str "createdAt", .str "2024")]),
  (.str "project", .map [(.str "id", .str "p"), (.str "name", .str "P"), (.str "notebooks", .list [
    .map [(.str "id", .str "n"), (.str "name", .str "N"), (.str "blocks", .list [])],
    .map [(.str "id", .str "m"), (.str "blocks", .list [
      .map [(.str "id", .str "b"), (.str "type", .str "text-cell-p"), (.str "sortingKey", .str "0"),
        (.str "metadata", .map [(.str "formattedRanges", .list [.map [(.str "type", .str "link"),
          (.str "fromCodePoint", .int 0), (.str "toCodePoint", .int 1), (.str "ranges", .list [])]])])]])],
    .null])])]

/-- Its four findings hint at nothing, at the notebook, at its block, and at the notebook that is none. -/
theorem faultyNotebooks_finding_hint : faultyNotebooks.hasTextKeys ∧ ∃ fs, read faultyNotebooks = .error fs ∧
    fs.map Finding.hint = ["", " (notebook index: 1)", " (block index: 0)", " (notebook index: 2)"] ∧
    ∀ f ∈ fs, (∀ k i : Nat, blockPath k i <+: f.path →
        (∃ b, blockData? faultyNotebooks k i = some b) ∧ f.hint = s!" (block index: {i})") ∧
      ((∀ k : Nat, ¬ notebookPath k <+: f.path) → f.hint = "") := by
  have htexts : faultyNotebooks.hasTextKeys := by decide +kernel
  have hhints : (match read faultyNotebooks with | .error fs => some (fs.map Finding.hint) | .ok _ => none) =
      some ["", " (notebook index: 1)", " (block index: 0)", " (notebook index: 2)"] := by decide +kernel
  cases h : read faultyNotebooks with
  | ok d => rw [h] at hhints; cases hhints
  | error fs =>
    rw [h] at hhints
    refine ⟨htexts, fs, rfl, Option.some_inj.1 hhints, fun f hf => ?_⟩
    obtain ⟨hblock, -, houtside⟩ := finding_hint htexts h hf
    exact ⟨hblock, houtside⟩

end Document

end BlockNotebook
