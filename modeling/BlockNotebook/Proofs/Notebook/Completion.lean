import BlockNotebook.Proofs.Block.Stop
import BlockNotebook.Proofs.Notebook.Skip
/-!
When a run that skips gets to its end.

It does so exactly if the notebook has none of the blocks that `Block.Stops`
lists, and then every block with a fault is logged.
-/

namespace BlockNotebook.Notebook

open Schema

/-- The blocks of a notebook that was read come from data of the shape of blocks. -/
theorem isRead_of_mem {v : Value} {n : Notebook} (h : Notebook.read v = .ok n) : ∀ b ∈ n.blocks, b.IsRead := by
  obtain ⟨c, hc, rfl⟩ := map_eq_ok h
  cases check_fits shape hc with
  | @record _ _ _ fs others hfields =>
    obtain ⟨c, hlookup, hfit⟩ := hfields.lookup "blocks" rfl
    cases hfit with
    | @list _ items hitems =>
      have hblocks : (Notebook.mk (.record fs others)).blocks = items.map Block.ofChecked := by
        rw [blocks, Checked.items?, Checked.field?, hlookup]
        rfl
      intro b hb
      rw [hblocks] at hb
      obtain ⟨item, hitem, rfl⟩ := List.mem_map.1 hb
      exact ⟨item, hitems item hitem, rfl⟩

theorem stop?_skip_isSome (context : Option Code.Context) (b : Block) :
    (b.stop? context .skip).isSome ↔ IsFatal (b.compile context).result := by
  cases hr : (b.compile context).result with
  | ok found =>
    rw [Block.stop?_of_none .skip (Block.fault?_of_ok hr)]
    exact ⟨nofun, fun h => absurd h (not_isFatal_ok _)⟩
  | error f =>
    rw [Block.stop?_of_fault .skip (Block.fault?_of_error hr)]
    cases hown : f.isBlockFault with
    | true =>
      refine ⟨fun h => ?_, fun ⟨g, hg, hother⟩ => ?_⟩
      · simp [OnError.stopsAt, hown] at h
      · cases hg
        rw [hown] at hother
        cases hother
    | false => exact ⟨fun _ => isFatal_error hown, fun _ => by simp [OnError.stopsAt, hown]⟩

/-- A run that skips and gets to its end has logged every block with a fault. -/
theorem skipped_mem_logs {context : Option Code.Context} {bs : List Block} {compiled : List Compiled}
    (h : (compileBlocks context .skip bs).result = .ok compiled) {b : Block} (hb : b ∈ bs) {f : CompileFault}
    (hf : b.fault? context = some f) : skipped b f ∈ (compileBlocks context .skip bs).logs := by
  induction bs generalizing compiled with
  | nil => cases hb
  | cons c rest ih =>
    unfold compileBlocks at h ⊢
    cases hr : (c.compile context).result with
    | ok found =>
      simp only [hr] at h ⊢
      obtain ⟨others, hothers, -⟩ := map_eq_ok h
      rcases List.mem_cons.1 hb with rfl | hb
      · cases hf.symm.trans (Block.fault?_of_ok hr)
      · exact List.mem_append_right _ (ih hothers hb)
    | error g =>
      simp only [hr] at h ⊢
      split at h
      · rename_i hskip
        rw [if_pos hskip]
        refine List.mem_append_right _ ?_
        rcases List.mem_cons.1 hb with rfl | hb
        · cases hf.symm.trans (Block.fault?_of_error hr)
          exact List.mem_cons_self
        · exact List.mem_cons_of_mem _ (ih h hb)
      · cases h

theorem skipped_mem_compile_logs {context : Option Code.Context} {n : Notebook} {compiled : List Compiled}
    (h : (n.compile context .skip).result = .ok compiled) {b : Block} (hb : b ∈ n.blocks) {f : CompileFault}
    (hf : b.fault? context = some f) : skipped b f ∈ (n.compile context .skip).logs := by
  have hb : b ∈ sortBlocks n.blocks := (sortBlocks_perm _).symm.subset hb
  unfold compile at h ⊢
  cases hr : (compileBlocks context .skip (sortBlocks n.blocks)).result with
  | error g => simp only [hr] at h; cases h
  | ok compiled =>
    simp only [hr]
    exact List.mem_append_left _ (skipped_mem_logs hr hb hf)

/-- A run that skips gets to its end exactly if no block of the notebook is one that stops it. Every block with a
fault is then logged and left out; else the run ends with a fault that is no block's own. -/
theorem skip_completes_iff {v : Value} {n : Notebook} (h : Notebook.read v = .ok n) (context : Option Code.Context) :
    ((∃ compiled, (n.compile context .skip).result = .ok compiled) ↔ ∀ b ∈ n.blocks, ¬ b.Stops) ∧
    (∀ compiled, (n.compile context .skip).result = .ok compiled →
      compiled = (sortBlocks n.blocks).filterMap (Block.compiled? context) ∧
      ∀ b ∈ n.blocks, ∀ f, b.fault? context = some f →
        b.compiled? context = none ∧ skipped b f ∈ (n.compile context .skip).logs) ∧
    ((∃ b ∈ n.blocks, b.Stops) → IsFatal (n.compile context .skip).result) := by
  have hstop : ∀ b ∈ n.blocks, (b.stop? context .skip).isSome ↔ b.Stops := fun b hb =>
    (stop?_skip_isSome context b).trans (Block.compile_isFatal (isRead_of_mem h b hb) context)
  have hresult := compile_result context .skip n
  cases hs : (sortBlocks n.blocks).findSome? (Block.stop? context .skip) with
  | none =>
    -- Nothing ends the run.
    rw [hs] at hresult
    have hnone : ∀ b ∈ n.blocks, ¬ b.Stops := by
      intro b hb hstops
      have hsome := (hstop b hb).2 hstops
      rw [List.findSome?_eq_none_iff.1 hs b ((sortBlocks_perm _).symm.subset hb)] at hsome
      cases hsome
    refine ⟨⟨fun _ => hnone, fun _ => ⟨_, hresult⟩⟩, fun compiled hc => ⟨?_, fun b hb f hf => ?_⟩, ?_⟩
    · exact Except.ok.inj (hc.symm.trans hresult)
    · exact ⟨Block.compiled?_of_fault hf, skipped_mem_compile_logs hc hb hf⟩
    · rintro ⟨b, hb, hstops⟩
      exact absurd hstops (hnone b hb)
  | some f =>
    -- The run ends at a block, and what ends a run that skips is no block's own.
    rw [hs] at hresult
    obtain ⟨b, hb, hbf⟩ := List.exists_of_findSome?_eq_some hs
    have hb : b ∈ n.blocks := (sortBlocks_perm _).subset hb
    have hsome : (b.stop? context .skip).isSome := by rw [hbf]; rfl
    refine ⟨⟨fun ⟨_, hc⟩ => ?_, fun hnone => ?_⟩, fun _ hc => ?_, fun _ => ?_⟩
    · cases hc.symm.trans hresult
    · exact absurd ((hstop b hb).1 hsome) (hnone b hb)
    · cases hc.symm.trans hresult
    · rw [hresult]
      have hown := (Option.filter_eq_some_iff.1 hbf).2
      exact isFatal_error (by simpa [OnError.stopsAt] using hown)

/-- A notebook whose only chart has bytes for a specification. -/
def unwritableChart : Value := .map [
  (.str "id", .str "n"), (.str "name", .str "Charts"),
  (.str "blocks", .list [.map [
    (.str "id", .str "a"), (.str "type", .str "visualization"), (.str "sortingKey", .str "0"),
    (.str "metadata", .map [(.str "deepnote_variable_name", .str "df"),
      (.str "deepnote_visualization_spec", .bytes [0])])]])]

theorem unwritableChart_completes_iff :
    ∃ n, Notebook.read unwritableChart = .ok n ∧ (n.compile none .skip).result = .error (.json (.noForm "bytes")) ∧
      (((∃ compiled, (n.compile none .skip).result = .ok compiled) ↔ ∀ b ∈ n.blocks, ¬ b.Stops) ∧
      (∀ compiled, (n.compile none .skip).result = .ok compiled →
        compiled = (sortBlocks n.blocks).filterMap (Block.compiled? none) ∧
        ∀ b ∈ n.blocks, ∀ f, b.fault? none = some f →
          b.compiled? none = none ∧ skipped b f ∈ (n.compile none .skip).logs) ∧
      ((∃ b ∈ n.blocks, b.Stops) → IsFatal (n.compile none .skip).result)) := by
  have h : ((Notebook.read unwritableChart).toOption.map fun n => (n.compile none .skip).result) =
      some (.error (.json (.noForm "bytes"))) := by
    rw [unwritableChart]
    repeat rw [Text.ofString_ofList]
    decide +kernel
  cases hn : Notebook.read unwritableChart with
  | error is => rw [hn] at h; cases h
  | ok n =>
    rw [hn] at h
    exact ⟨n, rfl, Option.some_inj.1 h, skip_completes_iff hn none⟩

end BlockNotebook.Notebook
