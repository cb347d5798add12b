import BlockNotebook.Notebook.Compile
import BlockNotebook.Proofs.Notebook.Order
/-!
What it means to skip blocks that do not compile.

A run over blocks is settled by what each of them comes to on its own: it ends
at the first fault that the policy stops at, and if there is none it gives what
compiled, in the order of the run (`compileBlocks_result`). So a run that skips
is the run that does not, over the blocks without a fault of their own; and as
key order is kept when blocks are left out, that holds of whole notebooks.
-/

namespace BlockNotebook

namespace Block

/-- What keeps a block from compiling on its own, if anything does. -/
def fault? (context : Option Code.Context) (b : Block) : Option CompileFault :=
  match (b.compile context).result with
  | .ok _ => none
  | .error f => some f

/-- What a block compiles to on its own; none if it does not, or has neither code nor markdown. -/
def compiled? (context : Option Code.Context) (b : Block) : Option Compiled :=
  match (b.compile context).result with
  | .ok found => found
  | .error _ => none

/-- The block does not compile, by a fault of the block itself. -/
def isFaulty (context : Option Code.Context) (b : Block) : Bool :=
  (b.fault? context).any CompileFault.isBlockFault

theorem fault?_of_ok {context : Option Code.Context} {b : Block} {found : Option Compiled}
    (h : (b.compile context).result = .ok found) : b.fault? context = none := by
  rw [fault?, h]

theorem fault?_of_error {context : Option Code.Context} {b : Block} {f : CompileFault}
    (h : (b.compile context).result = .error f) : b.fault? context = some f := by
  rw [fault?, h]

theorem compiled?_of_fault {context : Option Code.Context} {b : Block} {f : CompileFault}
    (h : b.fault? context = some f) : b.compiled? context = none := by
  unfold fault? at h
  unfold compiled?
  cases hr : (b.compile context).result with
  | ok found => rw [hr] at h; cases h
  | error g => rfl

theorem isFaulty_of_none {context : Option Code.Context} {b : Block} (h : b.fault? context = none) :
    b.isFaulty context = false := by
  rw [isFaulty, h]; rfl

theorem isFaulty_of_fault {context : Option Code.Context} {b : Block} {f : CompileFault}
    (h : b.fault? context = some f) : b.isFaulty context = f.isBlockFault := by
  rw [isFaulty, h]; rfl

end Block

/-- A run ends at the fault under the policy. -/
def OnError.stopsAt : OnError → CompileFault → Bool
  | .fail, _ => true
  | .skip, f => !f.isBlockFault

/-- The fault of a block that ends a run under the policy, if it has one. -/
def Block.stop? (context : Option Code.Context) (policy : OnError) (b : Block) : Option CompileFault :=
  (b.fault? context).filter policy.stopsAt

namespace Block

theorem stop?_of_none {context : Option Code.Context} {b : Block} (policy : OnError)
    (h : b.fault? context = none) : b.stop? context policy = none := by
  rw [stop?, h]; rfl

theorem stop?_of_fault {context : Option Code.Context} {b : Block} {f : CompileFault} (policy : OnError)
    (h : b.fault? context = some f) : b.stop? context policy = if policy.stopsAt f then some f else none := by
  rw [stop?, h]; rfl

theorem stop?_fail (context : Option Code.Context) (b : Block) : b.stop? context .fail = b.fault? context := by
  cases h : b.fault? context with
  | none => rw [stop?_of_none _ h]
  | some f => rw [stop?_of_fault _ h]; rfl

end Block

namespace Schema.Checked

/-- A record with one of its fields changed. -/
def updateField (name : String) (f : Checked → Checked) : Checked → Checked
  | .record fields others => .record (fields.map fun e => (e.1, if e.1 == name then f e.2 else e.2)) others
  | c => c

/-- A list without the items that are not to be kept. -/
def keepItems (keep : Checked → Bool) : Checked → Checked
  | .list items => .list (items.filter keep)
  | c => c

theorem field?_updateField (name other : String) (f : Checked → Checked) (c : Checked) :
    (c.updateField name f).field? other = (c.field? other).map fun x => if other == name then f x else x := by
  cases c with
  | record fields others =>
    simp only [updateField, field?]
    induction fields with
    | nil => rfl
    | cons e rest ih =>
      obtain ⟨key, x⟩ := e
      simp only [List.map_cons, List.lookup_cons]
      cases h : other == key with
      | true => rw [eq_of_beq h]; rfl
      | false => exact ih
  | _ => rfl

theorem items?_updateField (name : String) (keep : Checked → Bool) (c : Checked) :
    (c.updateField name (keepItems keep)).items? name = (c.items? name).map (·.filter keep) := by
  unfold items?
  rw [field?_updateField]
  cases c.field? name with
  | none => rfl
  | some x => cases x <;> simp [keepItems]

end Schema.Checked

namespace Notebook

open Schema

/-- The notebook with only the blocks that are to be kept. All else is as it was. -/
def keeping (keep : Block → Bool) (n : Notebook) : Notebook :=
  ⟨n.content.updateField "blocks" (Checked.keepItems fun c => keep (Block.ofChecked c))⟩

theorem blocks_keeping (keep : Block → Bool) (n : Notebook) : (n.keeping keep).blocks = n.blocks.filter keep := by
  unfold blocks keeping
  rw [Checked.items?_updateField]
  cases n.content.items? "blocks" with
  | none => rfl
  | some items => simp [List.filter_map, Function.comp_def]

theorem field?_keeping (keep : Block → Bool) (n : Notebook) {name : String} (h : name ≠ "blocks") :
    (n.keeping keep).content.field? name = n.content.field? name := by
  unfold keeping
  rw [Checked.field?_updateField]
  simp [h]

/-! ## A run is settled by its blocks -/

theorem compileBlocks_result (context : Option Code.Context) (policy : OnError) (bs : List Block) :
    (compileBlocks context policy bs).result =
      match bs.findSome? (Block.stop? context policy) with
      | some f => .error f
      | none => .ok (bs.filterMap (Block.compiled? context)) := by
  induction bs with
  | nil => rfl
  | cons b rest ih =>
    rw [compileBlocks, List.findSome?_cons, List.filterMap_cons]
    cases hr : (b.compile context).result with
    | ok found =>
      have hc : b.compiled? context = found := by simp [Block.compiled?, hr]
      simp only [Block.stop?_of_none policy (Block.fault?_of_ok hr), hc, ih]
      cases rest.findSome? (Block.stop? context policy) with
      | some f => rfl
      | none => cases found <;> rfl
    | error f =>
      have hf := Block.fault?_of_error hr
      simp only [Block.stop?_of_fault policy hf, Block.compiled?_of_fault hf]
      cases policy with
      | fail => rfl
      | skip =>
        cases hb : f.isBlockFault with
        | true => simpa [OnError.stopsAt, hb] using ih
        | false => simp [OnError.stopsAt, hb]

theorem compile_result (context : Option Code.Context) (policy : OnError) (n : Notebook) :
    (n.compile context policy).result =
      match (sortBlocks n.blocks).findSome? (Block.stop? context policy) with
      | some f => .error f
      | none => .ok ((sortBlocks n.blocks).filterMap (Block.compiled? context)) := by
  rw [← compileBlocks_result, compile]
  cases (compileBlocks context policy (sortBlocks n.blocks)).result with
  | ok compiled => rfl
  | error f => rfl

/-! ## Skipping is leaving out -/

/-- What ends a run that skips is what ends one that does not, over the blocks without a fault of their own. -/
theorem findSome?_stop_skip (context : Option Code.Context) (bs : List Block) :
    bs.findSome? (Block.stop? context .skip) =
      (bs.filter (!·.isFaulty context)).findSome? (Block.stop? context .fail) := by
  induction bs with
  | nil => rfl
  | cons b rest ih =>
    rw [List.findSome?_cons, List.filter_cons]
    cases hf : b.fault? context with
    | none =>
      simp only [Block.stop?_of_none _ hf, Block.isFaulty_of_none hf, Bool.not_false, if_true, List.findSome?_cons]
      exact ih
    | some f =>
      simp only [Block.stop?_of_fault _ hf, Block.isFaulty_of_fault hf]
      cases hb : f.isBlockFault with
      | true => simpa [OnError.stopsAt, hb] using ih
      | false => simp [OnError.stopsAt, hb, Block.stop?_of_fault _ hf]

/-- Blocks with a fault of their own come to nothing anyway. -/
theorem filterMap_compiled_filter (context : Option Code.Context) (bs : List Block) :
    (bs.filter (!·.isFaulty context)).filterMap (Block.compiled? context) =
      bs.filterMap (Block.compiled? context) := by
  induction bs with
  | nil => rfl
  | cons b rest ih =>
    rw [List.filter_cons, List.filterMap_cons]
    cases hb : b.isFaulty context with
    | false =>
      simp only [Bool.not_false, if_true, List.filterMap_cons, ih]
    | true =>
      obtain ⟨f, hf, -⟩ := (Option.any_eq_true _ _).1 hb
      simp only [Bool.not_true, Bool.false_eq_true, if_false, Block.compiled?_of_fault hf, ih]

/-- What blocks come to in the given order when nothing is skipped: the first fault, or all that compiled. -/
def settled (context : Option Code.Context) (bs : List Block) : Except CompileFault (List Compiled) :=
  match bs.findSome? (Block.fault? context) with
  | some f => .error f
  | none => .ok (bs.filterMap (Block.compiled? context))

theorem compile_fail_result (context : Option Code.Context) (n : Notebook) :
    (n.compile context .fail).result = settled context (sortBlocks n.blocks) := by
  have h : Block.stop? context .fail = Block.fault? context := funext fun b => b.stop?_fail context
  rw [compile_result, h]
  rfl

theorem compile_skip_result (context : Option Code.Context) (n : Notebook) :
    (n.compile context .skip).result =
      settled context ((sortBlocks n.blocks).filter (!·.isFaulty context)) := by
  have h : Block.stop? context .fail = Block.fault? context := funext fun b => b.stop?_fail context
  rw [compile_result, findSome?_stop_skip, h, settled, filterMap_compiled_filter]

/-- A run over blocks that come before the first one with a fault, and that one, ends at its fault. -/
theorem settled_of_first {context : Option Code.Context} {before after : List Block} {b : Block} {f : CompileFault}
    (hbefore : ∀ a ∈ before, a.fault? context = none) (hf : b.fault? context = some f) :
    settled context (before ++ b :: after) = .error f := by
  have h : before.findSome? (Block.fault? context) = none := List.findSome?_eq_none_iff.2 hbefore
  simp [settled, List.findSome?_append, h, hf]

theorem settled_of_none {context : Option Code.Context} {bs : List Block} (h : ∀ b ∈ bs, b.fault? context = none) :
    settled context bs = .ok (bs.filterMap (Block.compiled? context)) := by
  rw [settled, List.findSome?_eq_none_iff.2 h]

/-- A fault that ends a run is the fault of one of its blocks. -/
theorem exists_of_settled_error {context : Option Code.Context} {bs : List Block} {f : CompileFault}
    (h : settled context bs = .error f) : ∃ b ∈ bs, b.fault? context = some f := by
  unfold settled at h
  cases hf : bs.findSome? (Block.fault? context) with
  | none => rw [hf] at h; cases h
  | some g =>
    rw [hf] at h
    cases h
    exact List.exists_of_findSome?_eq_some hf

/-- Compiling a notebook under `skip` is compiling it under `fail` without exactly the blocks that have a fault of
their own. What compiles comes in key order, and a run that still ends early ends at a fault that is no block's
own. Under `fail` the first block of that order with a fault decides; where no block has one, the policies agree. -/
theorem skip_is_fail_without_faulty (context : Option Code.Context) (n : Notebook) :
    (n.compile context .skip).result = ((n.keeping (!·.isFaulty context)).compile context .fail).result ∧
    (n.keeping (!·.isFaulty context)).blocks = n.blocks.filter (!·.isFaulty context) ∧
    (∀ name ≠ "blocks", (n.keeping (!·.isFaulty context)).content.field? name = n.content.field? name) ∧
    (∀ f, (n.compile context .skip).result = .error f →
      f.isBlockFault = false ∧ ∃ b ∈ n.blocks, b.fault? context = some f) ∧
    ∃ ordered, InKeyOrder n.blocks ordered ∧
      (∀ compiled, (n.compile context .skip).result = .ok compiled →
        compiled = ordered.filterMap (Block.compiled? context)) ∧
      (∀ before b after f, ordered = before ++ b :: after → (∀ a ∈ before, a.fault? context = none) →
        b.fault? context = some f → (n.compile context .fail).result = .error f) ∧
      ((∀ b ∈ n.blocks, b.fault? context = none) →
        ∀ policy, (n.compile context policy).result = .ok (ordered.filterMap (Block.compiled? context))) := by
  refine ⟨?_, blocks_keeping _ n, fun _ h => field?_keeping _ n h, fun f hf => ?_,
    sortBlocks n.blocks, sortBlocks_inKeyOrder _, fun compiled hc => ?_, ?_, fun hnone => ?_⟩
  -- Both runs are over the kept blocks in key order, as leaving out and sorting commute.
  · rw [compile_skip_result, compile_fail_result, blocks_keeping, sortBlocks_filter]
  -- A kept block has no fault of its own.
  · rw [compile_skip_result] at hf
    obtain ⟨b, hb, hbf⟩ := exists_of_settled_error hf
    obtain ⟨hmem, hkept⟩ := List.mem_filter.1 hb
    rw [Block.isFaulty_of_fault hbf] at hkept
    exact ⟨by simpa using hkept, b, (sortBlocks_perm _).subset hmem, hbf⟩
  -- What compiled, in key order.
  · rw [compile_result] at hc
    cases hs : (sortBlocks n.blocks).findSome? (Block.stop? context .skip) with
    | some f => rw [hs] at hc; cases hc
    | none => rw [hs] at hc; cases hc; rfl
  -- The first block with a fault, under `fail`.
  · rintro before b after f ho hbefore hf
    rw [compile_fail_result, ho, settled_of_first hbefore hf]
  -- No block has a fault, so none is left out.
  · have hall : ∀ b ∈ sortBlocks n.blocks, b.fault? context = none :=
      fun b hb => hnone b ((sortBlocks_perm _).subset hb)
    rintro (_ | _)
    · rw [compile_fail_result, settled_of_none hall]
    · have hkept : ∀ b ∈ (sortBlocks n.blocks).filter (!·.isFaulty context), b.fault? context = none :=
        fun b hb => hall b (List.mem_filter.1 hb).1
      rw [compile_skip_result, settled_of_none hkept, filterMap_compiled_filter]

end Notebook

end BlockNotebook
