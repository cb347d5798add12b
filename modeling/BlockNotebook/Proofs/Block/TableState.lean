import BlockNotebook.Proofs.Code.Data
import BlockNotebook.Proofs.Schema.Returned
/-!
The state of a table inside generated code.

The code holds one literal twice (`HandsOn`), and a reader of the literal who checks the data in it has
the state again, without what is null (`Stands`). There is such code unless a key inside the state holds
a surrogate: keys of open data are encoded when the state is exported.
-/

namespace BlockNotebook.TableState

open Schema

/-! ## States -/

theorem read_eq_some {v : Value} {state : Checked} :
    read v = .ok (some state) ↔ check Block.tableStateShape v = .ok state := by
  unfold read
  split
  · constructor <;> intro h <;> cases h
  · cases check Block.tableStateShape v with
    | ok c => simp [Except.map]
    | error is => constructor <;> intro h <;> cases h

theorem shape_returns : Block.tableStateShape.returns := by decide +kernel

theorem isOk_json {state : Checked} (h : (json (some state)).isOk) : state.exported.isOk := by
  cases hw : state.exported with
  | ok w => rfl
  | error e =>
    rw [json, hw] at h
    cases h

theorem json_of_exported {state : Checked} {w : Value} (hw : state.exported = .ok w) {t : Text} (ht : Json.write w = .ok t) :
    json (some state) = .ok t := by
  rw [json, hw]
  show (Json.write w).mapError CompileFault.json = .ok t
  rw [ht]
  rfl

/-! ## States as text -/

/-- A text from which a state can be had again. -/
structure Stands (t : Text) (state : Checked) : Prop where
  written : json (some state) = .ok t
  /-- The data in the text is checked to the state without what is null. -/
  read : ∃ w, Json.read t = some w ∧ TableState.read w = .ok (some state.withoutNulls)
  /-- That has the same text. -/
  again : json (some state.withoutNulls) = .ok t

theorem exists_stands {v : Value} (hv : Json.Tree v) (hspelled : Block.tableStateShape.spelledOnce v) {state : Checked}
    (h : check Block.tableStateShape v = .ok state) (hexport : state.Exportable) :
    ∃ t, Stands t state ∧ ∀ c ∈ t, 0x20 ≤ c.value := by
  obtain ⟨w, hw⟩ := check_returned _ shape_returns hv hspelled h hexport
  obtain ⟨t, hwrite, hread, hprintable⟩ := hw.tree.read_of_write
  refine ⟨t, ⟨json_of_exported hw.exported hwrite, ⟨w, hread, read_eq_some.2 hw.again⟩, ?_⟩, hprintable⟩
  exact json_of_exported ((exported_withoutNulls state).trans hw.exported) hwrite

/-! ## Code -/

/-- Code that hands on a text: both branches hold one literal, on one line, that stands for the text. -/
def HandsOn (code t : Text) : Prop :=
  ∃ body, (∀ slots, Code.ReadsAs Code.tableFrame code slots ↔ slots = [.literal body, .literal body]) ∧
    .char '\n' ∉ body ∧ .char '\r' ∉ body ∧ Code.unescape body = some t

theorem handsOn_preamble {t : Text} (h : ∀ c ∈ t, 0x20 ≤ c.value) : HandsOn (preamble (Code.literal t)) t := by
  have hreads := Code.Writes.table t
  have hprintable := Code.printable_escaped h
  have hdelimited : Code.tableFrame.isDelimited := by
    rw [Code.tableFrame, Code.fixed, Code.fixed]
    repeat rw [Text.ofString_ofList]
    decide +kernel
  refine ⟨Code.escaped t, fun slots => ⟨fun hslots => Code.ReadsAs.unique hdelimited hslots hreads, ?_⟩, ?_, ?_,
    Code.unescape_escaped t⟩
  · rintro rfl
    exact hreads
  · exact fun hmem => absurd (hprintable _ hmem) (by decide)
  · exact fun hmem => absurd (hprintable _ hmem) (by decide)

/-- Of a state made of data that JSON has a form for, which gives no field twice, there is code just if no key in the
data holds a surrogate. The code hands on a text from which the state can be had again. -/
theorem code_handsOn {v : Value} (hv : Json.Tree v) (hspelled : Block.tableStateShape.spelledOnce v) {state : Checked}
    (h : read v = .ok (some state)) :
    ((code (some state)).isOk ↔ v.hasBrokenKey = false) ∧
      (v.hasBrokenKey = false → ∃ c t, code (some state) = .ok c ∧ HandsOn c t ∧ Stands t state) := by
  have hcheck := read_eq_some.1 h
  have hexport : state.Exportable ↔ v.hasBrokenKey = false :=
    (check_exportsAlike _ shape_returns hv hcheck).trans (exportable_iff hv)
  have hcode : v.hasBrokenKey = false → ∃ c t, code (some state) = .ok c ∧ HandsOn c t ∧ Stands t state := by
    intro hkeys
    obtain ⟨t, hstands, hprintable⟩ := exists_stands hv hspelled hcheck (hexport.2 hkeys)
    exact ⟨_, t, by rw [code, hstands.written]; rfl, handsOn_preamble hprintable, hstands⟩
  refine ⟨⟨fun hok => ?_, fun hkeys => ?_⟩, hcode⟩
  · rw [code, isOk_map] at hok
    exact hexport.1 ((isOk_exported state).1 (isOk_json hok))
  · obtain ⟨c, t, hc, -⟩ := hcode hkeys
    rw [hc]
    rfl

/-- A state with a number given as text, a field given by its name, an entry that is null, and open data. -/
def mixedState : Value := .map [
  (.str "pageSize", .str "10"), (.str "sort_by", .list [.map [(.str "id", .str "it's"), (.str "desc", .bool true)]]),
  (.str "density", .null), (.str "theme", .str "\"dark\"\n"),
  (.str "conditionalFilters", .list [.map [(.str "é", .list [.null, .int (-3)])], .null])]

theorem mixedState_handsOn : ∃ state c t, Json.Tree mixedState ∧ Block.tableStateShape.spelledOnce mixedState ∧
    read mixedState = .ok (some state) ∧ mixedState.hasBrokenKey = false ∧ code (some state) = .ok c ∧
    HandsOn c t ∧ Stands t state := by
  have htree : Json.Tree mixedState := (Json.isTree_iff _).1 (by decide +kernel)
  have hspelled : Block.tableStateShape.spelledOnce mixedState := by decide +kernel
  have hkeys : mixedState.hasBrokenKey = false := by decide +kernel
  have hread : (check Block.tableStateShape mixedState).isOk := by decide +kernel
  cases hstate : check Block.tableStateShape mixedState with
  | error is =>
    rw [hstate] at hread
    cases hread
  | ok state =>
    have hread := read_eq_some.2 hstate
    obtain ⟨c, t, hcode, hhands, hstands⟩ := (code_handsOn htree hspelled hread).2 hkeys
    exact ⟨state, c, t, htree, hspelled, hread, hkeys, hcode, hhands, hstands⟩

/-- A key of open data that holds a surrogate leaves the state without code. -/
example : (match read (.map [(.str "conditionalFilters", .list [.map [(.str [.surrogate 0], .int 1)]])]) with
    | .ok state => (code state).isOk
    | .error _ => true) = false := by
  decide +kernel

end BlockNotebook.TableState
