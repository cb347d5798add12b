import BlockNotebook.Proofs.Block.Form
import BlockNotebook.Proofs.Schema.Exported
import BlockNotebook.Notebook.Compile
/-!
The blocks at which no run gets past.

A run that skips goes on after a fault of a block's own, and ends at any other.
`Block.Stops` lists, by what a block holds, the four ways to a fault that is not
the block's own; `Block.compile_isFatal` says that there are no more.
-/

namespace BlockNotebook

open Schema

/-! ## Faults that are no block's own -/

/-- The work ends with a fault that is not the block's own. -/
def IsFatal {α : Type} (r : Except CompileFault α) : Prop := ∃ f, r = .error f ∧ f.isBlockFault = false

theorem not_isFatal_ok {α : Type} (a : α) : ¬ IsFatal (.ok a : Except CompileFault α) := by
  rintro ⟨f, hf, -⟩
  cases hf

theorem not_isFatal_block {α : Type} (id : Text) (f : BlockFault) :
    ¬ IsFatal (.error (.block id f) : Except CompileFault α) := by
  rintro ⟨g, hg, hown⟩
  cases hg
  cases hown

theorem isFatal_error {α : Type} {f : CompileFault} (h : f.isBlockFault = false) :
    IsFatal (.error f : Except CompileFault α) := ⟨f, rfl, h⟩

theorem isFatal_map {α β : Type} {r : Except CompileFault α} {f : α → β} : IsFatal (r.map f) ↔ IsFatal r := by
  cases r with
  | ok a => exact ⟨fun h => absurd h (not_isFatal_ok _), fun h => absurd h (not_isFatal_ok _)⟩
  | error g =>
    constructor <;> rintro ⟨f, hf, hown⟩ <;> cases hf
    · exact isFatal_error hown
    · exact isFatal_error hown

theorem isFatal_one {α β : Type} {x : Except CompileFault α} {f : α → β} :
    IsFatal (x >>= fun a => pure (f a)) ↔ IsFatal x := by
  have hmap : (x >>= fun a => pure (f a)) = x.map f := by cases x <;> rfl
  rw [hmap, isFatal_map]

/-- After a step whose faults are no block's own, the work ends with such a fault if the step or the rest does. -/
theorem isFatal_bind {α β : Type} {x : Except CompileFault α} {f : α → Except CompileFault β} {P : Prop}
    (hx : ∀ g, x = .error g → g.isBlockFault = false) (h : ∀ a, IsFatal (f a) ↔ P) :
    IsFatal (x >>= f) ↔ IsFatal x ∨ P := by
  cases x with
  | error g => exact ⟨fun _ => .inl (isFatal_error (hx g rfl)), fun _ => isFatal_error (hx g rfl)⟩
  | ok a => exact (h a).trans ⟨.inr, fun h => h.resolve_left (not_isFatal_ok a)⟩

/-! ## Relative ranges -/

namespace Code

open Text

/-- The text gives a number of days with more digits than a number can be read from. -/
def IsOverlongCount (t : Text) : Prop :=
  ∃ ds rest, t.characters = "customDays".toList ++ ds ++ rest ∧ (∀ d ∈ ds, isDecimal d) ∧
    (rest = [] ∨ rest = ['\n']) ∧ Number.maxDigits < ds.length

theorem dayCount?_of_overlong {t : Text} (h : IsOverlongCount t) :
    ∃ n, dayCount? t = .error (.tooManyDigits n) := by
  obtain ⟨ds, rest, ht, hds, hrest, hlong⟩ := h
  have hne : ds ≠ [] := by rintro rfl; exact absurd hlong (by decide)
  -- A line break at the end is not a digit, so the count is all of `ds`.
  have hstop : rest.takeWhile isDecimal = [] ∧ rest.dropWhile isDecimal = rest := by
    rcases hrest with rfl | rfl
    · exact ⟨rfl, rfl⟩
    · decide +kernel
  have htake : (ds ++ rest).takeWhile isDecimal = ds := by
    rw [List.takeWhile_append_of_pos hds, hstop.1, List.append_nil]
  have hdrop : (ds ++ rest).dropWhile isDecimal = rest := by
    rw [List.dropWhile_append_of_pos hds, hstop.2]
  refine ⟨ds.length, ?_⟩
  unfold dayCount?
  simp only [ht, List.append_assoc, List.drop_left, List.take_left, htake, hdrop]
  rw [if_neg, if_pos hlong]
  rcases hrest with rfl | rfl <;> simp [hne]

theorem overlong_of_dayCount? {t : Text} {f : Number.Fault} (h : dayCount? t = .error f) : IsOverlongCount t := by
  unfold dayCount? at h
  dsimp only at h
  split at h
  · cases h
  · split at h
    · rename_i hform hlong
      simp only [Bool.or_eq_true, bne_iff_ne, ne_eq, Bool.not_eq_true', Bool.or_eq_false_iff, beq_eq_false_iff_ne,
        not_or, not_not, not_and_or] at hform
      obtain ⟨⟨hword, -⟩, hrest⟩ := hform
      refine ⟨_, _, ?_, ?_, hrest, hlong⟩
      · rw [List.append_assoc, List.takeWhile_append_dropWhile]
        have hsplit := (List.take_append_drop "customDays".toList.length t.characters).symm
        rwa [hword] at hsplit
      · exact fun d hd => List.mem_takeWhile_imp hd
    · cases h

end Code

/-! ## Charts and tables -/

theorem jsonLiteral_isFatal {v : Value} : IsFatal (Code.jsonLiteral v) ↔ ¬ Json.HasText v := by
  rw [← Json.isOk_write]
  unfold Code.jsonLiteral
  cases Json.write v with
  | ok t => exact ⟨fun h => absurd h (not_isFatal_ok _), fun h => absurd rfl h⟩
  | error f => exact ⟨fun _ => nofun, fun _ => isFatal_error rfl⟩

theorem jsonLiteral_error {v : Value} {g : CompileFault} (h : Code.jsonLiteral v = .error g) :
    g.isBlockFault = false := by
  unfold Code.jsonLiteral at h
  split at h <;> cases h
  rfl

/-- The table state has no JSON text: it cannot be exported, or what it is exported to has none. -/
def HasNoJson (state : Checked) : Prop :=
  ¬ state.Exportable ∨ ∃ v, state.exported = .ok v ∧ ¬ Json.HasText v

theorem tableCode_isFatal {state : Checked} : IsFatal (TableState.code (some state)) ↔ HasNoJson state := by
  unfold TableState.code HasNoJson
  rw [isFatal_map, ← isOk_exported]
  unfold TableState.json
  dsimp only
  cases hs : state.exported with
  | error f => exact ⟨fun _ => .inl nofun, fun _ => isFatal_error rfl⟩
  | ok v =>
    have hjson : IsFatal ((Json.write v).mapError CompileFault.json) ↔ ¬ Json.HasText v := by
      rw [← Json.isOk_write]
      cases Json.write v with
      | ok t => exact ⟨fun h => absurd h (not_isFatal_ok _), fun h => absurd rfl h⟩
      | error f => exact ⟨fun _ => nofun, fun _ => isFatal_error rfl⟩
    refine hjson.trans ⟨fun h => .inr ⟨v, rfl, h⟩, ?_⟩
    rintro (h | ⟨w, hw, h⟩)
    · exact absurd rfl h
    · cases hw
      exact h

/-! ## The compilers that can end a run -/

namespace Code

theorem chart_isFatal {b : Block} : IsFatal (chart b) ↔
    (b.metadata.text? "deepnote_variable_name").getD [] ≠ [] ∧
      b.metadata.data "deepnote_visualization_spec" ≠ .null ∧
      (¬ Json.HasText (b.metadata.data "deepnote_visualization_spec") ∨
        ¬ Json.HasText (chartFilters b.metadata)) := by
  unfold chart
  by_cases hname : (b.metadata.text? "deepnote_variable_name").getD [] = []
  · simp only [hname, List.isEmpty_nil, if_true]
    exact ⟨fun h => absurd h (not_isFatal_block _ _), fun h => absurd rfl h.1⟩
  dsimp only
  rw [if_neg (by simpa using hname)]
  split
  · rename_i hnull
    exact ⟨fun h => absurd h (not_isFatal_block _ _), fun h => absurd hnull h.2.1⟩
  · rename_i hspec
    rw [isFatal_bind (fun _ => jsonLiteral_error) fun _ => isFatal_one, jsonLiteral_isFatal, jsonLiteral_isFatal]
    exact ⟨fun h => ⟨hname, hspec, h⟩, fun h => h.2.2⟩

theorem dateRange_isFatal {b : Block} {c : Checked} (hc : b.metadata.field? "deepnote_variable_value" = some c)
    (hfit : Fits .textOrPair c) :
    IsFatal (dateRange b) ↔ ∃ t, b.Stores "deepnote_variable_value" (.str t) ∧ IsOverlongCount t := by
  cases hfit with
  | pair s t =>
    -- A pair of dates has no count of days to read.
    have hdata : b.metadata.data "deepnote_variable_value" = .pair (.str s) (.str t) := Block.Stores.data hc
    unfold dateRange
    rw [hdata]
    dsimp only
    constructor
    · intro h
      split at h
      · exact absurd h (not_isFatal_ok _)
      · exact absurd h (not_isFatal_block _ _)
    · rintro ⟨u, hu, -⟩
      cases hc.symm.trans hu
  | notPair t =>
    have ht : b.Stores "deepnote_variable_value" (.str t) := hc
    have hvalue : storedText b = t := by rw [storedText, ht.text?]; rfl
    unfold dateRange
    rw [ht.data, hvalue]
    dsimp only
    constructor
    · intro h
      split at h
      · exact absurd h (not_isFatal_ok _)
      · split at h
        · rename_i f hf
          exact ⟨t, ht, overlong_of_dayCount? hf⟩
        · split at h
          · exact absurd h (not_isFatal_ok _)
          · exact absurd h (not_isFatal_block _ _)
        · exact absurd h (not_isFatal_block _ _)
    · rintro ⟨u, hu, hlong⟩
      cases ht.symm.trans hu
      obtain ⟨n, hn⟩ := dayCount?_of_overlong hlong
      have hother : t ≠ lastWeek := by
        rintro rfl
        have hlast : dayCount? lastWeek = .ok none := by rfl
        rw [hlast] at hn
        cases hn
      rw [if_neg (by simpa using hother), hn]
      exact isFatal_error rfl

theorem source_isFatal {b : Block} : IsFatal (source b) ↔ ∃ state, tableState b = some state ∧ HasNoJson state := by
  unfold source
  rw [isFatal_map]
  cases tableState b with
  | none => exact ⟨fun h => absurd h (not_isFatal_ok _), nofun⟩
  | some state => exact tableCode_isFatal.trans ⟨fun h => ⟨state, rfl, h⟩, fun ⟨_, he, h⟩ => by cases he; exact h⟩

theorem query_isFatal {b : Block} : IsFatal (query b) ↔ ∃ state, tableState b = some state ∧ HasNoJson state := by
  unfold query
  dsimp only
  cases tableState b with
  | none => exact ⟨fun h => absurd h (not_isFatal_ok _), nofun⟩
  | some state =>
    dsimp only
    rw [isFatal_one, tableCode_isFatal]
    exact ⟨fun h => ⟨state, rfl, h⟩, fun ⟨_, he, h⟩ => by cases he; exact h⟩

theorem not_isFatal_button (context : Option Context) (b : Block) : ¬ IsFatal (button context b) := by
  unfold button
  dsimp only
  split
  · exact not_isFatal_ok _
  · split
    · exact not_isFatal_block _ _
    · exact not_isFatal_ok _

end Code

/-! ## The blocks that end a run -/

namespace Block

/-- No run gets past the block: its type names a kind whose form it lacks, its relative range has too many digits,
or it holds data that has no JSON text where its code needs one. -/
inductive Stops (b : Block) : Prop
  | formless {k : Kind} {field : String} (hform : b.form = none) (hkind : b.kind? = some k)
      (hfield : Code.firstField? k = some field)
  | overlong {t : Text} (hform : b.form = some .inputDateRange) (ht : b.Stores "deepnote_variable_value" (.str t))
      (h : Code.IsOverlongCount t)
  | chart (hform : b.form = some .visualization)
      (hname : (b.metadata.text? "deepnote_variable_name").getD [] ≠ [])
      (hspec : b.metadata.data "deepnote_visualization_spec" ≠ .null)
      (h : ¬ Json.HasText (b.metadata.data "deepnote_visualization_spec") ∨
        ¬ Json.HasText (Code.chartFilters b.metadata))
  | table {state : Checked} (hform : b.form = some .code ∨ b.form = some .sql)
      (hstate : Code.tableState b = some state) (h : HasNoJson state)

/-- What stops a run at a block with a form depends on the form. -/
theorem Stops.of_form {b : Block} (h : b.Stops) {k : Kind} (hk : b.form = some k) :
    (k = .inputDateRange ∧ ∃ t, b.Stores "deepnote_variable_value" (.str t) ∧ Code.IsOverlongCount t) ∨
      (k = .visualization ∧ IsFatal (Code.chart b)) ∨
      ((k = .code ∨ k = .sql) ∧ ∃ state, Code.tableState b = some state ∧ HasNoJson state) := by
  cases h with
  | formless hnone _ _ => cases hk.symm.trans hnone
  | overlong hform ht h => exact .inl ⟨Option.some_inj.1 (hk.symm.trans hform), _, ht, h⟩
  | chart hform hname hspec h =>
    exact .inr (.inl ⟨Option.some_inj.1 (hk.symm.trans hform), Code.chart_isFatal.2 ⟨hname, hspec, h⟩⟩)
  | table hform hstate h =>
    refine .inr (.inr ⟨?_, _, hstate, h⟩)
    exact hform.imp (fun he => Option.some_inj.1 (hk.symm.trans he)) fun he => Option.some_inj.1 (hk.symm.trans he)

theorem Stops.of_formless {b : Block} (h : b.Stops) (hnone : b.form = none) :
    ∃ k, b.kind? = some k ∧ (Code.firstField? k).isSome := by
  cases h with
  | formless _ hkind hfield => exact ⟨_, hkind, by rw [hfield]; rfl⟩
  | overlong hform _ _ => cases hnone.symm.trans hform
  | chart hform _ _ _ => cases hnone.symm.trans hform
  | table hform _ _ => rcases hform with hform | hform <;> cases hnone.symm.trans hform

/-- The code of a block with the form of its kind ends a run exactly if the block does. -/
theorem codeOf_isFatal {b : Block} (h : b.IsRead) (context : Option Code.Context) {k : Kind}
    (hk : b.form = some k) : IsFatal (b.codeOf context k) ↔ b.Stops := by
  constructor
  · intro hfatal
    cases k with
    | code =>
      obtain ⟨state, hstate, hjson⟩ := Code.source_isFatal.1 hfatal
      exact .table (.inl hk) hstate hjson
    | sql =>
      obtain ⟨state, hstate, hjson⟩ := Code.query_isFatal.1 hfatal
      exact .table (.inr hk) hstate hjson
    | inputDateRange =>
      obtain ⟨c, hc, hfit⟩ := metadata_field h hk "deepnote_variable_value" rfl
      obtain ⟨t, ht, hlong⟩ := (Code.dateRange_isFatal hc hfit).1 hfatal
      exact .overlong hk ht hlong
    | visualization =>
      obtain ⟨hname, hspec, htext⟩ := Code.chart_isFatal.1 hfatal
      exact .chart hk hname hspec htext
    | button => exact absurd hfatal (Code.not_isFatal_button context b)
    | inputText | inputTextarea | inputCheckbox | inputSelect | inputSlider | inputFile | inputDate | bigNumber =>
      exact absurd hfatal (not_isFatal_ok _)
    | _ => exact absurd hfatal (not_isFatal_block _ _)
  · intro hs
    rcases hs.of_form hk with ⟨rfl, hrange⟩ | ⟨rfl, hchart⟩ | ⟨rfl | rfl, htable⟩
    · obtain ⟨c, hc, hfit⟩ := metadata_field h hk "deepnote_variable_value" rfl
      exact (Code.dateRange_isFatal hc hfit).2 hrange
    · exact hchart
    · exact Code.source_isFatal.2 htable
    · exact Code.query_isFatal.2 htable

/-- Markdown ends a run only for want of a form. -/
theorem markdown_isFatal {b : Block} {k : Kind} (hk : b.kind? = some k) (hkind : k.hasCode = false) :
    IsFatal b.markdown ↔ b.form = none ∧ (Code.firstField? k).isSome := by
  unfold markdown Markdown.cell
  rw [hk]
  cases k with
  | todo =>
    show IsFatal (if b.form.isSome then _ else _) ↔ _
    cases b.form with
    | none => exact ⟨fun _ => ⟨rfl, rfl⟩, fun _ => isFatal_error rfl⟩
    | some j => exact ⟨fun h => absurd h (not_isFatal_ok _), fun h => by cases h.1⟩
  | image =>
    show IsFatal (if b.form.isSome then _ else _) ↔ _
    cases b.form with
    | none => exact ⟨fun _ => ⟨rfl, rfl⟩, fun _ => isFatal_error rfl⟩
    | some j => exact ⟨fun h => absurd h (not_isFatal_ok _), fun h => by cases h.1⟩
  | paragraph | heading1 | heading2 | heading3 | bullet | callout | markdown | separator =>
    exact ⟨fun h => absurd h (not_isFatal_ok _), fun h => by cases h.2⟩
  | _ => cases hkind

theorem code_isFatal {b : Block} (h : b.IsRead) (context : Option Code.Context) {k : Kind} (hk : b.kind? = some k)
    (hkind : k.hasCode) : IsFatal (b.code context) ↔ b.Stops := by
  unfold code Code.hasForm
  simp only [hk, hkind, Bool.not_true, Bool.false_eq_true, if_false]
  rcases Option.eq_none_or_eq_some b.form with hform | ⟨j, hform⟩
  · obtain ⟨field, hfield⟩ : ∃ field, Code.firstField? k = some field := by
      cases k <;> first | exact ⟨_, rfl⟩ | cases hkind
    -- Without a form the first field that the code reads is missing.
    rw [hform, hfield, if_neg (by simp)]
    exact ⟨fun _ => .formless hform hk hfield, fun _ => isFatal_error rfl⟩
  · obtain rfl := form_eq_kind h hform hk hkind
    rw [hform, if_pos (by simp)]
    exact codeOf_isFatal h context hform

theorem stops_iff_of_markdown {b : Block} (h : b.IsRead) {k : Kind} (hk : b.kind? = some k)
    (hkind : k.hasCode = false) : b.Stops ↔ b.form = none ∧ (Code.firstField? k).isSome := by
  constructor
  · intro hs
    rcases Option.eq_none_or_eq_some b.form with hform | ⟨j, hform⟩
    · obtain ⟨i, hi, hfield⟩ := hs.of_formless hform
      cases hk.symm.trans hi
      exact ⟨hform, hfield⟩
    · -- The form is that of a kind with code, which no kind without code shares.
      have hj : j.hasCode := by
        rcases hs.of_form hform with ⟨rfl, -⟩ | ⟨rfl, -⟩ | ⟨rfl | rfl, -⟩ <;> rfl
      obtain ⟨i, hi, htitle⟩ := kind_of_form h hform
      cases hk.symm.trans hi
      rw [← eq_of_title hj htitle.symm, hj] at hkind
      cases hkind
  · rintro ⟨hform, hfield⟩
    obtain ⟨field, hfield⟩ := Option.isSome_iff_exists.1 hfield
    exact .formless hform hk hfield

/-- A block on its own ends a run that skips exactly if it is one of those that `Stops` lists. -/
theorem compile_isFatal {b : Block} (h : b.IsRead) (context : Option Code.Context) :
    IsFatal (b.compile context).result ↔ b.Stops := by
  unfold compile hasCode hasMarkdown
  cases hk : b.kind? with
  | none =>
    refine ⟨fun hfatal => absurd hfatal (not_isFatal_ok _), fun hs => ?_⟩
    rcases Option.eq_none_or_eq_some b.form with hform | ⟨j, hform⟩
    · obtain ⟨k, hkind, -⟩ := hs.of_formless hform
      cases hk.symm.trans hkind
    · obtain ⟨i, hi, -⟩ := kind_of_form h hform
      cases hk.symm.trans hi
  | some k =>
    cases hcode : k.hasCode with
    | true =>
      simp only [Option.map_some, Option.getD_some, hcode, if_true, isFatal_map]
      exact code_isFatal h context hk hcode
    | false =>
      simp only [Option.map_some, Option.getD_some, Kind.hasMarkdown, hcode, Bool.not_false, Bool.false_eq_true,
        if_true, if_false, isFatal_map]
      rw [markdown_isFatal hk hcode, stops_iff_of_markdown h hk hcode]

end Block

end BlockNotebook
