import BlockNotebook.Proofs.Code.Stored
import BlockNotebook.Proofs.Json.Returned
/-!
Data inside generated code.

Data goes into code as its JSON text, and that as a literal. A reader who undoes the escapes of the
literal and then reads the JSON text has the data again (`Carries`). A chart hands on two pieces of data
so: what it draws, and its filters.
-/

namespace BlockNotebook.Code

open Schema

/-! ## Data in a literal -/

/-- The inside of a literal is on one line, and stands for a JSON text of the data. -/
structure Carries (body : Text) (v : Value) : Prop where
  oneLine : .char '\n' ∉ body ∧ .char '\r' ∉ body
  decodes : (unescape body).bind Json.read = some v

theorem printable_escaped {t : Text} (h : ∀ c ∈ t, 0x20 ≤ c.value) : ∀ c ∈ escaped t, 0x20 ≤ c.value := by
  have hescape {d : Char} (hd : 0x20 ≤ d.toNat) : ∀ c ∈ [CodePoint.char '\\', .char d], 0x20 ≤ c.value := by
    simpa [CodePoint.value] using hd
  intro c hc
  obtain ⟨d, hd, hc⟩ := List.mem_flatMap.1 hc
  unfold escapePoint at hc
  split at hc
  · exact hescape (by decide) c hc
  split at hc
  · exact hescape (by decide) c hc
  split at hc
  · exact hescape (by decide) c hc
  · rw [List.mem_singleton.1 hc]
    exact h d hd

theorem carries_written {v : Value} (hv : Json.Tree v) : ∃ t, Json.write v = .ok t ∧ Carries (escaped t) v := by
  obtain ⟨t, hwrite, hread, hprintable⟩ := hv.read_of_write
  have hescaped := printable_escaped hprintable
  refine ⟨t, hwrite, ⟨?_, ?_⟩, ?_⟩
  · exact fun hmem => absurd (hescaped _ hmem) (by decide)
  · exact fun hmem => absurd (hescaped _ hmem) (by decide)
  · rw [unescape_escaped]
    exact hread

theorem jsonLiteral_carries {v : Value} (hv : Json.Tree v) : ∃ t, jsonLiteral v = .ok (literal t) ∧ Carries (escaped t) v := by
  obtain ⟨t, hwrite, hcarries⟩ := carries_written hv
  exact ⟨t, by rw [jsonLiteral, hwrite], hcarries⟩

/-! ## Charts -/

/-- The call that draws a chart: of a variable, with what it draws and its filters. -/
def chartFrame : Frame :=
  fixed "_dntk.DeepnoteChart(" ++ [.name] ++ fixed ", " ++ [.literal] ++ fixed ", attach_selection=True, filters=" ++
    [.literal] ++ fixed ")"

/-- The filters that a block stores for its chart. -/
inductive Filters (b : Block) : List Value → Prop
  | noFilter (h : b.metadata.field? "deepnote_chart_filter" = some (.plain .null)) : Filters b []
  | noList {filter : Checked} (h : b.metadata.field? "deepnote_chart_filter" = some filter)
      (hnull : filter.field? "advancedFilters" = some (.plain .null)) : Filters b []
  | listed {filter : Checked} {items : List Value} (h : b.metadata.field? "deepnote_chart_filter" = some filter)
      (hitems : filter.field? "advancedFilters" = some (.list (items.map .plain))) : Filters b items

theorem Filters.value {b : Block} {filters : List Value} (h : Filters b filters) :
    chartFilters b.metadata = .list filters := by
  have hrecord {filter c : Checked} (h : b.metadata.field? "deepnote_chart_filter" = some filter)
      (hc : filter.field? "advancedFilters" = some c) : b.metadata.record? "deepnote_chart_filter" = some filter := by
    cases filter with
    | record fs others => rw [Checked.record?, h]
    | _ => cases hc
  cases h with
  | noFilter h => rw [chartFilters, Checked.record?, h]
  | noList h hnull =>
    rw [chartFilters, hrecord h hnull]
    simp only [Checked.items?, hnull]
  | listed h hitems =>
    rw [chartFilters, hrecord h hitems]
    simp only [Checked.items?, hitems, List.map_map]
    exact congrArg Value.list (List.map_id filters)

theorem exists_filters {b : Block} (hb : b.IsRead) (hform : b.form = some .visualization) :
    ∃ filters, Filters b filters := by
  obtain ⟨filter, hfilter, hfit⟩ := Block.metadata_field hb hform "deepnote_chart_filter" rfl
  cases hfit with
  | null => exact ⟨[], .noFilter hfilter⟩
  | given hfit =>
    cases hfit with
    | record hfields =>
      obtain ⟨items, hitems, hfit⟩ := hfields.lookup "advancedFilters" rfl
      cases hfit with
      | null => exact ⟨[], .noList hfilter hitems⟩
      | given hfit =>
        cases hfit with
        | @list _ cs hall =>
          have hplain : cs = (cs.map Checked.toValue).map .plain := by
            rw [List.map_map]
            refine (List.map_id cs).symm.trans (List.map_congr_left fun c hc => ?_)
            cases hall c hc
            rfl
          exact ⟨_, .listed hfilter (hplain ▸ hitems)⟩

theorem Writes.chart (name spec filters : Text) :
    Writes chartFrame ("_dntk.DeepnoteChart(" ++ nameOf name ++ ", " ++ Code.literal spec ++
      ", attach_selection=True, filters=" ++ Code.literal filters ++ ")") [.name (nameOf name), .text spec, .text filters] := by
  have hname : Writes _ _ [.name (nameOf name)] := (fixed "_dntk.DeepnoteChart(").append (.name name)
  have hspec : Writes _ _ [.name (nameOf name), .text spec] := (hname.append (fixed ", ")).append (literal spec)
  exact ((hspec.append (fixed ", attach_selection=True, filters=")).append (literal filters)).append (fixed ")")

/-- A block with the form of a kind that compiles to code is compiled as that kind. -/
theorem code_of_form {b : Block} (hb : b.IsRead) {k : Kind} (hk : b.form = some k) (hcode : k.hasCode)
    (context : Option Context) : b.code context = b.codeOf context k := by
  obtain ⟨j, hj, htitle⟩ := Block.kind_of_form hb hk
  obtain rfl := Block.eq_of_title hcode htitle.symm
  unfold Block.code
  simp [hj, hcode, hasForm, hk]

theorem chart_of_literals {b : Block} {name s f : Text} (hname : b.metadata.text? "deepnote_variable_name" = some name)
    (hne : name ≠ []) (hnull : b.metadata.data "deepnote_visualization_spec" ≠ .null)
    (hs : jsonLiteral (b.metadata.data "deepnote_visualization_spec") = .ok s)
    (hf : jsonLiteral (chartFilters b.metadata) = .ok f) :
    chart b = .ok ("_dntk.DeepnoteChart(" ++ nameOf name ++ ", " ++ s ++ ", attach_selection=True, filters=" ++ f ++ ")") := by
  have hempty : name.isEmpty = false := by simpa using hne
  unfold chart
  simp only [hname, Option.getD_some, hempty, Bool.false_eq_true, if_false]
  rw [hs, hf]
  rfl

/-- The code of a chart is one call with two literals. What they hold is read back as what the block draws and as the
list of its filters, if these are data that JSON has a form for. -/
theorem chart_carries {v : Value} {b : Block} (hb : Block.read v = .ok b) (hform : b.form = some .visualization)
    {name : Text} (hname : b.metadata.text? "deepnote_variable_name" = some name) (hne : name ≠ []) {spec : Value}
    (hspec : b.Stores "deepnote_visualization_spec" spec) (hnull : spec ≠ .null) (htree : Json.Tree spec) :
    ∃ filters, Filters b filters ∧ ((∀ f ∈ filters, Json.Tree f) → ∀ context, ∃ code specBody filtersBody,
      b.code context = .ok code ∧ Carries specBody spec ∧ Carries filtersBody (.list filters) ∧
      ∀ slots, ReadsAs chartFrame code slots ↔
        slots = [.name (nameOf name), .literal specBody, .literal filtersBody]) := by
  obtain ⟨filters, hfilters⟩ := exists_filters (Block.isRead_of_read hb) hform
  refine ⟨filters, hfilters, ?_⟩
  intro htrees context
  obtain ⟨specText, hspecText, hspecBody⟩ := jsonLiteral_carries htree
  obtain ⟨filtersText, hfiltersText, hfiltersBody⟩ := jsonLiteral_carries (.list htrees)
  have hreads := Writes.chart name specText filtersText
  refine ⟨_, _, _, ?_, hspecBody, hfiltersBody, fun slots => ⟨fun h => ReadsAs.unique (by decide +kernel) h hreads, ?_⟩⟩
  · rw [code_of_form (Block.isRead_of_read hb) hform rfl]
    rw [← hspec.data] at hnull hspecText
    exact chart_of_literals hname hne hnull hspecText (hfilters.value ▸ hfiltersText)
  · rintro rfl
    exact hreads

/-- A chart whose data holds quotes, backslashes, line ends and control characters. -/
def tangledChart : Value := .map [
  (.str "id", .str "a"), (.str "type", .str "visualization"), (.str "sortingKey", .str "0"),
  (.str "metadata", .map [(.str "deepnote_variable_name", .str "my frame"),
    (.str "deepnote_visualization_spec", .map [(.str "it's", .str "\"\\\n\r"), (.str "é", .list [.null, .int (-12)])]),
    (.str "deepnote_chart_filter", .map [(.str "advancedFilters", .list [.str "', '", .map []])])])]

theorem tangledChart_carries : ∃ b spec filters code specBody filtersBody, Block.read tangledChart = .ok b ∧
    b.Stores "deepnote_visualization_spec" spec ∧ Filters b filters ∧ b.code none = .ok code ∧
    Carries specBody spec ∧ Carries filtersBody (.list filters) ∧
    ReadsAs chartFrame code [.name "my_frame", .literal specBody, .literal filtersBody] := by
  have h : ((Block.read tangledChart).toOption.map fun b => (b.form, b.metadata.text? "deepnote_variable_name",
      (b.metadata.data "deepnote_visualization_spec").kindName,
      Json.isTree (b.metadata.data "deepnote_visualization_spec") && Json.isTree (chartFilters b.metadata))) =
      some (some .visualization, some (Text.ofString "my frame"), "dict", true) := by
    rw [tangledChart]
    repeat rw [Text.ofString_ofList]
    decide +kernel
  cases hb : Block.read tangledChart with
  | error is =>
    rw [hb] at h
    cases h
  | ok b =>
    rw [hb] at h
    simp only [Except.toOption, Option.map_some, Option.some_inj, Prod.mk.injEq, Bool.and_eq_true, Json.isTree_iff] at h
    obtain ⟨hform, hname, hkind, htree, htrees⟩ := h
    obtain ⟨_, hspec, hfit⟩ := Block.metadata_field (Block.isRead_of_read hb) hform "deepnote_visualization_spec" rfl
    cases hfit with
    | any spec =>
      have hspec : b.Stores "deepnote_visualization_spec" spec := hspec
      rw [hspec.data] at hkind htree
      have hnull : spec ≠ .null := by
        rintro rfl
        exact absurd hkind (by decide)
      obtain ⟨filters, hfilters, hcarries⟩ := chart_carries hb hform hname (by decide) hspec hnull htree
      rw [hfilters.value] at htrees
      cases htrees with
      | list htrees =>
        obtain ⟨code, specBody, filtersBody, hcode, hspecBody, hfiltersBody, hreads⟩ := hcarries htrees none
        have hvariable : nameOf (Text.ofString "my frame") = "my_frame" := by decide +kernel
        exact ⟨b, spec, filters, code, specBody, filtersBody, rfl, hspec, hfilters, hcode, hspecBody, hfiltersBody,
          (hreads _).2 (by rw [hvariable])⟩

end BlockNotebook.Code
