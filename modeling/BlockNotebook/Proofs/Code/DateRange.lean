import BlockNotebook.Proofs.Block.Dispatch
import BlockNotebook.Proofs.Calendar.Date
import BlockNotebook.Proofs.Code.Data
/-!
Date ranges of two dates.

What the compiler accepts is spread over a test of the shape, a reader of dates and a comparison of what was read.
Together they accept just the ranges of the calendar, in the order of the texts (`IsRange`). Any other pair is a fault
of the block.
-/

namespace BlockNotebook.Code

open Text Calendar

/-- Each end is empty or the spelling of a date, and the first one is not the greater text. -/
structure IsRange (start stop : Text) : Prop where
  first : start = [] ∨ IsDateText start
  last : stop = [] ∨ IsDateText stop
  order : start ≠ [] → stop ≠ [] → start ≤ stop

theorem isDateRange_iff {start stop : Text} (hstart : ∀ c ∈ start, c.value < 128) (hstop : ∀ c ∈ stop, c.value < 128) :
    isDateRange (.pair (.str start) (.str stop)) ↔ IsRange start stop := by
  rw [isDateRange, Bool.and_eq_true, Bool.and_eq_true, isDateOrEmpty_iff hstart, isDateOrEmpty_iff hstop]
  constructor
  · rintro ⟨⟨hfirst, hlast⟩, horder⟩
    obtain ⟨r, hr, hle⟩ := exists_inOrder hfirst hlast
    rw [hr] at horder
    exact ⟨hfirst, hlast, hle.1 horder⟩
  · rintro ⟨hfirst, hlast, horder⟩
    obtain ⟨r, hr, hle⟩ := exists_inOrder hfirst hlast
    rw [hr]
    exact ⟨⟨hfirst, hlast⟩, hle.2 horder⟩

theorem dateRange_of_pair {b : Block} {start stop : Text}
    (hvalue : b.Stores "deepnote_variable_value" (.pair (.str start) (.str stop))) : dateRange b =
      if isDateRange (.pair (.str start) (.str stop)) then
        .ok (dateImport ++ "\n" ++ assign (variableOf b) ("[" ++ rangeEnd start ++ ", " ++ rangeEnd stop ++ "]"))
      else .error (.block b.id (.notDateRange start stop)) := by
  rw [dateRange, hvalue.data]

/-- A block that stores two texts of ASCII as its range has code exactly if they are a range of the calendar. If not,
the fault is the block's own, and is about the field of the range. -/
theorem dateRange_code_iff {v : Value} {b : Block} (hb : Block.read v = .ok b) (hform : b.form = some .inputDateRange)
    {start stop : Text} (hvalue : b.Stores "deepnote_variable_value" (.pair (.str start) (.str stop)))
    (hstart : ∀ c ∈ start, c.value < 128) (hstop : ∀ c ∈ stop, c.value < 128) (context : Option Context) :
    ((∃ code, b.code context = .ok code) ↔ IsRange start stop) ∧
      (¬ IsRange start stop → ∃ f, b.code context = .error (.block b.id f) ∧ f = .notDateRange start stop ∧
        f.field? = some "deepnote_variable_value") := by
  have hcode : b.code context = dateRange b := code_of_form (Block.isRead_of_read hb) hform rfl context
  rw [hcode, dateRange_of_pair hvalue, ← isDateRange_iff hstart hstop]
  split
  · next hrange => exact ⟨⟨fun _ => hrange, fun _ => ⟨_, rfl⟩⟩, fun hnot => absurd hrange hnot⟩
  · next hnot => exact ⟨⟨nofun, fun hrange => absurd hrange hnot⟩, fun _ => ⟨_, rfl, rfl, rfl⟩⟩

/-- A range that begins on a leap day. -/
def leapRange : Value := .map [
  (.str "id", .str "a"), (.str "type", .str "input-date-range"), (.str "sortingKey", .str "0"),
  (.str "metadata", .map [(.str "deepnote_variable_name", .str "period"),
    (.str "deepnote_variable_value", .list [.str "2024-02-29", .str "2024-03-01"])])]

theorem leapRange_code : ∃ b, Block.read leapRange = .ok b ∧ ∃ code, b.code none = .ok code := by
  have h : ((Block.read leapRange).toOption.map fun b =>
      (b.form, (b.metadata.data "deepnote_variable_value").items?.map textsOf)) =
        some (some .inputDateRange, some [ofString "2024-02-29", ofString "2024-03-01"]) := by
    rw [leapRange]
    repeat rw [ofString_ofList]
    decide +kernel
  obtain ⟨b, hb, hparts⟩ := exists_of_toOption h
  obtain ⟨hform, hends⟩ := Prod.mk.inj hparts
  obtain ⟨c, hc, hfit⟩ := Block.metadata_field (Block.isRead_of_read hb) hform "deepnote_variable_value" rfl
  cases hfit with
  | notPair t =>
    rw [Block.Stores.data hc] at hends
    cases hends
  | pair s t =>
    rw [Block.Stores.data hc] at hends
    obtain ⟨rfl, rfl⟩ : s = ofString "2024-02-29" ∧ t = ofString "2024-03-01" := by
      simpa using show [s, t] = _ from Option.some_inj.1 hends
    have hfirst : IsDateText "2024-02-29" :=
      isDateText_iff.2 ⟨⟨2024, 2, 29⟩, ⟨by decide, by decide, by decide⟩, by decide +kernel⟩
    have hlast : IsDateText "2024-03-01" :=
      isDateText_iff.2 ⟨⟨2024, 3, 1⟩, ⟨by decide, by decide, by decide⟩, by decide +kernel⟩
    have hrange : IsRange "2024-02-29" "2024-03-01" := ⟨.inr hfirst, .inr hlast, fun _ _ => by decide⟩
    exact ⟨b, hb, (dateRange_code_iff hb hform hc (by decide) (by decide) none).1.2 hrange⟩

end BlockNotebook.Code
