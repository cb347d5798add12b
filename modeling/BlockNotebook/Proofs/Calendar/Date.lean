import BlockNotebook.Proofs.Calendar.Figures
import Mathlib.Tactic.IntervalCases
import Std.Time.Date
/-!
Dates in full figures.

A date is spelled as four, two and two figures with hyphens between, and a text of that shape is read as the date
its figures give, if there is such a date (`readDate_spelling`). Which dates there are is said by the calendar of the
standard library (`Date.isReal_iff`). Among dates spelled so, the order of the texts is the order of the calendar
(`Date.le_iff`).
-/

namespace BlockNotebook.Calendar

open Text

/-! ## Dates of the calendar -/

/-- The date is one of the proleptic Gregorian calendar, in a year of four figures. -/
structure Date.IsReal (d : Date) : Prop where
  year : 1 ≤ d.year ∧ d.year ≤ 9999
  month : 1 ≤ d.month ∧ d.month ≤ 12
  day : 1 ≤ d.day ∧ d.day ≤ daysInMonth d.year d.month

theorem daysInMonth_le (year month : Nat) : daysInMonth year month ≤ 31 := by
  unfold daysInMonth
  split
  · split <;> decide
  · split <;> decide

theorem Date.make_eq_ok_iff {year month day : Nat} {d : Date} :
    Date.make year month day = .ok d ↔ d = ⟨year, month, day⟩ ∧ d.IsReal := by
  have hout {low n high : Nat} (h : ¬ (decide (n < low) || decide (high < n)) = true) : low ≤ n ∧ n ≤ high := by
    simpa using h
  unfold Date.make
  constructor
  · intro h
    split at h
    · cases h
    split at h
    · cases h
    split at h
    · cases h
    · next hyear hmonth hday =>
      cases h
      exact ⟨rfl, hout hyear, hout hmonth, hout hday⟩
  · rintro ⟨rfl, hyear, hmonth, hday⟩
    have hin {low n high : Nat} (h : low ≤ n ∧ n ≤ high) : ¬ (decide (n < low) || decide (high < n)) = true := by
      simpa using h
    rw [if_neg (hin hyear), if_neg (hin hmonth), if_neg (hin hday)]

/-- Four, two and two figures with hyphens between. -/
def spelling (ys ms ds : List (Fin 10)) : List Char := figures ys ++ '-' :: (figures ms ++ '-' :: figures ds)

theorem Date.text_number {ys ms ds : List (Fin 10)} (hys : ys.length = 4) (hms : ms.length = 2) (hds : ds.length = 2) :
    Date.text ⟨number ys, number ms, number ds⟩ = spelling ys ms ds := by
  have hpadded {width : Nat} {ds : List (Fin 10)} (hwidth : 0 < width) (h : ds.length = width) :
      padded width (number ds) = figures ds := by
    rw [← h]
    exact padded_number (List.ne_nil_of_length_pos (h ▸ hwidth))
  rw [Date.text, hpadded (by decide) hys, hpadded (by decide) hms, hpadded (by decide) hds]
  simp [spelling]

theorem Date.IsReal.exists_figures {d : Date} (h : d.IsReal) : ∃ ys ms ds : List (Fin 10), ys.length = 4 ∧
    ms.length = 2 ∧ ds.length = 2 ∧ d = ⟨number ys, number ms, number ds⟩ := by
  have hday := h.day.2.trans (daysInMonth_le _ _)
  have hyear := h.year.2
  have hmonth := h.month.2
  obtain ⟨ys, hys, hy⟩ := @exists_number 4 d.year (by omega)
  obtain ⟨ms, hms, hm⟩ := @exists_number 2 d.month (by omega)
  obtain ⟨ds, hds, hd⟩ := @exists_number 2 d.day (by omega)
  exact ⟨ys, ms, ds, hys, hms, hds, by rw [hy, hm, hd]⟩

/-! ## Reading a date -/

theorem monthPart_figures (a b : Fin 10) (rest : List Char) : monthPart (figures [a, b] ++ '-' :: rest) =
    if 1 ≤ number [a, b] ∧ number [a, b] ≤ 12 then some (number [a, b], rest) else none := by
  fin_cases a <;> fin_cases b <;> rfl

theorem dayPart_figures (a b : Fin 10) (rest : List Char) : dayPart (figures [a, b] ++ rest) =
    if 1 ≤ number [a, b] ∧ number [a, b] ≤ 31 then some (number [a, b], rest)
    else if a = 0 then none
    else some (a.val, figures [b] ++ rest) := by
  fin_cases a <;> fin_cases b <;> rfl

/-- A date is read part by part, and nothing may be left. -/
theorem readDate_eq_ok_iff {cs : List Char} {d : Date} : readDate (ofChars cs) = .ok d ↔
    ∃ rest month rest' day, cs.drop 4 = '-' :: rest ∧ (cs.take 4).all isDecimal ∧ monthPart rest = some (month, rest') ∧
      dayPart rest' = some (day, []) ∧ Date.make (digits (cs.take 4)) month day = .ok d := by
  unfold readDate
  rw [characters_ofChars]
  dsimp only
  constructor
  · intro h
    split at h
    · next rest hrest =>
      split at h
      · next hyear =>
        split at h
        · next month rest' hmonth =>
          split at h
          · next day hday => exact ⟨rest, month, rest', day, hrest, hyear, hmonth, hday, h⟩
          · cases h
          · cases h
        · cases h
      · cases h
    · cases h
  · rintro ⟨rest, month, rest', day, hrest, hyear, hmonth, hday, hmake⟩
    simp only [hrest, if_pos hyear, hmonth, hday, hmake]

/-- Of texts that begin with four, two and two figures, just the spellings of dates are read. -/
theorem readDate_spelling {ys ms ds : List (Fin 10)} (hys : ys.length = 4) (hms : ms.length = 2) (hds : ds.length = 2)
    {rest : List Char} {d : Date} : readDate (ofChars (spelling ys ms ds ++ rest)) = .ok d ↔
      rest = [] ∧ d = ⟨number ys, number ms, number ds⟩ ∧ d.IsReal := by
  obtain ⟨m₁, m₂, rfl⟩ := List.length_eq_two.1 hms
  obtain ⟨d₁, d₂, rfl⟩ := List.length_eq_two.1 hds
  have hyear : (figures ys).length = 4 := by rw [figures, List.length_map, hys]
  have hdecimal : (figures ys).all isDecimal := by
    rw [figures, List.all_map]
    exact List.all_eq_true.2 fun d _ => isDecimal_digitChar d
  have hparts : spelling ys [m₁, m₂] [d₁, d₂] ++ rest =
      figures ys ++ '-' :: (figures [m₁, m₂] ++ '-' :: (figures [d₁, d₂] ++ rest)) := by
    simp [spelling]
  rw [readDate_eq_ok_iff, hparts, List.take_left' hyear, List.drop_left' hyear, digits_figures]
  constructor
  · rintro ⟨_, month, _, day, ⟨⟩, -, hmonth, hday, hmake⟩
    rw [monthPart_figures] at hmonth
    split at hmonth
    · cases hmonth
      rw [dayPart_figures] at hday
      split at hday
      · cases hday
        exact ⟨rfl, Date.make_eq_ok_iff.1 hmake⟩
      -- a day of one figure leaves the other one over
      split at hday <;> cases hday
    · cases hmonth
  · rintro ⟨rfl, rfl, hreal⟩
    have hmonth := (monthPart_figures m₁ m₂ (figures [d₁, d₂] ++ [])).trans (if_pos hreal.month)
    have hday := (dayPart_figures d₁ d₂ []).trans (if_pos ⟨hreal.day.1, hreal.day.2.trans (daysInMonth_le _ _)⟩)
    exact ⟨_, _, _, _, rfl, hdecimal, hmonth, hday, Date.make_eq_ok_iff.2 ⟨rfl, hreal⟩⟩

/-- A date is read from its own text. -/
theorem Date.IsReal.readDate_text {d : Date} (h : d.IsReal) : readDate (ofChars d.text) = .ok d := by
  obtain ⟨ys, ms, ds, hys, hms, hds, rfl⟩ := h.exists_figures
  have hread := (readDate_spelling hys hms hds).2 ⟨rfl, rfl, h⟩
  rwa [List.append_nil, ← Date.text_number hys hms hds] at hread

/-! ## The calendar of the standard library -/

theorem isLeapYear_eq {year : Nat} {y : Std.Time.Year.Offset} (h : y.toInt = year) : isLeapYear year = y.isLeap := by
  have hyear (n : Int) : (year : Int).tmod n = year % n := Int.tmod_eq_emod_of_nonneg (Int.natCast_nonneg year)
  rw [isLeapYear, Std.Time.Year.Offset.isLeap, h, Bool.eq_iff_iff]
  simp only [hyear, Bool.and_eq_true, Bool.or_eq_true, beq_iff_eq, bne_iff_ne, ne_eq, decide_eq_true_eq]
  omega

theorem daysInMonth_eq {year month : Nat} {y : Std.Time.Year.Offset} {m : Std.Time.Month.Ordinal} (hy : y.toInt = year)
    (hm : m.val = month) : daysInMonth year month = (m.days y.isLeap).val := by
  obtain ⟨i, hlow, hhigh⟩ := m
  obtain rfl : i = month := hm
  rw [daysInMonth, isLeapYear_eq hy]
  have hlow : 1 ≤ month := by omega
  have hhigh : month ≤ 12 := by omega
  interval_cases month <;> cases y.isLeap <;> rfl

/-- The dates of this library in years of four figures are those of the standard library. -/
theorem Date.isReal_iff {d : Date} : d.IsReal ↔ (1 ≤ d.year ∧ d.year ≤ 9999) ∧ ∃ p : Std.Time.PlainDate,
    p.year.toInt = d.year ∧ p.month.val = d.month ∧ p.day.val = d.day := by
  constructor
  · rintro ⟨hyear, hmonth, hday⟩
    have hhigh := hday.2.trans (daysInMonth_le _ _)
    let year : Std.Time.Year.Offset := Std.Time.Year.Offset.ofInt d.year
    let month : Std.Time.Month.Ordinal := ⟨d.month, by omega, by omega⟩
    let day : Std.Time.Day.Ordinal := ⟨d.day, by omega, by omega⟩
    have hlast : daysInMonth d.year d.month = (month.days year.isLeap).val := daysInMonth_eq rfl rfl
    have hvalid : year.Valid month day := by
      show (d.day : Int) ≤ (month.days year.isLeap).val
      omega
    exact ⟨hyear, ⟨year, month, day, hvalid⟩, rfl, rfl, rfl⟩
  · rintro ⟨hrange, p, hyear, hmonth, hday⟩
    have hlast := daysInMonth_eq hyear hmonth
    have hvalid : p.day.val ≤ (p.month.days p.year.isLeap).val := p.valid
    have hmonths := p.month.property
    have hdays := p.day.property
    exact ⟨hrange, by omega, by omega⟩

/-- The text is the date in figures: four for the year, two each for the month and the day, with hyphens between. -/
inductive Spells (p : Std.Time.PlainDate) : Text → Prop
  | mk {ys ms ds : List (Fin 10)} (hys : ys.length = 4) (hms : ms.length = 2) (hds : ds.length = 2)
      (hyear : p.year.toInt = number ys) (hmonth : p.month.val = number ms) (hday : p.day.val = number ds) :
      Spells p (ofChars (spelling ys ms ds))

/-- The text spells a date of the proleptic Gregorian calendar in the years 1 to 9999. -/
def IsDateText (t : Text) : Prop := ∃ p : Std.Time.PlainDate, (1 ≤ p.year.toInt ∧ p.year.toInt ≤ 9999) ∧ Spells p t

theorem isDateText_iff {t : Text} : IsDateText t ↔ ∃ d : Date, d.IsReal ∧ t = ofChars d.text := by
  constructor
  · rintro ⟨p, hrange, @⟨ys, ms, ds, hys, hms, hds, hyear, hmonth, hday⟩⟩
    refine ⟨⟨number ys, number ms, number ds⟩, Date.isReal_iff.2 ⟨?_, p, hyear, hmonth, hday⟩, ?_⟩
    · dsimp only
      omega
    · rw [Date.text_number hys hms hds]
  · rintro ⟨d, hreal, rfl⟩
    obtain ⟨ys, ms, ds, hys, hms, hds, rfl⟩ := hreal.exists_figures
    obtain ⟨hrange, p, hyear, hmonth, hday⟩ := Date.isReal_iff.1 hreal
    refine ⟨p, ?_, ?_⟩
    · dsimp only at hrange hyear
      omega
    · rw [Date.text_number hys hms hds]
      exact .mk hys hms hds hyear hmonth hday

/-! ## Texts that are dates -/

/-- Of the texts of ASCII, just those of four, two and two figures have the shape of a date. -/
theorem hasDateShape_iff {cs : List Char} (hascii : ∀ c ∈ cs, c.toNat < 128) : hasDateShape cs ↔
    ∃ ys ms ds : List (Fin 10), ys.length = 4 ∧ ms.length = 2 ∧ ds.length = 2 ∧
      ∃ rest, (rest = [] ∨ rest = ['\n']) ∧ cs = spelling ys ms ds ++ rest := by
  constructor
  · intro h
    unfold hasDateShape at h
    split at h
    · next a b c d e f g i rest =>
      simp only [Bool.and_eq_true, Bool.or_eq_true, beq_iff_eq] at h
      obtain ⟨hdecimal, hrest⟩ := h
      have hpart {part : List Char} (hsub : part ⊆ [a, b, c, d, e, f, g, i]) :
          ∃ ds : List (Fin 10), ds.length = part.length ∧ part = figures ds := by
        refine exists_figures (fun x hx => ?_) ?_
        · have hmem := hsub hx
          exact hascii x (by simp only [List.mem_cons] at hmem ⊢; grind)
        · exact List.all_eq_true.2 fun x hx => List.all_eq_true.1 hdecimal x (hsub hx)
      obtain ⟨ys, hys, hyear⟩ := @hpart [a, b, c, d] (by simp)
      obtain ⟨ms, hms, hmonth⟩ := @hpart [e, f] (by simp)
      obtain ⟨ds, hds, hday⟩ := @hpart [g, i] (by simp)
      refine ⟨ys, ms, ds, hys, hms, hds, rest, hrest, ?_⟩
      rw [spelling, ← hyear, ← hmonth, ← hday]
      rfl
    · cases h
  · rintro ⟨ys, ms, ds, hys, hms, hds, rest, hrest, rfl⟩
    obtain ⟨a, b, c, d, rfl⟩ : ∃ a b c d, ys = [a, b, c, d] := by
      match ys, hys with
      | [a, b, c, d], _ => exact ⟨a, b, c, d, rfl⟩
    obtain ⟨e, f, rfl⟩ := List.length_eq_two.1 hms
    obtain ⟨g, i, rfl⟩ := List.length_eq_two.1 hds
    rcases hrest with rfl | rfl <;> simp [spelling, figures, hasDateShape, isDecimal_digitChar]

theorem exists_chars {t : Text} (hascii : ∀ c ∈ t, c.value < 128) :
    ∃ cs : List Char, (∀ c ∈ cs, c.toNat < 128) ∧ t = ofChars cs := by
  induction t with
  | nil => exact ⟨[], List.forall_mem_nil _, rfl⟩
  | cons c t ih =>
    obtain ⟨hc, ht⟩ := List.forall_mem_cons.1 hascii
    obtain ⟨cs, hcs, rfl⟩ := ih ht
    cases c with
    | char c => exact ⟨c :: cs, List.forall_mem_cons.2 ⟨hc, hcs⟩, rfl⟩
    | surrogate n => exact absurd hc (by simp only [CodePoint.value, CodePoint.firstSurrogate]; omega)

/-- A text of ASCII is accepted as a date if it is empty or spells one. -/
theorem isDateOrEmpty_iff {t : Text} (hascii : ∀ c ∈ t, c.value < 128) : isDateOrEmpty t ↔ t = [] ∨ IsDateText t := by
  obtain ⟨cs, hcs, rfl⟩ := exists_chars hascii
  have hread : isDateOrEmpty (ofChars cs) ↔
      ofChars cs = [] ∨ hasDateShape cs ∧ ∃ d, readDate (ofChars cs) = .ok d := by
    rw [isDateOrEmpty, characters_ofChars, Bool.or_eq_true, Bool.and_eq_true]
    cases readDate (ofChars cs) <;> simp
  rw [hread, isDateText_iff]
  refine or_congr_right ⟨?_, ?_⟩
  · rintro ⟨hshape, d, hd⟩
    obtain ⟨ys, ms, ds, hys, hms, hds, rest, -, rfl⟩ := (hasDateShape_iff hcs).1 hshape
    obtain ⟨rfl, rfl, hreal⟩ := (readDate_spelling hys hms hds).1 hd
    exact ⟨_, hreal, by rw [Date.text_number hys hms hds, List.append_nil]⟩
  · rintro ⟨d, hreal, htext⟩
    have hcs' : cs = d.text := by rw [← characters_ofChars cs, htext, characters_ofChars]
    obtain ⟨ys, ms, ds, hys, hms, hds, rfl⟩ := hreal.exists_figures
    have hshape := (hasDateShape_iff hcs).2 ⟨ys, ms, ds, hys, hms, hds, [], .inl rfl, by
      rw [hcs', Date.text_number hys hms hds, List.append_nil]⟩
    exact ⟨hshape, _, htext ▸ hreal.readDate_text⟩

/-! ## The order of dates -/

theorem spelling_lt_iff {ys ms ds ys' ms' ds' : List (Fin 10)} (hys : ys.length = ys'.length)
    (hms : ms.length = ms'.length) (hds : ds.length = ds'.length) :
    ofChars (spelling ys ms ds) < ofChars (spelling ys' ms' ds') ↔ number ys < number ys' ∨ number ys = number ys' ∧
      (number ms < number ms' ∨ number ms = number ms' ∧ number ds < number ds') := by
  have hparts (ys ms ds : List (Fin 10)) : ofChars (spelling ys ms ds) =
      ofChars (figures ys) ++ .char '-' :: (ofChars (figures ms) ++ .char '-' :: ofChars (figures ds)) := by
    simp [spelling, ofChars]
  have hlength {as bs : List (Fin 10)} (h : as.length = bs.length) :
      (ofChars (figures as)).length = (ofChars (figures bs)).length := by
    simp [ofChars, figures, h]
  have hhyphen {s t : Text} : .char '-' :: s < .char '-' :: t ↔ s < t := by
    rw [List.cons_lt_cons_iff, CodePoint.lt_iff]
    simp
  rw [hparts, hparts, append_lt_append_iff (hlength hys), figures_lt_iff hys, figures_eq_iff hys, hhyphen,
    append_lt_append_iff (hlength hms), figures_lt_iff hms, figures_eq_iff hms, hhyphen, figures_lt_iff hds]

/-- The order of dates is that of their texts. -/
theorem Date.le_iff {a b : Date} (ha : a.IsReal) (hb : b.IsReal) : a.le b ↔ ofChars a.text ≤ ofChars b.text := by
  obtain ⟨ys, ms, ds, hys, hms, hds, rfl⟩ := ha.exists_figures
  obtain ⟨ys', ms', ds', hys', hms', hds', rfl⟩ := hb.exists_figures
  rw [← List.not_lt, Date.text_number hys hms hds, Date.text_number hys' hms' hds',
    spelling_lt_iff (hys'.trans hys.symm) (hms'.trans hms.symm) (hds'.trans hds.symm), Date.le]
  simp only [Bool.or_eq_true, Bool.and_eq_true, decide_eq_true_eq, beq_iff_eq]
  omega

/-- The order of two ends that are accepted can always be told, and it is that of the texts. -/
theorem exists_inOrder {start stop : Text} (hstart : start = [] ∨ IsDateText start) (hstop : stop = [] ∨ IsDateText stop) :
    ∃ r, inOrder start stop = .ok r ∧ (r = true ↔ (start ≠ [] → stop ≠ [] → start ≤ stop)) := by
  rcases hstart with rfl | hstart
  · exact ⟨true, rfl, by simp⟩
  rcases hstop with rfl | hstop
  · exact ⟨true, by simp [inOrder], by simp⟩
  obtain ⟨a, ha, rfl⟩ := isDateText_iff.1 hstart
  obtain ⟨b, hb, rfl⟩ := isDateText_iff.1 hstop
  have hne (d : Date) : ofChars d.text ≠ [] := by simp [Date.text, ofChars]
  refine ⟨a.le b, ?_, ?_⟩
  · have hgiven : ¬ ((ofChars a.text).isEmpty || (ofChars b.text).isEmpty) = true := by simp [hne]
    rw [inOrder, if_neg hgiven, ha.readDate_text]
    dsimp only
    rw [hb.readDate_text]
  · rw [Date.le_iff ha hb]
    exact ⟨fun h _ _ => h, fun h => h (hne a) (hne b)⟩

end BlockNotebook.Calendar
