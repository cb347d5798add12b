import BlockNotebook.Proofs.Yaml.Scalar.Float
import BlockNotebook.Proofs.Yaml.Scalar.Int
/-!
The texts that have the form of a date.

`IsTimestamp` gives the form as it is written, part by part: a date in full, or a date and a time
of day. These are the texts that show the tag of a timestamp where dates are data
(`ofText_dated_iff`). Where dates are left as text they show no tag but that of text
(`ofText_plain`): the hyphen after the digits of the year keeps them from being numbers.
-/

namespace BlockNotebook.Yaml.Tag

open Text Scalar

/-- That many digits. -/
def IsDigits (n : Nat) (cs : List Char) : Prop := cs.length = n ∧ ∀ c ∈ cs, isAsciiDigit c

/-- One or two digits. -/
def IsShort (cs : List Char) : Prop := IsDigits 1 cs ∨ IsDigits 2 cs

/-- What may stand between the date and the time of day. -/
inductive IsGap : List Char → Prop
  | letter {c : Char} (hc : c = 'T' ∨ c = 't') : IsGap [c]
  | blanks {cs : List Char} (hne : cs ≠ []) (hcs : ∀ c ∈ cs, isTab c) : IsGap cs

/-- A point and the digits of a fraction of a second, or nothing. -/
inductive IsFractionText : List Char → Prop
  | none : IsFractionText []
  | digits {ds : List Char} (hds : ∀ c ∈ ds, isAsciiDigit c) : IsFractionText ('.' :: ds)

/-- The zone of a time of day, or nothing. -/
inductive IsZone : List Char → Prop
  | none : IsZone []
  | utc {blanks : List Char} (hblanks : ∀ c ∈ blanks, isTab c) : IsZone (blanks ++ ['Z'])
  | hours {blanks hours : List Char} {sign : Char} (hblanks : ∀ c ∈ blanks, isTab c) (hsign : sign = '-' ∨ sign = '+')
      (hhours : IsShort hours) : IsZone (blanks ++ sign :: hours)
  | minutes {blanks hours minutes : List Char} {sign : Char} (hblanks : ∀ c ∈ blanks, isTab c)
      (hsign : sign = '-' ∨ sign = '+') (hhours : IsShort hours) (hminutes : IsDigits 2 minutes) :
      IsZone (blanks ++ sign :: (hours ++ ':' :: minutes))

/-- A time of day. -/
inductive IsTime : List Char → Prop
  | mk {hour minute second fraction zone : List Char} (hhour : IsShort hour) (hminute : IsDigits 2 minute)
      (hsecond : IsDigits 2 second) (hfraction : IsFractionText fraction) (hzone : IsZone zone) :
      IsTime (hour ++ ':' :: (minute ++ ':' :: (second ++ (fraction ++ zone))))

/-- The text of a date in full, or of a date and a time of day. -/
inductive IsTimestamp : List Char → Prop
  | date {year month day : List Char} (hyear : IsDigits 4 year) (hmonth : IsDigits 2 month) (hday : IsDigits 2 day) :
    IsTimestamp (year ++ '-' :: (month ++ '-' :: day))
  | moment {year month day gap time : List Char} (hyear : IsDigits 4 year) (hmonth : IsShort month) (hday : IsShort day)
      (hgap : IsGap gap) (htime : IsTime time) : IsTimestamp (year ++ '-' :: (month ++ '-' :: (day ++ (gap ++ time))))

/-! ## No other tag -/

theorem IsTimestamp.year {cs : List Char} (h : IsTimestamp cs) :
    ∃ a b c d rest, cs = a :: b :: c :: d :: '-' :: rest ∧ ∀ x ∈ [a, b, c, d], isAsciiDigit x := by
  have hcases : ∃ year rest, IsDigits 4 year ∧ cs = year ++ '-' :: rest := by
    cases h with
    | date hyear => exact ⟨_, _, hyear, rfl⟩
    | moment hyear => exact ⟨_, _, hyear, rfl⟩
  obtain ⟨year, rest, ⟨hlength, hdigits⟩, rfl⟩ := hcases
  match year, hlength with
  | [a, b, c, d], _ => exact ⟨a, b, c, d, rest, rfl, hdigits⟩

section
variable {a b c d : Char} {rest : List Char} (hdigits : ∀ x ∈ [a, b, c, d], isAsciiDigit x)
include hdigits

theorem dropSign_year : dropSign (a :: b :: c :: d :: '-' :: rest) = a :: b :: c :: d :: '-' :: rest := by
  have ha := hdigits a List.mem_cons_self
  unfold dropSign
  split
  · rename_i heq
    rw [(List.cons.inj heq).1] at ha
    cases ha
  · rename_i heq
    rw [(List.cons.inj heq).1] at ha
    cases ha
  · rfl

/-- Of the characters of a number up to its point, the hyphen is none. -/
theorem not_isFloatText_year : ¬ isFloatText (a :: b :: c :: d :: '-' :: rest) := by
  intro h
  have hstop : ∀ whole fraction : List Char, (∀ x ∈ whole, x = ':' ∨ isDigitOrLine x) →
      a :: b :: c :: d :: '-' :: rest ≠ whole ++ '.' :: fraction := by
    intro whole fraction hwhole heq
    have hdrop := congrArg (List.dropWhile fun x => x == ':' || isDigitOrLine x) heq
    have hleft : (a :: b :: c :: d :: '-' :: rest).dropWhile (fun x => x == ':' || isDigitOrLine x) = '-' :: rest :=
      @List.dropWhile_append_of_pos _ _ [a, b, c, d] _ fun x hx => by simp [isDigitOrLine, hdigits x hx]
    rw [hleft, List.dropWhile_append_of_pos fun x hx => by simpa using hwhole x hx] at hdrop
    cases hdrop
  rcases isFloatText_cases h with hword | hfloat
  · rw [isFloatWord, dropSign_year hdigits] at hword
    obtain ⟨word, hmem, heq⟩ := List.any_eq_true.1 hword
    have hhead : ∀ word ∈ [".inf", ".Inf", ".INF", ".nan", ".NaN", ".NAN"], word.toList.head? = some '.' := by decide
    have hword := hhead word hmem
    rw [eq_of_beq heq] at hword
    cases hword
    cases hdigits '.' List.mem_cons_self
  · rw [dropSign_year hdigits] at hfloat
    generalize hcs : a :: b :: c :: d :: '-' :: rest = cs at hfloat
    cases hfloat with
    | decimal hwhole => exact hstop _ _ (fun x hx => .inr (List.all_eq_true.1 hwhole x hx)) hcs
    | sexagesimal hwhole => exact hstop _ _ (fun x hx => mem_of_isSexagesimal hwhole hx) hcs

theorem not_isIntText_year : ¬ isIntText (a :: b :: c :: d :: '-' :: rest) := by
  intro h
  have hint := IsUnsignedInt.of_isIntText h
  rw [dropSign_year hdigits] at hint
  have hmem : '-' ∈ a :: b :: c :: d :: '-' :: rest := by simp
  generalize a :: b :: c :: d :: '-' :: rest = cs at hint hmem
  cases hint with
  | binary h => exact absurd (List.all_eq_true.1 h '-' (by simpa using hmem)) (by decide)
  | hex h => exact absurd (List.all_eq_true.1 h '-' (by simpa using hmem)) (by decide)
  | octal h => exact absurd (List.all_eq_true.1 h '-' (by simpa using hmem)) (by decide)
  | decimal _ h => exact absurd (List.all_eq_true.1 (HasDigits.of_isNumeral h).all '-' hmem) (by decide)
  | sexagesimal _ h => exact absurd (mem_of_isSexagesimal h hmem) (by decide)

/-- The words with a tag of their own do not begin with a digit. -/
theorem not_isOneOf_year {words : List String} (hwords : ∀ word ∈ words, ¬ (word.toList.head?.any isAsciiDigit)) :
    isOneOf words (a :: b :: c :: d :: '-' :: rest) = false := by
  refine Bool.eq_false_iff.2 fun h => ?_
  obtain ⟨word, hmem, heq⟩ := List.any_eq_true.1 h
  refine hwords word hmem ?_
  rw [eq_of_beq heq]
  exact hdigits a List.mem_cons_self

end

/-- A text in the form of a date shows the tag of a timestamp, if dates are data, or else that of text. -/
theorem ofText_of_isTimestamp {t : Text} (h : IsTimestamp (dropLastLineFeed t.characters)) (dates : Bool) :
    ofText dates t = if dates && isTimestampText (dropLastLineFeed t.characters) then .timestamp else .str := by
  obtain ⟨a, b, c, d, rest, hbody, hdigits⟩ := h.year
  have hne : t.isEmpty = false := by
    cases t with
    | nil => cases hbody
    | cons => rfl
  unfold ofText
  dsimp only
  generalize dropLastLineFeed t.characters = body at hbody ⊢
  subst hbody
  rw [isFlagText, not_isOneOf_year hdigits (by decide), not_isOneOf_year hdigits (by decide),
    not_isOneOf_year hdigits (by decide), not_isOneOf_year hdigits (by decide), not_isOneOf_year hdigits (by decide), hne,
    if_neg Bool.false_ne_true, if_neg (not_isFloatText_year hdigits), if_neg (not_isIntText_year hdigits)]
  rfl

theorem ofText_plain {t : Text} (h : IsTimestamp (dropLastLineFeed t.characters)) : ofText false t = .str :=
  ofText_of_isTimestamp h false

/-! ## The tag of a timestamp -/

theorem isDigits_one {c : Char} (h : isAsciiDigit c) : IsDigits 1 [c] := ⟨rfl, List.forall_mem_singleton.2 h⟩

theorem isDigits_two {c d : Char} (hc : isAsciiDigit c) (hd : isAsciiDigit d) : IsDigits 2 [c, d] :=
  ⟨rfl, List.forall_mem_cons.2 ⟨hc, List.forall_mem_singleton.2 hd⟩⟩

/-- One or two digits have a first one. -/
theorem IsShort.cases {cs : List Char} (h : IsShort cs) :
    (∃ c, isAsciiDigit c ∧ cs = [c]) ∨ ∃ c d, isAsciiDigit c ∧ isAsciiDigit d ∧ cs = [c, d] := by
  rcases h with ⟨hlength, hdigits⟩ | ⟨hlength, hdigits⟩
  · match cs, hlength with
    | [c], _ => exact .inl ⟨c, hdigits c List.mem_cons_self, rfl⟩
  · match cs, hlength with
    | [c, d], _ =>
      exact .inr ⟨c, d, hdigits c List.mem_cons_self, hdigits d (List.mem_cons_of_mem _ List.mem_cons_self), rfl⟩

theorem IsShort.head {cs : List Char} (h : IsShort cs) : ∃ c rest, cs = c :: rest ∧ isAsciiDigit c := by
  rcases h.cases with ⟨c, hc, rfl⟩ | ⟨c, d, hc, -, rfl⟩
  · exact ⟨c, [], rfl, hc⟩
  · exact ⟨c, [d], rfl, hc⟩

theorem twoDigits_eq_some {cs ds rest : List Char} : twoDigits cs = some (ds, rest) ↔ IsDigits 2 ds ∧ cs = ds ++ rest := by
  constructor
  · intro h
    unfold twoDigits at h
    split at h
    · split at h
      · rename_i hdigits
        obtain ⟨ha, hb⟩ := Bool.and_eq_true_iff.1 hdigits
        cases h
        exact ⟨isDigits_two ha hb, rfl⟩
      · cases h
    · cases h
  · rintro ⟨⟨hlength, hdigits⟩, rfl⟩
    match ds, hlength with
    | [a, b], _ =>
      have ha := hdigits a List.mem_cons_self
      have hb := hdigits b (List.mem_cons_of_mem _ List.mem_cons_self)
      simp [twoDigits, ha, hb]

theorem of_shortNumber {cs ds rest : List Char} (h : shortNumber cs = some (ds, rest)) : IsShort ds ∧ cs = ds ++ rest := by
  unfold shortNumber at h
  split at h
  · split at h
    · cases h
    · rename_i ha
      have ha := by simpa using ha
      split at h
      · rename_i hb
        cases h
        exact ⟨.inr (isDigits_two ha hb), rfl⟩
      · cases h
        exact ⟨.inl (isDigits_one ha), rfl⟩
  · split at h
    · rename_i ha
      cases h
      exact ⟨.inl (isDigits_one ha), rfl⟩
    · cases h
  · cases h

/-- As many digits as there are, up to two, are read. -/
theorem shortNumber_append {ds rest : List Char} (h : IsShort ds) (hrest : ∀ c ∈ rest.head?, ¬ isAsciiDigit c) :
    shortNumber (ds ++ rest) = some (ds, rest) := by
  rcases h.cases with ⟨a, ha, rfl⟩ | ⟨a, b, ha, hb, rfl⟩
  · cases rest with
    | nil => simp [shortNumber, ha]
    | cons c rest => simp [shortNumber, ha, hrest c rfl]
  · simp [shortNumber, ha, hb]

theorem not_isTab_of_digit {c : Char} (h : isAsciiDigit c) : ¬ isTab c := by
  intro hc
  rcases Bool.or_eq_true_iff.1 hc with hc | hc
  · rw [eq_of_beq hc] at h
    cases h
  · rw [eq_of_beq hc] at h
    cases h

theorem dropWhile_blanks {blanks rest : List Char} (h : ∀ c ∈ blanks, isTab c) (hrest : ∀ c ∈ rest.head?, ¬ isTab c) :
    (blanks ++ rest).dropWhile isTab = rest := by
  rw [List.dropWhile_append_of_pos h]
  cases rest with
  | nil => rfl
  | cons c rest => exact List.dropWhile_cons_of_neg (hrest c rfl)

theorem isZone_of_timestampZone {cs : List Char} (h : (timestampZone cs).isSome) : IsZone cs := by
  have hparts : cs = cs.takeWhile isTab ++ cs.dropWhile isTab := List.takeWhile_append_dropWhile.symm
  have hblanks : ∀ c ∈ cs.takeWhile isTab, isTab c := List.all_eq_true.1 List.all_takeWhile
  unfold timestampZone at h
  split at h
  · split at h
    · rename_i hcs
      rw [List.isEmpty_iff.1 hcs]
      exact .none
    · cases h
  · rename_i hdrop
    rw [hparts, hdrop]
    exact .utc hblanks
  · rename_i s rest _ hdrop
    rw [hparts, hdrop]
    split at h
    · rename_i hs
      have hsign : s = '-' ∨ s = '+' := by simpa using hs
      split at h
      · rename_i hours hnumber
        obtain ⟨hhours, rfl⟩ := of_shortNumber hnumber
        rw [List.append_nil]
        exact .hours hblanks hsign hhours
      · rename_i hours after hnumber
        obtain ⟨hhours, rfl⟩ := of_shortNumber hnumber
        split at h
        · rename_i minutes htwo
          obtain ⟨hminutes, hafter⟩ := twoDigits_eq_some.1 htwo
          rw [hafter, List.append_nil]
          exact .minutes hblanks hsign hhours hminutes
        · cases h
      · cases h
    · cases h

theorem IsZone.isSome {cs : List Char} (h : IsZone cs) : (timestampZone cs).isSome := by
  have hsigned {s : Char} (hs : s = '-' ∨ s = '+') : ¬ isTab s ∧ s ≠ 'Z' ∧ (s == '-' || s == '+') = true := by
    rcases hs with rfl | rfl <;> decide
  cases h with
  | none => rfl
  | @utc blanks hblanks =>
    have hdrop : (blanks ++ ['Z']).dropWhile isTab = ['Z'] := dropWhile_blanks hblanks (by simp [isTab])
    rw [timestampZone, hdrop]
    rfl
  | @hours blanks hours sign hblanks hsign hhours =>
    obtain ⟨htab, hz, hsign⟩ := hsigned hsign
    have hdrop : (blanks ++ sign :: hours).dropWhile isTab = sign :: hours := dropWhile_blanks hblanks (by simpa using htab)
    have hnumber := @shortNumber_append hours [] hhours nofun
    rw [List.append_nil] at hnumber
    rw [timestampZone, hdrop]
    simp [hz, hsign, hnumber]
  | @minutes blanks hours minutes sign hblanks hsign hhours hminutes =>
    obtain ⟨htab, hz, hsign⟩ := hsigned hsign
    have hdrop : (blanks ++ sign :: (hours ++ ':' :: minutes)).dropWhile isTab = sign :: (hours ++ ':' :: minutes) :=
      dropWhile_blanks hblanks (by simpa using htab)
    have hnumber := @shortNumber_append hours (':' :: minutes) hhours (by simp [isAsciiDigit])
    have htwo : twoDigits minutes = some (minutes, []) := twoDigits_eq_some.2 ⟨hminutes, (List.append_nil _).symm⟩
    rw [timestampZone, hdrop]
    simp [hz, hsign, hnumber, htwo]

theorem isTime_of_timestampTime {date t : Timestamp} {cs : List Char} (h : timestampTime date cs = some t) :
    IsTime cs ∧ t.time.isSome := by
  unfold timestampTime at h
  split at h
  · rename_i hour afterHour hnumber
    obtain ⟨hhour, rfl⟩ := of_shortNumber hnumber
    split at h
    · rename_i minute afterMinute htwo
      obtain ⟨hminute, rfl⟩ := twoDigits_eq_some.1 htwo
      split at h
      · rename_i second afterSecond htwo
        obtain ⟨hsecond, rfl⟩ := twoDigits_eq_some.1 htwo
        dsimp only at h
        obtain ⟨zone, hzone, rfl⟩ := Option.map_eq_some_iff.1 h
        have hsome := isZone_of_timestampZone (Option.isSome_of_eq_some hzone)
        refine ⟨?_, rfl⟩
        split at hsome
        · rename_i rest _
          have hparts : '.' :: rest = '.' :: rest.takeWhile isAsciiDigit ++ rest.dropWhile isAsciiDigit :=
            congrArg _ List.takeWhile_append_dropWhile.symm
          rw [hparts]
          exact .mk hhour hminute hsecond (.digits (List.all_eq_true.1 List.all_takeWhile)) hsome
        · exact .mk hhour hminute hsecond .none hsome
      · cases h
    · cases h
  · cases h

/-- A zone does not go on with a point or with a digit. -/
theorem IsZone.head {cs : List Char} (h : IsZone cs) : ∀ c ∈ cs.head?, c ≠ '.' ∧ ¬ isAsciiDigit c := by
  have htab (c : Char) (hc : isTab c) : c ≠ '.' ∧ ¬ isAsciiDigit c := by
    refine ⟨?_, fun hdigit => not_isTab_of_digit hdigit hc⟩
    rintro rfl
    cases hc
  have hblank {blanks : List Char} {s : Char} {rest : List Char} (hblanks : ∀ c ∈ blanks, isTab c)
      (hs : s ≠ '.' ∧ ¬ isAsciiDigit s) : ∀ c ∈ (blanks ++ s :: rest).head?, c ≠ '.' ∧ ¬ isAsciiDigit c := by
    cases blanks with
    | nil =>
      rintro c hc
      cases hc
      exact hs
    | cons b blanks =>
      rintro c hc
      cases hc
      exact htab b (hblanks b List.mem_cons_self)
  have hsigned {s : Char} (hs : s = '-' ∨ s = '+') : s ≠ '.' ∧ ¬ isAsciiDigit s := by
    rcases hs with rfl | rfl <;> decide
  cases h with
  | none => nofun
  | utc hblanks => exact hblank hblanks (by decide)
  | hours hblanks hsign => exact hblank hblanks (hsigned hsign)
  | minutes hblanks hsign => exact hblank hblanks (hsigned hsign)

theorem IsTime.exists_time {cs : List Char} (h : IsTime cs) (date : Timestamp) :
    ∃ t, timestampTime date cs = some t ∧ t.time.isSome := by
  cases h with
  | @mk hour minute second fraction zone hhour hminute hsecond hfraction hzone =>
    obtain ⟨parts, hparts⟩ := Option.isSome_iff_exists.1 hzone.isSome
    have hhour := @shortNumber_append hour (':' :: (minute ++ ':' :: (second ++ (fraction ++ zone)))) hhour
      (by simp [isAsciiDigit])
    have hminute := (@twoDigits_eq_some (minute ++ ':' :: (second ++ (fraction ++ zone))) minute _).2 ⟨hminute, rfl⟩
    have hsecond := (@twoDigits_eq_some (second ++ (fraction ++ zone)) second _).2 ⟨hsecond, rfl⟩
    unfold timestampTime
    simp only [hhour, hminute, hsecond]
    cases hfraction with
    | none =>
      rw [List.nil_append]
      split
      · rename_i rest
        exact absurd rfl (hzone.head '.' rfl).1
      · simp [hparts]
    | @digits ds hds =>
      have hdigits : (ds ++ zone).takeWhile isAsciiDigit = ds ∧ (ds ++ zone).dropWhile isAsciiDigit = zone := by
        rw [List.takeWhile_append_of_pos hds, List.dropWhile_append_of_pos hds]
        cases zone with
        | nil => exact ⟨List.append_nil _, rfl⟩
        | cons c zone =>
          have hc := (hzone.head c rfl).2
          rw [List.takeWhile_cons_of_neg hc, List.dropWhile_cons_of_neg hc]
          exact ⟨List.append_nil _, rfl⟩
      simp [hdigits.1, hdigits.2, hparts]

/-- What is read as the parts of a timestamp begins with a date, and goes on with a time of day or not at all. -/
theorem of_timestamp? {cs : List Char} {t : Timestamp} (h : timestamp? cs = some t) :
    ∃ year month day rest, IsDigits 4 year ∧ IsShort month ∧ IsShort day ∧
      cs = year ++ '-' :: (month ++ '-' :: (day ++ rest)) ∧
      (rest = [] ∧ t = ⟨year, month, day, none, [], none⟩ ∨
        ∃ gap time, IsGap gap ∧ IsTime time ∧ rest = gap ++ time ∧ t.time.isSome) := by
  unfold timestamp? at h
  dsimp only at h
  split at h
  · cases h
  rename_i hyear
  have hyear : IsDigits 4 (cs.take 4) := by
    simp only [Bool.not_eq_true, Bool.not_eq_false', Bool.and_eq_true, beq_iff_eq] at hyear
    exact ⟨hyear.1, List.all_eq_true.1 hyear.2⟩
  split at h
  · rename_i afterYear hdrop
    have hcs : cs = cs.take 4 ++ '-' :: afterYear := by rw [← hdrop, List.take_append_drop]
    split at h
    · rename_i month afterMonth hnumber
      obtain ⟨hmonth, rfl⟩ := of_shortNumber hnumber
      split at h
      · rename_i day rest hnumber
        obtain ⟨hday, rfl⟩ := of_shortNumber hnumber
        refine ⟨cs.take 4, month, day, rest, hyear, hmonth, hday, hcs, ?_⟩
        split at h
        · cases h
          exact .inl ⟨rfl, rfl⟩
        rename_i c after _
        split at h
        · rename_i hc
          obtain ⟨htime, hsome⟩ := isTime_of_timestampTime h
          exact .inr ⟨[c], after, .letter (by simpa using hc), htime, rfl, hsome⟩
        split at h
        · rename_i hc
          obtain ⟨htime, hsome⟩ := isTime_of_timestampTime h
          have hblanks : ∀ x ∈ c :: after.takeWhile isTab, isTab x :=
            List.forall_mem_cons.2 ⟨hc, List.all_eq_true.1 List.all_takeWhile⟩
          have hafter : c :: after = c :: after.takeWhile isTab ++ after.dropWhile isTab :=
            congrArg _ List.takeWhile_append_dropWhile.symm
          exact .inr ⟨c :: after.takeWhile isTab, _, .blanks nofun hblanks, htime, hafter, hsome⟩
        · cases h
      · cases h
    · cases h
  · cases h

theorem isTimestamp_of_text {cs : List Char} (h : isTimestampText cs) : IsTimestamp cs := by
  unfold isTimestampText at h
  split at h
  · cases h
  · rename_i t ht
    obtain ⟨year, month, day, rest, hyear, hmonth, hday, rfl, hrest⟩ := of_timestamp? ht
    rcases hrest with ⟨rfl, rfl⟩ | ⟨gap, time, hgap, htime, rfl, -⟩
    · have hfull : month.length = 2 ∧ day.length = 2 := by simpa using h
      have htwo {ds : List Char} (hds : IsShort ds) (hlength : ds.length = 2) : IsDigits 2 ds :=
        hds.resolve_left fun hone => by rw [hone.1] at hlength; cases hlength
      rw [List.append_nil]
      exact .date hyear (htwo hmonth hfull.1) (htwo hday hfull.2)
    · exact .moment hyear hmonth hday hgap htime

/-- What is read of a date in front of a rest that does not go on with a digit. -/
theorem timestamp?_date {year month day rest : List Char} (hyear : IsDigits 4 year) (hmonth : IsShort month)
    (hday : IsShort day) : (∀ c ∈ rest.head?, ¬ isAsciiDigit c) →
    timestamp? (year ++ '-' :: (month ++ '-' :: (day ++ rest))) =
      match rest with
      | [] => some ⟨year, month, day, none, [], none⟩
      | c :: after =>
        if c == 'T' || c == 't' then timestampTime ⟨year, month, day, none, [], none⟩ after
        else if isTab c then timestampTime ⟨year, month, day, none, [], none⟩ (after.dropWhile isTab)
        else none := by
  intro hrest
  have hall : (year.length == 4 && year.all isAsciiDigit) = true := by simp [hyear.1, List.all_eq_true.2 hyear.2]
  have hmonthRead := @shortNumber_append month ('-' :: (day ++ rest)) hmonth (by simp [isAsciiDigit])
  have hdayRead := shortNumber_append hday hrest
  unfold timestamp?
  cases rest <;>
    simp only [List.take_left' hyear.1, List.drop_left' hyear.1, hall, hmonthRead, hdayRead, Bool.not_true,
      Bool.false_eq_true, if_false]

theorem IsTimestamp.isTimestampText {cs : List Char} (h : IsTimestamp cs) : isTimestampText cs := by
  cases h with
  | @date year month day hyear hmonth hday =>
    have hread := @timestamp?_date year month day [] hyear (.inr hmonth) (.inr hday) nofun
    rw [List.append_nil] at hread
    rw [Tag.isTimestampText, hread]
    simp [hmonth.1, hday.1]
  | @moment year month day gap time hyear hmonth hday hgap htime =>
    obtain ⟨t, ht, hsome⟩ := htime.exists_time ⟨year, month, day, none, [], none⟩
    have hread : timestamp? (year ++ '-' :: (month ++ '-' :: (day ++ (gap ++ time)))) = some t := by
      cases hgap with
      | letter hc =>
        rw [timestamp?_date hyear hmonth hday (by rcases hc with rfl | rfl <;> simp [isAsciiDigit])]
        simpa [hc] using ht
      | blanks hne hblanks =>
        obtain ⟨c, blanks, rfl⟩ := List.exists_cons_of_ne_nil hne
        obtain ⟨hc, hblanks⟩ := List.forall_mem_cons.1 hblanks
        have hletter : (c == 'T' || c == 't') = false := by
          rw [Bool.eq_false_iff]
          intro hletter
          rcases Bool.or_eq_true_iff.1 hletter with heq | heq <;> (rw [eq_of_beq heq] at hc; cases hc)
        have htime : ∀ x ∈ time.head?, ¬ isTab x := by
          cases htime with
          | mk hhour =>
            obtain ⟨d, rest, rfl, hd⟩ := hhour.head
            rintro x hx
            cases hx
            exact not_isTab_of_digit hd
        rw [timestamp?_date hyear hmonth hday (by rintro x hx; cases hx; exact fun hd => not_isTab_of_digit hd hc)]
        simp only [List.cons_append, hletter, hc, dropWhile_blanks hblanks htime, Bool.false_eq_true, if_false, if_true, ht]
    rw [Tag.isTimestampText, hread]
    simp [hsome]

/-- Where dates are data, the texts in the form of a date are those that show the tag of a timestamp. -/
theorem ofText_dated_iff {t : Text} : ofText true t = .timestamp ↔ IsTimestamp (dropLastLineFeed t.characters) := by
  constructor
  · intro h
    have hshown := shown_ofText true t
    rw [h] at hshown
    cases hshown with
    | date _ hdate => exact isTimestamp_of_text hdate
    | other htag => exact absurd htag (by decide)
  · intro h
    rw [ofText_of_isTimestamp h, if_pos (Bool.and_eq_true_iff.2 ⟨rfl, h.isTimestampText⟩)]

end BlockNotebook.Yaml.Tag
