import BlockNotebook.Proofs.Yaml.Outcome
import BlockNotebook.Yaml.Token.Stream
import Mathlib.Algebra.Group.Nat.Defs
/-!
The faults of tokens.

Every fault that is met while tokens are read is at a place of the text, but for
two: a version number can be too long to be read, and an escape can name what is
no code point. Then the text holds that number or that escape (`LexicalCause`).
-/

namespace BlockNotebook.Yaml

open Text

/-- What in a text makes the reading of its tokens end in a scalar fault. -/
inductive LexicalCause (cs : List Char) : ScalarFault → Prop
  /-- A version has a number of too many digits. -/
  | version {between ds : List Char} (h : ['%', 'Y', 'A', 'M', 'L'] ++ between ++ ds <:+: cs)
      (hbetween : between.all fun c => c == ' ' || c == '.' || isAsciiDigit c) (hds : ds.all isAsciiDigit)
      (hlong : Number.maxDigits < ds.length) : LexicalCause cs (.number (.tooManyDigits ds.length))
  /-- An escape names a number beyond all code points. -/
  | escape {ds : List Char} (h : '\\' :: 'U' :: ds <:+: cs) (hlength : ds.length = 8) (hds : ds.all isHexDigit)
      (hvalue : 0x110000 ≤ hexValue ds) : LexicalCause cs (.noCodePoint (hexValue ds))

/-- The reading ends with a position in the text, or in a fault that the text explains. -/
abbrev Scans {α : Type} (cs : List Char) (r : Except Fault (α × Cursor)) : Prop :=
  Ends (LexicalCause cs) (fun a => a.2.Within cs) r

section
variable {cs : List Char} {since : Mark} {activity : Activity} {cur : Cursor}

/-! ## Tags and directives -/

theorem uriBytes_scans (h : cur.Within cs) (fuel : Nat) : Scans cs (uriBytes activity since fuel cur) := by
  induction fuel generalizing cur with
  | zero => exact .ok h
  | succ fuel ih =>
    unfold uriBytes
    split
    · exact .ok h
    dsimp only
    split
    · exact .place
    split
    · exact .place
    · exact (ih (h.forward.forwardBy 2)).bind fun _ h => .ok h

theorem uriPieces_scans (h : cur.Within cs) (fuel : Nat) : Scans cs (uriPieces activity since fuel cur) := by
  induction fuel generalizing cur with
  | zero => exact .ok h
  | succ fuel ih =>
    unfold uriPieces
    have hspan := h.span isUriChar
    dsimp only
    split
    · refine (uriBytes_scans hspan _).bind fun ⟨bytes, after⟩ hafter => ?_
      dsimp only
      split
      · exact .place
      · exact (ih hafter).bind fun _ h => .ok h
    · exact .ok hspan

theorem uri_scans {parsing : Activity} (h : cur.Within cs) : Scans cs (uri activity parsing since cur) := by
  refine (uriPieces_scans h _).bind fun ⟨cs, after⟩ hafter => ?_
  dsimp only
  split
  · exact .place
  · exact .ok hafter

theorem handle_scans (h : cur.Within cs) : Scans cs (handle activity since cur) := by
  unfold handle
  split
  · exact .place
  split
  · exact .ok h.forward
  dsimp only
  split
  · exact .place
  · exact .ok ((h.forward.span isNameChar).forward)

theorem ignoredLine_ends (h : cur.Within cs) :
    Ends (LexicalCause cs) (·.Within cs) (ignoredLine activity since cur) := by
  unfold ignoredLine
  dsimp only
  have hafter := h.skipSpaces.skipComment
  generalize (if cur.skipSpaces.next == '#' then cur.skipSpaces.skipLine else cur.skipSpaces) = after at hafter
  split
  · exact .ok hafter.lineBreak
  · exact .place

/-- A version number is read after what stands between it and the name of the directive. -/
theorem versionNumber_ends {between : List Char}
    (h : ['%', 'Y', 'A', 'M', 'L'] ++ between ++ cur.rest <:+ cs)
    (hbetween : between.all fun c => c == ' ' || c == '.' || isAsciiDigit c) :
    Ends (LexicalCause cs) (fun r => ∃ ds : List Char, ds.all isAsciiDigit ∧
      ['%', 'Y', 'A', 'M', 'L'] ++ (between ++ ds) ++ r.2.rest <:+ cs) (versionNumber since cur) := by
  unfold versionNumber
  split
  · exact .place
  dsimp only
  have happend := cur.span_append isAsciiDigit
  have hall := cur.span_all isAsciiDigit
  rw [← happend] at h
  split
  · rename_i hlong
    refine .scalar (.version (List.IsInfix.trans ?_ h.isInfix) hbetween hall hlong)
    exact ⟨[], (cur.span isAsciiDigit).2.rest, by simp [List.append_assoc]⟩
  · exact .ok ⟨_, hall, by simpa [List.append_assoc] using h⟩

theorem version_scans (h : ['%', 'Y', 'A', 'M', 'L'] ++ cur.rest <:+ cs) : Scans cs (version since cur) := by
  unfold version
  have happend := cur.span_append (· == ' ')
  have hspaces : (cur.span (· == ' ')).1.all fun c => c == ' ' || c == '.' || isAsciiDigit c := by
    have hall := cur.span_all (· == ' ')
    grind
  have hmajor : ['%', 'Y', 'A', 'M', 'L'] ++ (cur.span (· == ' ')).1 ++ cur.skipSpaces.rest <:+ cs := by
    rw [← happend] at h
    simpa [Cursor.skipSpaces, Cursor.skip] using h
  refine (versionNumber_ends hmajor hspaces).bind fun ⟨major, after⟩ ⟨ds, hds, hafter⟩ => ?_
  dsimp only at hafter ⊢
  split
  · exact .place
  rename_i hdot
  have hpoint : after.rest = '.' :: after.forward.rest :=
    Cursor.rest_of_next (by simpa using hdot) (by decide)
  have hminor : ['%', 'Y', 'A', 'M', 'L'] ++ ((cur.span (· == ' ')).1 ++ ds ++ ['.']) ++ after.forward.rest <:+ cs := by
    rw [hpoint] at hafter
    simpa using hafter
  refine (versionNumber_ends hminor (by grind)).bind fun ⟨minor, last⟩ ⟨_, _, hlast⟩ => ?_
  dsimp only at hlast ⊢
  split
  · exact .ok ((List.suffix_append _ _).trans hlast)
  · exact .place

theorem tagHandle_scans (h : cur.Within cs) : Scans cs (tagHandle since cur) := by
  refine (handle_scans h.skipSpaces).bind fun ⟨name, after⟩ hafter => ?_
  dsimp only
  split
  · exact .place
  refine (uri_scans hafter.skipSpaces).bind fun ⟨stem, last⟩ hlast => ?_
  dsimp only
  split
  · exact .ok hlast
  · exact .place

theorem scanDirective_scans (h : cur.Within cs) (hpercent : cur.next = '%') : Scans cs (scanDirective cur) := by
  unfold scanDirective
  have hrest : cur.rest = '%' :: ((cur.forward.span isNameChar).1 ++ (cur.forward.span isNameChar).2.rest) := by
    rw [Cursor.span_append]
    exact Cursor.rest_of_next hpercent (by decide)
  have hspan := h.forward.span isNameChar
  rw [Cursor.Within, hrest] at h
  generalize cur.forward.span isNameChar = span at h hspan
  obtain ⟨name, after⟩ := span
  dsimp only at h hspan ⊢
  split
  · exact .place
  split
  · rename_i hname
    obtain rfl : name = ['Y', 'A', 'M', 'L'] := String.ofList_injective (eq_of_beq hname)
    have hversion : Ends (LexicalCause cs) (fun r => r.2.2.Within cs)
        ((version cur.mark after).map fun r => (r.1, r.2.mark, r.2)) := (version_scans h).map fun _ h => h
    refine hversion.bind ?_
    rintro ⟨d, stop, next⟩ hnext
    exact (ignoredLine_ends hnext).bind fun _ hlast => .ok hlast
  split
  · have htag : Ends (LexicalCause cs) (fun r => r.2.2.Within cs)
        ((tagHandle cur.mark after).map fun r => (r.1, r.2.mark, r.2)) := (tagHandle_scans hspan).map fun _ h => h
    refine htag.bind ?_
    rintro ⟨d, stop, next⟩ hnext
    exact (ignoredLine_ends hnext).bind fun _ hlast => .ok hlast
  · have hother : Ends (LexicalCause cs) (fun r : Directive × Mark × Cursor => r.2.2.Within cs)
        (.ok (.other (String.ofList name), after.mark, after.skipLine)) := .ok hspan.skipLine
    refine hother.bind ?_
    rintro ⟨d, stop, next⟩ hnext
    exact (ignoredLine_ends hnext).bind fun _ hlast => .ok hlast

theorem scanAnchor_scans {make : String → Token.Kind} (h : cur.Within cs) :
    Scans cs (scanAnchor activity make cur) := by
  unfold scanAnchor
  dsimp only
  split
  · exact .place
  · exact .ok (h.forward.span isNameChar)

theorem tagParts_scans (h : cur.Within cs) : Scans cs (tagParts since cur) := by
  unfold tagParts
  dsimp only
  split
  · refine (uri_scans (h.forwardBy 2)).bind fun ⟨suffix, after⟩ hafter => ?_
    dsimp only
    split
    · exact .place
    · exact .ok hafter.forward
  split
  · exact .ok h.forward
  split
  · refine (handle_scans h).bind fun ⟨name, after⟩ hafter => ?_
    exact (uri_scans hafter).bind fun _ hlast => .ok hlast
  · exact (uri_scans h.forward).bind fun _ hlast => .ok hlast

theorem scanTag_scans (h : cur.Within cs) : Scans cs (scanTag cur) := by
  refine (tagParts_scans h).bind fun ⟨text, after⟩ hafter => ?_
  dsimp only
  split
  · exact .ok hafter
  · exact .place

/-! ## Block scalars -/

theorem depthDigit_scans (h : cur.Within cs) : Scans cs (depthDigit since cur) := by
  unfold depthDigit
  dsimp only
  split
  · exact .ok h
  split
  · exact .place
  · exact .ok h.forward

theorem blockIndicators_scans (h : cur.Within cs) : Scans cs (blockIndicators since cur) := by
  unfold blockIndicators
  split
  · exact (depthDigit_scans h.forward).bind fun ⟨depth, after⟩ hafter => .ok hafter
  · refine (depthDigit_scans h).bind fun ⟨depth, after⟩ hafter => ?_
    dsimp only
    split
    · exact .ok hafter.forward
    · exact .ok hafter

theorem blockHeader_scans (h : cur.Within cs) : Scans cs (blockHeader since cur) := by
  refine (blockIndicators_scans h).bind fun ⟨header, after⟩ hafter => ?_
  dsimp only
  split
  · exact .place
  · exact (ignoredLine_ends hafter).bind fun _ hlast => .ok hlast

theorem leadingBreaks_within (h : cur.Within cs) (fuel : Nat) (stop : Mark) (deepest : Nat) :
    (leadingBreaks fuel stop deepest cur).1.cursor.Within cs := by
  induction fuel generalizing stop deepest cur with
  | zero => exact h
  | succ fuel ih =>
    unfold leadingBreaks
    split
    · exact ih h.forward _ _
    have hbreak := h.lineBreak
    generalize cur.lineBreak = broken at hbreak
    obtain ⟨_ | b, after⟩ := broken
    · exact h
    · exact ih hbreak _ _

theorem skipIndentation_within (h : cur.Within cs) (depth fuel : Nat) :
    (skipIndentation depth fuel cur).Within cs := by
  induction fuel generalizing cur with
  | zero => exact h
  | succ fuel ih =>
    unfold skipIndentation
    split
    · exact ih h.forward
    · exact h

theorem innerBreaks_within (h : cur.Within cs) (depth fuel : Nat) (stop : Mark) :
    (innerBreaks depth fuel stop cur).cursor.Within cs := by
  induction fuel generalizing stop cur with
  | zero => exact h
  | succ fuel ih =>
    have hskip := skipIndentation_within h depth depth
    have hbreak := hskip.lineBreak
    unfold innerBreaks
    dsimp only
    generalize (skipIndentation depth depth cur).lineBreak = broken at hbreak
    obtain ⟨_ | b, after⟩ := broken
    · exact hskip
    · exact ih hbreak _

theorem blockLines_within {folded : Bool} {depth : Nat} (fuel : Nat) {lastBreak : List Char} {tail : Breaks}
    (h : tail.cursor.Within cs) : (blockLines folded depth fuel lastBreak tail).tail.cursor.Within cs := by
  induction fuel generalizing lastBreak tail with
  | zero => exact h
  | succ fuel ih =>
    unfold blockLines
    dsimp only
    split
    · exact h
    · exact ih (innerBreaks_within (h.span _).lineBreak _ _ _)

theorem scanBlockScalar_scans {folded : Bool} {indent : Int} (h : cur.Within cs) :
    Scans cs (scanBlockScalar folded indent cur) := by
  refine (blockHeader_scans h.forward).bind fun ⟨header, after⟩ hafter => ?_
  dsimp only
  refine .ok (blockLines_within _ ?_)
  split
  · exact leadingBreaks_within hafter _ _ _
  · exact innerBreaks_within hafter _ _ _

/-! ## Quoted scalars -/

theorem quotedBreaks_scans (h : cur.Within cs) (fuel : Nat) : Scans cs (quotedBreaks since fuel cur) := by
  induction fuel generalizing cur with
  | zero => exact .ok h
  | succ fuel ih =>
    unfold quotedBreaks
    split
    · exact .place
    have hskip := h.skip fun c => c == ' ' || c == '\t'
    have hbreak := hskip.lineBreak
    dsimp only
    generalize (cur.skip fun c => c == ' ' || c == '\t').lineBreak = broken at hbreak
    obtain ⟨_ | b, after⟩ := broken
    · exact .ok hskip
    · exact (ih hbreak).bind fun _ hafter => .ok hafter

theorem isSome_ofValue? {n : Nat} (h : n < 0x110000) : (CodePoint.ofValue? n).isSome := by
  unfold CodePoint.ofValue?
  split
  · rfl
  · rfl

theorem alphanumericValue?_lt {c : Char} (h : isHexDigit c) : (alphanumericValue? c).getD 0 < 16 := by
  have hle (a b : Char) : a ≤ b ↔ a.toNat ≤ b.toNat := Iff.rfl
  simp only [isHexDigit, isAsciiDigit, Bool.or_eq_true, Bool.and_eq_true, decide_eq_true_eq, hle] at h
  simp only [alphanumericValue?, Bool.and_eq_true, decide_eq_true_eq, hle]
  split
  · simp only [Option.getD_some]
    have ha : 'a'.toNat = 97 := rfl
    have hf : 'f'.toNat = 102 := rfl
    have h9 : '9'.toNat = 57 := rfl
    have hF : 'F'.toNat = 70 := rfl
    omega
  split
  · simp only [Option.getD_some]
    have ha : 'a'.toNat = 97 := rfl
    have hA : 'A'.toNat = 65 := rfl
    have h9 : '9'.toNat = 57 := rfl
    have hF : 'F'.toNat = 70 := rfl
    have hZ : 'Z'.toNat = 90 := rfl
    omega
  · cases hvalue : digitValue? c with
    | none => decide
    | some n => exact Nat.lt_trans (digitValue?_lt hvalue) (by decide)

/-- Digits in base sixteen are worth less than a power of it. -/
theorem hexValue_lt {ds : List Char} (h : ds.all isHexDigit) : hexValue ds < 16 ^ ds.length := by
  have hfrom : ∀ n, ds.foldl (fun n c => n * 16 + (alphanumericValue? c).getD 0) n < (n + 1) * 16 ^ ds.length := by
    induction ds with
    | nil => exact fun n => by simp
    | cons c rest ih =>
      intro n
      obtain ⟨hc, hrest⟩ := Bool.and_eq_true_iff.1 h
      have hdigit := alphanumericValue?_lt hc
      calc (c :: rest).foldl (fun n c => n * 16 + (alphanumericValue? c).getD 0) n
        _ < (n * 16 + (alphanumericValue? c).getD 0 + 1) * 16 ^ rest.length := ih hrest _
        _ ≤ (n + 1) * 16 * 16 ^ rest.length := Nat.mul_le_mul_right _ (by omega)
        _ = (n + 1) * 16 ^ (rest.length + 1) := by rw [Nat.pow_succ]; ac_rfl
  simpa [hexValue] using hfrom 0

/-- Characters ahead that are no end are the first of those that are left. -/
theorem map_peek {count : Nat} (h : ∀ c ∈ (List.range count).map cur.peek, c ≠ '\x00') :
    (List.range count).map cur.peek = cur.rest.take count ∧ (cur.rest.take count).length = count := by
  have hlength : count ≤ cur.rest.length := Nat.le_of_not_lt fun hlt => by
    have hpeek : cur.peek cur.rest.length = '\x00' := by simp [Cursor.peek]
    exact h _ (List.mem_map.2 ⟨cur.rest.length, List.mem_range.2 hlt, rfl⟩) hpeek
  have htake : (cur.rest.take count).length = count := by rw [List.length_take, Nat.min_eq_left hlength]
  refine ⟨List.ext_getElem (by simp [htake]) fun i hi _ => ?_, htake⟩
  have hi : i < cur.rest.length := Nat.lt_of_lt_of_le (by simpa using hi) hlength
  simp [Cursor.peek, hi]

/-- A numeric escape names a code point, unless it is a long one with too large a number. -/
theorem numericEscape_ends {count : Nat} (h : cur.Within cs) (hbackslash : cur.next = '\\')
    (hcount : escapeDigits? cur.forward.next = some count)
    (hdigits : ((List.range count).map cur.forward.forward.peek).all isHexDigit) :
    Ends (LexicalCause cs) (fun _ => True) (numericEscape (hexValue ((List.range count).map cur.forward.forward.peek))) := by
  obtain ⟨htake, hlength⟩ := @map_peek cur.forward.forward count fun c hc hzero => by
    have hdigit := List.all_eq_true.1 hdigits c hc
    rw [hzero] at hdigit
    cases hdigit
  rw [htake] at hdigits ⊢
  unfold numericEscape
  split
  · exact .ok trivial
  rename_i hnone
  have hvalue : 0x110000 ≤ hexValue (cur.forward.forward.rest.take count) := Nat.le_of_not_lt fun hlt => by
    have hsome := isSome_ofValue? hlt
    rw [hnone] at hsome
    cases hsome
  have hbound := hexValue_lt hdigits
  rw [hlength] at hbound
  -- Numbers of two or of four digits are not that large.
  unfold escapeDigits? at hcount
  split at hcount
  · cases hcount; omega
  split at hcount
  · cases hcount; omega
  split at hcount
  · rename_i hU
    cases hcount
    refine .scalar (.escape (List.IsInfix.trans ?_ h.isInfix) hlength hdigits hvalue)
    have hrest : cur.rest = '\\' :: 'U' :: cur.forward.forward.rest := by
      rw [Cursor.rest_of_next hbackslash (by decide), Cursor.rest_of_next (eq_of_beq hU) (by decide)]
    rw [hrest]
    exact ⟨[], cur.forward.forward.rest.drop 8, by simp⟩
  · cases hcount

theorem doubleEscape_scans (h : cur.Within cs) (hbackslash : cur.next = '\\') :
    Scans cs (doubleEscape since cur) := by
  unfold doubleEscape
  dsimp only
  split
  · exact .ok h.forward.forward
  split
  · rename_i count hcount
    split
    · exact .place
    rename_i hnone
    have hdigits : ((List.range count).map cur.forward.forward.peek).all isHexDigit :=
      List.all_eq_true.2 fun c hc => by simpa using List.find?_eq_none.1 hnone c hc
    exact (numericEscape_ends h hbackslash hcount hdigits).bind fun _ _ => .ok (h.forward.forward.forwardBy count)
  split
  · exact (quotedBreaks_scans h.forward.lineBreak _).bind fun _ hafter => .ok hafter
  · exact .place

theorem quotedRun_scans {double : Bool} (h : cur.Within cs) (fuel : Nat) :
    Scans cs (quotedRun double since fuel cur) := by
  induction fuel generalizing cur with
  | zero => exact .ok h
  | succ fuel ih =>
    unfold quotedRun
    have hspan := h.span (!stopsQuotedRun ·)
    generalize cur.span (!stopsQuotedRun ·) = span at hspan
    obtain ⟨run, after⟩ := span
    dsimp only at hspan ⊢
    split
    · exact (ih (hspan.forwardBy 2)).bind fun _ hlast => .ok hlast
    split
    · exact (ih hspan.forward).bind fun _ hlast => .ok hlast
    split
    · rename_i hescape
      obtain ⟨-, hbackslash⟩ := Bool.and_eq_true_iff.1 hescape
      refine (doubleEscape_scans hspan (eq_of_beq hbackslash)).bind fun ⟨x, next⟩ hnext => ?_
      exact (ih hnext).bind fun _ hlast => .ok hlast
    · exact .ok hspan

theorem quotedGap_scans (h : cur.Within cs) : Scans cs (quotedGap since cur) := by
  unfold quotedGap
  have hspan := h.span fun c => c == ' ' || c == '\t'
  generalize (cur.span fun c => c == ' ' || c == '\t') = span at hspan
  obtain ⟨blanks, after⟩ := span
  dsimp only at hspan ⊢
  split
  · exact .place
  have hbreak := hspan.lineBreak
  generalize after.lineBreak = broken at hbreak
  obtain ⟨_ | b, next⟩ := broken
  · exact .ok hspan
  · exact (quotedBreaks_scans hbreak _).bind fun _ hlast => .ok hlast

theorem quotedParts_scans {double : Bool} {quote : Char} (h : cur.Within cs) (fuel : Nat) :
    Scans cs (quotedParts double quote since fuel cur) := by
  induction fuel generalizing cur with
  | zero => exact .ok h
  | succ fuel ih =>
    unfold quotedParts
    split
    · exact .ok h
    refine (quotedGap_scans h).bind fun ⟨gap, afterGap⟩ hgap => ?_
    refine (quotedRun_scans hgap _).bind fun ⟨run, afterRun⟩ hrun => ?_
    exact (ih hrun).bind fun _ hlast => .ok hlast

theorem scanQuoted_scans {double : Bool} (h : cur.Within cs) : Scans cs (scanQuoted double cur) := by
  refine (quotedRun_scans h.forward _).bind fun ⟨first, afterFirst⟩ hfirst => ?_
  exact (quotedParts_scans hfirst _).bind fun _ hlast => .ok hlast.forward

/-! ## Plain scalars -/

theorem plainBreaks_within (h : cur.Within cs) (fuel : Nat) : (plainBreaks fuel cur).2.Within cs := by
  induction fuel generalizing cur with
  | zero => exact h
  | succ fuel ih =>
    unfold plainBreaks
    have hbreak := h.skipSpaces.lineBreak
    dsimp only
    generalize cur.skipSpaces.lineBreak = broken at hbreak
    obtain ⟨_ | b, after⟩ := broken
    · exact h.skipSpaces
    · dsimp only
      split
      · exact hbreak
      · exact ih hbreak

theorem plainGap_within (h : cur.Within cs) : (plainGap cur).2.2.Within cs := by
  unfold plainGap
  have hspan := h.span (· == ' ')
  generalize cur.span (· == ' ') = span at hspan
  obtain ⟨blanks, next⟩ := span
  dsimp only at hspan ⊢
  have hbreak := hspan.lineBreak
  generalize next.lineBreak = broken at hbreak
  obtain ⟨_ | b, after⟩ := broken
  · exact hspan
  · dsimp only at hbreak ⊢
    split
    · exact hbreak
    have hbreaks := plainBreaks_within hbreak (after.rest.length + 1)
    generalize plainBreaks (after.rest.length + 1) after = result at hbreaks
    obtain ⟨_ | breaks, last⟩ := result
    · exact hbreaks
    · exact hbreaks

theorem plainParts_within {inFlow : Bool} {indent : Int} (fuel : Nat) {gap : List Char} {r : PlainText}
    (h : r.cursor.Within cs) : (plainParts inFlow indent fuel gap r).cursor.Within cs := by
  induction fuel generalizing gap r with
  | zero => exact h
  | succ fuel ih =>
    unfold plainParts
    dsimp only
    generalize (if r.cursor.next == '#' then [] else plainRun inFlow r.cursor.rest) = run
    split
    · exact h
    have hgap := plainGap_within (h.forwardBy run.length)
    generalize plainGap (r.cursor.forwardBy run.length) = next at hgap
    obtain ⟨nextGap, broken, after⟩ := next
    dsimp only at hgap ⊢
    split
    · exact hgap
    · exact ih hgap

theorem scanPlain_within {inFlow : Bool} {indent : Int} (h : cur.Within cs) :
    (scanPlain inFlow indent cur).2.2.Within cs := plainParts_within _ h

end

namespace Lexer

/-! ## Between tokens -/

/-- The reading goes on in the text, or ends in a fault that the text explains. -/
abbrev Advances (cs : List Char) (r : Except Fault Lexer) : Prop := Ends (LexicalCause cs) (·.cursor.Within cs) r

theorem cursor_unindent (s : Lexer) (column : Int) (outer : List Int) : (s.unindent column outer).cursor = s.cursor := by
  induction outer generalizing s with
  | nil => rfl
  | cons indent rest ih =>
    rw [unindent]
    split
    · exact ih _
    · rfl

theorem cursor_closeBlocks (s : Lexer) (column : Int) : (s.closeBlocks column).cursor = s.cursor := by
  unfold closeBlocks
  split
  · rfl
  · exact cursor_unindent _ _ _

theorem cursor_openBlock (s : Lexer) (column : Int) : (s.openBlock column).2.cursor = s.cursor := by
  unfold openBlock
  split <;> rfl

theorem cursor_openBlockHere (s : Lexer) (kind : Token.Kind) : (s.openBlockHere kind).cursor = s.cursor := by
  unfold openBlockHere
  have hopen := s.cursor_openBlock s.cursor.column
  generalize s.openBlock s.cursor.column = opened at hopen
  obtain ⟨_ | _, t⟩ := opened <;> exact hopen

theorem cursor_opened (s : Lexer) (kind : Token.Kind) :
    (if s.inFlow then s else s.openBlockHere kind).cursor = s.cursor := by
  split
  · rfl
  · exact cursor_openBlockHere s kind

theorem cursor_promote (s : Lexer) (k : KeyCandidate) : (s.promote k).cursor = s.cursor := by
  have hopened (t : Lexer) : (if t.inFlow then (false, t) else t.openBlock k.mark.column).2.cursor = t.cursor := by
    split
    · rfl
    · exact cursor_openBlock _ _
  unfold promote
  extract_lets at_ front back mark opened
  have h := hopened opened
  generalize (if opened.inFlow then (false, opened) else opened.openBlock k.mark.column) = r at h ⊢
  obtain ⟨_ | _, t⟩ := r <;> exact h

section
variable {cs : List Char} {s : Lexer}

/-- The reading stays where it is, or ends in a fault at a place. -/
abbrev Stays (s : Lexer) (r : Except Fault Lexer) : Prop := Ends (fun _ => False) (·.cursor = s.cursor) r

theorem dropStale_stays (s : Lexer) : s.Stays s.dropStale := by
  unfold dropStale
  split
  · exact .place
  · exact .ok rfl

theorem dropCandidate_stays (s : Lexer) : s.Stays s.dropCandidate := by
  unfold dropCandidate
  split
  · exact .ok rfl
  split
  · exact .place
  · exact .ok rfl

theorem markCandidate_stays (s : Lexer) : s.Stays s.markCandidate := by
  unfold markCandidate
  split
  · exact .ok rfl
  · exact s.dropCandidate_stays.bind fun _ h => .ok h

theorem closeBlocks_stays (s : Lexer) : s.Stays (s.closeBlocks (-1)).dropCandidate :=
  (dropCandidate_stays _).mono (fun _ h => h) fun _ h => h.trans (cursor_closeBlocks s _)

/-- What follows a step that stays where it is. -/
theorem Stays.bind {α : Type} {P : α → Prop} {r : Except Fault Lexer} (hr : s.Stays r) {f : Lexer → Except Fault α}
    (hf : ∀ t, t.cursor = s.cursor → Ends (LexicalCause cs) P (f t)) : Ends (LexicalCause cs) P (r >>= f) :=
  (hr.mono (fun _ h => h.elim) fun _ h => h).bind hf

/-! ## The next token -/

theorem skipToToken_within (h : s.cursor.Within cs) (fuel : Nat) : (s.skipToToken fuel).cursor.Within cs := by
  induction fuel generalizing s with
  | zero => exact h
  | succ fuel ih =>
    unfold skipToToken
    dsimp only
    have hafter := h.skipSpaces.skipComment
    generalize (if s.cursor.skipSpaces.next == '#' then s.cursor.skipSpaces.skipLine else s.cursor.skipSpaces) = after
      at hafter
    have hbreak := hafter.lineBreak
    generalize after.lineBreak = broken at hbreak
    obtain ⟨_ | b, next⟩ := broken
    · exact hafter
    · exact ih hbreak

theorem skipOrderMark_within (h : s.cursor.Within cs) : s.skipOrderMark.cursor.Within cs := by
  unfold skipOrderMark
  split
  · exact h.forward
  · exact h

theorem streamEnd_advances (h : s.cursor.Within cs) : Advances cs s.streamEnd :=
  (closeBlocks_stays s).bind fun _ ht => ht ▸ .ok h

theorem directive_advances (h : s.cursor.Within cs) (hpercent : s.cursor.next = '%') : Advances cs s.directive := by
  refine (closeBlocks_stays s).bind fun t ht => ?_
  exact (scanDirective_scans (ht ▸ h) (ht ▸ hpercent)).bind fun ⟨token, cur⟩ hcur => .ok hcur

theorem pushNext_within (h : s.cursor.Within cs) (kind : Token.Kind) (width : Nat) :
    (s.pushNext kind width).cursor.Within cs := h.forwardBy width

theorem documentMark_advances (h : s.cursor.Within cs) (kind : Token.Kind) : Advances cs (s.documentMark kind) :=
  (closeBlocks_stays s).bind fun _ ht => .ok (pushNext_within (ht ▸ h) _ _)

theorem flowStart_advances (h : s.cursor.Within cs) (kind : Token.Kind) : Advances cs (s.flowStart kind) :=
  s.markCandidate_stays.bind fun _ ht => .ok ((ht ▸ h).forwardBy 1)

theorem flowEnd_advances (h : s.cursor.Within cs) (kind : Token.Kind) : Advances cs (s.flowEnd kind) :=
  s.dropCandidate_stays.bind fun _ ht => .ok ((ht ▸ h).forwardBy 1)

theorem flowEntry_advances (h : s.cursor.Within cs) : Advances cs s.flowEntry :=
  (dropCandidate_stays _).bind fun _ ht => .ok ((ht ▸ h).forwardBy 1)

theorem blockEntry_advances (h : s.cursor.Within cs) : Advances cs s.blockEntry := by
  unfold blockEntry
  split
  · exact .place
  · exact (dropCandidate_stays _).bind fun _ ht => .ok (pushNext_within (ht.trans (cursor_opened s _) ▸ h) _ _)

theorem key_advances (h : s.cursor.Within cs) : Advances cs s.key := by
  unfold key
  split
  · exact .place
  · exact (dropCandidate_stays _).bind fun _ ht => .ok (pushNext_within (ht.trans (cursor_opened s _) ▸ h) _ _)

theorem value_advances (h : s.cursor.Within cs) : Advances cs s.value := by
  unfold value
  split
  · exact .ok (pushNext_within (cursor_promote s _ ▸ h) _ _)
  split
  · exact .place
  · exact (dropCandidate_stays _).bind fun _ ht => .ok (pushNext_within (ht.trans (cursor_opened s _) ▸ h) _ _)

theorem property_advances {scan : Cursor → Except Fault (Token × Cursor)} (hscan : Scans cs (scan s.cursor)) :
    Advances cs (s.property scan) := by
  refine s.markCandidate_stays.bind fun t ht => ?_
  rw [ht]
  exact hscan.bind fun ⟨token, cur⟩ hcur => .ok hcur

theorem blockScalar_advances (h : s.cursor.Within cs) (folded : Bool) : Advances cs (s.blockScalar folded) := by
  refine (dropCandidate_stays _).bind fun t ht => ?_
  exact (scanBlockScalar_scans (ht ▸ h)).bind fun ⟨token, cur⟩ hcur => .ok hcur

theorem plain_advances (h : s.cursor.Within cs) : Advances cs s.plain := by
  refine s.markCandidate_stays.bind fun t ht => ?_
  exact .ok (scanPlain_within (ht ▸ h))

/-- The faults of one more token are explained by the text. -/
theorem fetch_advances (h : s.cursor.Within cs) : Advances cs s.fetch := by
  unfold fetch
  extract_lets start
  refine Stays.bind (dropStale_stays _) fun t ht => ?_
  extract_lets u c alone
  have hu : u.cursor.Within cs := by
    rw [cursor_closeBlocks, ht]
    exact skipToToken_within (skipOrderMark_within h) _
  clear_value u
  refine .ite (fun _ => streamEnd_advances hu) fun _ => ?_
  refine .ite (fun h => directive_advances hu (eq_of_beq (Bool.and_eq_true_iff.1 h).1)) fun _ => ?_
  iterate 2 refine .ite (fun _ => documentMark_advances hu _) fun _ => ?_
  iterate 2 refine .ite (fun _ => flowStart_advances hu _) fun _ => ?_
  iterate 2 refine .ite (fun _ => flowEnd_advances hu _) fun _ => ?_
  refine .ite (fun _ => flowEntry_advances hu) fun _ => ?_
  refine .ite (fun _ => blockEntry_advances hu) fun _ => ?_
  refine .ite (fun _ => key_advances hu) fun _ => ?_
  refine .ite (fun _ => value_advances hu) fun _ => ?_
  iterate 2 refine .ite (fun _ => property_advances (scanAnchor_scans hu)) fun _ => ?_
  refine .ite (fun _ => property_advances (scanTag_scans hu)) fun _ => ?_
  iterate 2 refine .ite (fun _ => blockScalar_advances hu _) fun _ => ?_
  iterate 2 refine .ite (fun _ => property_advances (scanQuoted_scans hu)) fun _ => ?_
  exact .ite (fun _ => plain_advances hu) fun _ => .place

/-- One more token is fetched, and none leaves the queue. -/
theorem fetched_ends (h : s.cursor.Within cs) :
    Ends (LexicalCause cs) (fun r => r.2.cursor.Within cs) (s.fetch.map ((none : Option Token), ·)) := by
  exact (fetch_advances h).map fun _ ht => ht

theorem step_ends (h : s.cursor.Within cs) : Ends (LexicalCause cs) (fun r => r.2.cursor.Within cs) s.step := by
  unfold step
  split
  · exact fetched_ends h
  extract_lets leave
  split
  · exact .ok h
  · refine Stays.bind (dropStale_stays _) fun t ht => ?_
    split
    · exact fetched_ends (ht ▸ h)
    · exact .ok (ht ▸ h)

theorem run_fault (fuel : Nat) {s : Lexer} (h : s.cursor.Within cs) {f : ScalarFault}
    (hf : (s.run fuel).fault = some (.scalar f)) : LexicalCause cs f := by
  induction fuel generalizing s with
  | zero => cases hf
  | succ fuel ih =>
    unfold run at hf
    split at hf
    · cases hf
    have hstep := step_ends h
    split at hf
    · rename_i e he
      cases hf
      exact hstep.of_eq_scalar he
    · rename_i t ht
      exact ih (hstep.of_eq_ok ht) hf
    · rename_i token t ht
      exact ih (hstep.of_eq_ok ht) hf

end

end Lexer

/-- The fault of the tokens of a text is at a place, or the text explains it. -/
theorem tokens_fault {cs : List Char} {f : ScalarFault} (h : (tokens cs).fault = some (.scalar f)) :
    LexicalCause cs f := Lexer.run_fault (s := .start cs) _ (List.suffix_refl cs) h

end BlockNotebook.Yaml
