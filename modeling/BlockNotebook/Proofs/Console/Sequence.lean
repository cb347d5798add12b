import BlockNotebook.Console.Sequence
import BlockNotebook.Proofs.Text.Split
/-!
What is left of a text without the sequences that steer a terminal.

`Strips` says it without the count of characters to pass over: a sequence goes,
all else stays. What is left is the text itself exactly if no sequence is in it.
No sequence holds a line feed or a surrogate, so each line is stripped on its own
and surrogates stay.
-/

namespace BlockNotebook.Console

/-- What follows the escape character of a sequence: a bracket, parameters and a letter. -/
inductive IsSequence : Text → Prop
  | mk {parameters : Text} {letter : CodePoint} (hparameters : ∀ c ∈ parameters, c.satisfies isParameter)
      (hletter : letter.satisfies Char.isAlpha) : IsSequence (.char '[' :: (parameters ++ [letter]))

/-- A sequence is in the text. -/
def Steers (t : Text) : Prop := ∃ before s rest, IsSequence s ∧ t = before ++ .char '\x1b' :: (s ++ rest)

/-- The first text without its sequences is the second one. -/
inductive Strips : Text → Text → Prop
  | nil : Strips [] []
  | sequence {s t u : Text} (hs : IsSequence s) (h : Strips t u) : Strips (.char '\x1b' :: (s ++ t)) u
  | stays {c : CodePoint} {t u : Text} (hc : c = '\x1b' → ∀ s rest, t = s ++ rest → ¬ IsSequence s) (h : Strips t u) :
      Strips (c :: t) (c :: u)

/-! ## Sequences -/

theorem not_isParameter_of_isAlpha {c : CodePoint} (h : c.satisfies Char.isAlpha) :
    ¬ c.satisfies isParameter = true := by
  cases c with
  | surrogate n => cases h
  | char c =>
    intro hparameter
    have hletter : (decide ('A'.val ≤ c.val ∧ c.val ≤ 'Z'.val) || (decide ('a'.val ≤ c.val) && decide (c.val ≤ 'z'.val))) =
      true := h
    simp only [CodePoint.satisfies, isParameter, Char.le_def, Bool.or_eq_true, Bool.and_eq_true, decide_eq_true_eq,
      beq_iff_eq, UInt32.le_iff_toNat_le] at hletter hparameter
    have h0 : '0'.val.toNat = 48 := rfl
    have h9 : '9'.val.toNat = 57 := rfl
    have hA : 'A'.val.toNat = 65 := rfl
    have hZ : 'Z'.val.toNat = 90 := rfl
    have ha : 'a'.val.toNat = 97 := rfl
    have hz : 'z'.val.toNat = 122 := rfl
    rcases hparameter with (rfl | rfl) | hdigit
    · exact absurd h (by decide)
    · exact absurd h (by decide)
    · omega

theorem sequenceLength?_append {s : Text} (h : IsSequence s) (rest : Text) :
    sequenceLength? (s ++ rest) = some s.length := by
  obtain ⟨hparameters, hletter⟩ := h
  rename_i parameters letter
  have hstop := not_isParameter_of_isAlpha hletter
  have htake : ((parameters ++ [letter]) ++ rest).takeWhile (·.satisfies isParameter) = parameters := by
    rw [List.append_assoc, List.takeWhile_append_of_pos hparameters]
    simp [hstop]
  rw [List.cons_append, sequenceLength?, htake]
  simp [hletter]

theorem exists_isSequence {t : Text} {n : Nat} (h : sequenceLength? t = some n) :
    ∃ s rest, IsSequence s ∧ t = s ++ rest ∧ n = s.length := by
  unfold sequenceLength? at h
  split at h
  · rename_i rest
    dsimp only at h
    rw [Text.drop_length_takeWhile] at h
    have hrest := List.takeWhile_append_dropWhile (p := (·.satisfies isParameter)) (l := rest)
    have hparameters : ∀ c ∈ rest.takeWhile (·.satisfies isParameter), c.satisfies isParameter := by
      intro c hc
      exact List.all_eq_true.1 List.all_takeWhile c hc
    cases hdrop : rest.dropWhile (·.satisfies isParameter) with
    | nil =>
      rw [hdrop] at h
      cases h
    | cons letter after =>
      rw [hdrop] at h hrest
      dsimp only at h
      split at h
      · rename_i hletter
        cases h
        refine ⟨_, after, .mk hparameters hletter, ?_, ?_⟩
        · simp only [List.cons_append, List.append_assoc, List.nil_append]
          rw [hrest]
        · simp
      · cases h
  · cases h

/-- A character that a sequence may have in it. -/
def isSequenceChar (c : Char) : Bool := c == '[' || isParameter c || c.isAlpha

theorem satisfies_mono {p q : Char → Bool} (h : ∀ c, p c = true → q c = true) {c : CodePoint} (hc : c.satisfies p) :
    c.satisfies q := by
  cases c with
  | char c => exact h c hc
  | surrogate n => cases hc

theorem IsSequence.satisfies {s : Text} (h : IsSequence s) {c : CodePoint} (hc : c ∈ s) : c.satisfies isSequenceChar := by
  obtain ⟨hparameters, hletter⟩ := h
  rcases List.mem_cons.1 hc with rfl | hc
  · rfl
  · rcases List.mem_append.1 hc with hc | hc
    · apply satisfies_mono _ (hparameters c hc)
      intro c h
      simp [isSequenceChar, h]
    · rw [List.mem_singleton.1 hc]
      apply satisfies_mono _ hletter
      intro c h
      simp [isSequenceChar, h]

theorem IsSequence.newline_not_mem {s : Text} (h : IsSequence s) : .char '\n' ∉ s := by
  intro hmem
  exact absurd (h.satisfies hmem) (by decide)

theorem IsSequence.isSurrogate {s : Text} (h : IsSequence s) {c : CodePoint} (hc : c ∈ s) : c.isSurrogate = false := by
  have hsatisfies := h.satisfies hc
  cases c with
  | char c => rfl
  | surrogate n => cases hsatisfies

/-! ## What stays -/

theorem dropSequences_append (s t : Text) : dropSequences s.length (s ++ t) = withoutSequences t := by
  induction s with
  | nil => rfl
  | cons c s ih => exact ih

theorem withoutSequences_sequence {s : Text} (h : IsSequence s) (t : Text) :
    withoutSequences (.char '\x1b' :: (s ++ t)) = withoutSequences t := by
  rw [withoutSequences, dropSequences, if_pos (beq_self_eq_true _), sequenceLength?_append h]
  exact dropSequences_append s t

theorem withoutSequences_stays {c : CodePoint} {t : Text} (h : c = '\x1b' → ∀ s rest, t = s ++ rest → ¬ IsSequence s) :
    withoutSequences (c :: t) = c :: withoutSequences t := by
  have hnone : (if c == .char '\x1b' then sequenceLength? t else none) = none := by
    by_cases hc : c = .char '\x1b'
    · rw [if_pos (beq_iff_eq.2 hc)]
      cases hlength : sequenceLength? t with
      | none => rfl
      | some n =>
        obtain ⟨s, rest, hs, ht, -⟩ := exists_isSequence hlength
        exact absurd hs (h hc s rest ht)
    · rw [if_neg (by simpa using hc)]
  rw [withoutSequences, dropSequences, hnone]
  rfl

/-- There is only one text that another is stripped to. -/
theorem Strips.eq {t u : Text} (h : Strips t u) : withoutSequences t = u := by
  induction h with
  | nil => rfl
  | sequence hs _ ih => rw [withoutSequences_sequence hs, ih]
  | stays hc _ ih => rw [withoutSequences_stays hc, ih]

theorem strips_withoutSequences (t : Text) : Strips t (withoutSequences t) := by
  -- by the length of the text, as a whole sequence may go at once
  induction hlength : t.length using Nat.strongRecOn generalizing t with
  | ind n ih =>
    cases t with
    | nil => exact .nil
    | cons c t =>
      rw [List.length_cons] at hlength
      by_cases hsequence : c = '\x1b' ∧ ∃ s rest, t = s ++ rest ∧ IsSequence s
      · obtain ⟨rfl, s, rest, rfl, hs⟩ := hsequence
        rw [withoutSequences_sequence hs]
        rw [List.length_append] at hlength
        exact .sequence hs (ih rest.length (by omega) rest rfl)
      · have hc : c = '\x1b' → ∀ s rest, t = s ++ rest → ¬ IsSequence s := by
          intro hc s rest ht hs
          exact hsequence ⟨hc, s, rest, ht, hs⟩
        rw [withoutSequences_stays hc]
        exact .stays hc (ih t.length (by omega) t rfl)

theorem steers_cons {c : CodePoint} {t : Text} (h : c = '\x1b' → ∀ s rest, t = s ++ rest → ¬ IsSequence s) :
    Steers (c :: t) ↔ Steers t := by
  constructor
  · rintro ⟨before, s, rest, hs, ht⟩
    cases before with
    | nil =>
      obtain ⟨rfl, rfl⟩ := List.cons.inj ht
      exact absurd hs (h rfl s rest rfl)
    | cons d before => exact ⟨before, s, rest, hs, (List.cons.inj ht).2⟩
  · rintro ⟨before, s, rest, hs, rfl⟩
    exact ⟨c :: before, s, rest, hs, rfl⟩

theorem Strips.length_le {t u : Text} (h : Strips t u) : u.length ≤ t.length := by
  induction h with
  | nil => exact Nat.le_refl _
  | sequence _ _ ih =>
    simp only [List.length_cons, List.length_append]
    omega
  | stays _ _ ih => exact Nat.succ_le_succ ih

/-- The text stays as it is exactly if no sequence is in it. -/
theorem withoutSequences_eq_self {t : Text} : withoutSequences t = t ↔ ¬ Steers t := by
  have h := strips_withoutSequences t
  generalize withoutSequences t = u at h
  induction h with
  | nil =>
    apply iff_of_true rfl
    rintro ⟨before, s, rest, -, ht⟩
    cases before <;> cases ht
  | @sequence s t u hs h ih =>
    apply iff_of_false
    · intro heq
      have hle := h.length_le
      rw [heq] at hle
      simp only [List.length_cons, List.length_append] at hle
      omega
    · intro hnot
      exact hnot ⟨[], s, t, hs, rfl⟩
  | stays hc _ ih =>
    rw [steers_cons hc, List.cons.injEq]
    exact (and_iff_right rfl).trans ih

/-- Sequences have no surrogates, so all of them stay. -/
theorem isSurrogate_withoutSequences {t : Text} :
    (∀ c ∈ withoutSequences t, c.isSurrogate = false) ↔ ∀ c ∈ t, c.isSurrogate = false := by
  have h := strips_withoutSequences t
  generalize withoutSequences t = u at h
  induction h with
  | nil => exact Iff.rfl
  | sequence hs _ ih =>
    rw [List.forall_mem_cons, List.forall_mem_append]
    refine ih.trans ?_
    constructor
    · intro h
      exact ⟨rfl, fun _ => hs.isSurrogate, h⟩
    · rintro ⟨-, -, h⟩
      exact h
  | stays _ _ ih =>
    rw [List.forall_mem_cons, List.forall_mem_cons]
    exact and_congr_right fun _ => ih

/-- No sequence runs on past the end of its line. -/
theorem Strips.append {t u rest rest' : Text} (h : Strips t u) (hrest : Strips rest rest') :
    Strips (t ++ .char '\n' :: rest) (u ++ .char '\n' :: rest') := by
  induction h with
  | nil => exact .stays nofun hrest
  | sequence hs _ ih =>
    rw [List.cons_append, List.append_assoc]
    exact .sequence hs ih
  | stays hc _ ih =>
    refine .stays ?_ ih
    intro hescape s after heq hs
    -- the sequence either runs on past the first part, and then over the line feed, or lies in it
    rcases List.append_eq_append_iff.1 heq with ⟨more, rfl, hmore⟩ | ⟨more, ht, -⟩
    · cases more with
      | nil =>
        rw [List.append_nil] at hs
        exact hc hescape _ [] (List.append_nil _).symm hs
      | cons d more =>
        rw [List.cons_append] at hmore
        obtain ⟨rfl, -⟩ := List.cons.inj hmore
        exact hs.newline_not_mem (List.mem_append_right _ List.mem_cons_self)
    · exact hc hescape s more ht hs

theorem withoutSequences_lines (a b : Text) :
    withoutSequences (a ++ .char '\n' :: b) = withoutSequences a ++ .char '\n' :: withoutSequences b :=
  ((strips_withoutSequences a).append (strips_withoutSequences b)).eq

theorem withoutSequences_joinWith (parts : List Text) :
    withoutSequences (Text.joinWith "\n" parts) = Text.joinWith "\n" (parts.map withoutSequences) := by
  induction parts with
  | nil => rfl
  | cons part parts ih =>
    cases parts with
    | nil => rfl
    | cons next parts =>
      have hline (a b : Text) : a ++ Text.ofString "\n" ++ b = a ++ .char '\n' :: b := List.append_assoc _ _ _
      rw [Text.joinWith_cons_cons, hline, withoutSequences_lines, ih]
      exact (hline _ _).symm

theorem withoutSequences_append {a : Text} (h : .char '\x1b' ∉ a) (b : Text) :
    withoutSequences (a ++ b) = a ++ withoutSequences b := by
  induction a with
  | nil => rfl
  | cons c a ih =>
    obtain ⟨hc, ha⟩ := List.ne_and_not_mem_of_not_mem_cons h
    rw [List.cons_append, withoutSequences_stays fun heq => absurd heq.symm hc, ih ha, List.cons_append]

end BlockNotebook.Console
