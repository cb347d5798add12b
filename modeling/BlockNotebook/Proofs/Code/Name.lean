import BlockNotebook.Proofs.Code.Reading
import BlockNotebook.Proofs.Number.Reading
/-!
Variable names, as one pass over the author's name makes them.

A name is made in three steps over the whole text: runs of blanks are joined, characters that no
identifier holds are dropped, and then those at the head that cannot start one. `Pass` does it in
one, from the first code point to the last, and has to know only what it has written and whether a
blank stands just before. What it has written and what the three steps would keep of the rest are
together the same at every point (`Pass.step_kept`), so it ends with the same name.
-/

namespace BlockNotebook.Code

open Text

/-! ## One pass over a name -/

/-- How far a pass over an author's name has come. -/
structure Pass where
  written : List Char
  /-- A blank stands just before. -/
  inBlanks : Bool
  deriving DecidableEq, Repr

namespace Pass

def start : Pass := ⟨[], false⟩

/-- The next code point. Letters and low lines are written, digits only behind something, and one low
line for a run of blanks, where the run begins. All else is dropped. -/
def step (p : Pass) : CodePoint → Pass
  | .char c =>
    if isBlank c then ⟨if p.inBlanks then p.written else p.written ++ ['_'], true⟩
    else if isAsciiLetter c || c == '_' || (isAsciiDigit c && !p.written.isEmpty) then ⟨p.written ++ [c], false⟩
    else ⟨p.written, false⟩
  | .surrogate _ => ⟨p.written, false⟩

def run (p : Pass) (name : Text) : Pass := name.foldl step p

/-- What the three steps would keep of the characters that are still to come. -/
def kept (p : Pass) (cs : List Char) : List Char :=
  let rest := (joinBlanks p.inBlanks cs).filter isNameChar
  if p.written.isEmpty then rest.dropWhile (!startsName ·) else rest

theorem kept_nil (p : Pass) : p.kept [] = [] := by
  simp [kept, joinBlanks]

/-- A code point moves from what is still to be kept to what is written, or is in neither. -/
theorem step_kept (p : Pass) (c : CodePoint) (cs : List Char) :
    (p.step c).written ++ (p.step c).kept cs = p.written ++ p.kept (c.character :: cs) := by
  obtain ⟨written, inBlanks⟩ := p
  cases c with
  | surrogate n =>
    have hblank : isBlank '\uFFFD' = false := by decide
    have hname : isNameChar '\uFFFD' = false := by decide
    simp [step, kept, joinBlanks, CodePoint.character, hblank, hname]
  | char c =>
    by_cases hblank : isBlank c = true
    · have hline : startsName '_' = true := by decide
      cases inBlanks with
      | true => simp [step, kept, joinBlanks, CodePoint.character, hblank]
      | false => simp [step, kept, joinBlanks, CodePoint.character, hblank, hline, isNameChar]
    · by_cases hstart : startsName c = true
      · have hstep : (isAsciiLetter c || c == '_') = true := hstart
        simp [step, kept, joinBlanks, CodePoint.character, hblank, hstart, hstep, isNameChar]
      · have hstep : (isAsciiLetter c || c == '_') = false := Bool.eq_false_iff.2 hstart
        by_cases hdigit : isAsciiDigit c = true
        · -- a digit is kept behind something, and cut off at the head
          cases written <;>
            simp [step, kept, joinBlanks, CodePoint.character, hblank, hstart, hstep, hdigit, isNameChar]
        · simp [step, kept, joinBlanks, CodePoint.character, hblank, hstart, hstep, hdigit, isNameChar]

theorem run_written (p : Pass) (name : Text) : (p.run name).written = p.written ++ p.kept name.characters := by
  induction name generalizing p with
  | nil => rw [characters, List.map_nil, kept_nil, List.append_nil]; rfl
  | cons c rest ih => exact (ih (p.step c)).trans (step_kept p c (characters rest))

end Pass

/-- What one pass makes of an author's name. -/
def onePass (name : Text) : List Char := (Pass.start.run name).written

theorem identifierPart_eq_onePass (name : Text) : identifierPart name.characters = onePass name :=
  (Pass.run_written Pass.start name).symm

theorem variableName_eq (name : Text) (keepEmpty : Bool) :
    variableName name keepEmpty =
      if onePass name = [] ∧ keepEmpty = false then emptyName else String.ofList (onePass name) := by
  rw [variableName, identifierPart_eq_onePass]
  cases honePass : onePass name with
  | nil => cases keepEmpty <;> rfl
  | cons c rest => simp

/-! ## Identifiers stay -/

theorem toNat_lt_of_isNameChar {c : Char} (h : isNameChar c) : c.toNat < 128 := by
  simp only [isNameChar, startsName, isAsciiLetter, Bool.or_eq_true, Bool.and_eq_true, decide_eq_true_eq,
    beq_iff_eq] at h
  rcases h with (((h | h) | rfl) | h)
  · have hle : c.toNat ≤ 122 := h.2
    omega
  · have hle : c.toNat ≤ 90 := h.2
    omega
  · decide
  · exact Number.toNat_lt_of_isAsciiDigit h

theorem not_isBlank_of_isNameChar {c : Char} (h : isNameChar c) : isBlank c = false := by
  have hall : ∀ n < 128, isNameChar (Char.ofNat n) → isBlank (Char.ofNat n) = false := by decide +kernel
  exact Number.forall_ascii (p := fun c => isNameChar c → isBlank c = false) hall (toNat_lt_of_isNameChar h) h

theorem joinBlanks_of_names {cs : List Char} (h : ∀ c ∈ cs, isNameChar c) (after : Bool) :
    joinBlanks after cs = cs := by
  induction cs generalizing after with
  | nil => rfl
  | cons c cs ih =>
    obtain ⟨hc, hcs⟩ := List.forall_mem_cons.1 h
    simp [joinBlanks, not_isBlank_of_isNameChar hc, ih hcs]

theorem exists_nameChars {t : Text} (h : ∀ p ∈ t, isNamePoint p) :
    ∃ cs, t = ofChars cs ∧ ∀ c ∈ cs, isNameChar c := by
  induction t with
  | nil => exact ⟨[], rfl, nofun⟩
  | cons p t ih =>
    obtain ⟨hp, ht⟩ := List.forall_mem_cons.1 h
    obtain ⟨cs, rfl, hcs⟩ := ih ht
    cases p with
    | char c => exact ⟨c :: cs, rfl, List.forall_mem_cons.2 ⟨hp, hcs⟩⟩
    | surrogate n => cases hp

/-- Nothing is cut off an identifier. -/
theorem Identifier.identifierPart_eq {t : Text} (h : Identifier t) : ofChars (identifierPart t.characters) = t := by
  obtain ⟨cs, rfl, hcs⟩ := exists_nameChars h.holds
  obtain ⟨c, rest, hhead, hstart⟩ := h.starts
  cases cs with
  | nil => cases hhead
  | cons d ds =>
    obtain rfl : d = c := CodePoint.char.inj (List.cons.inj hhead).1
    have hfilter : (d :: ds).filter isNameChar = d :: ds := List.filter_eq_self.2 hcs
    rw [characters_ofChars, identifierPart, joinBlanks_of_names hcs, hfilter,
      List.dropWhile_cons_of_neg (by simpa using hstart)]

theorem Identifier.ne_nil {t : Text} (h : Identifier t) : t ≠ [] := by
  obtain ⟨c, rest, rfl, -⟩ := h.starts
  simp

/-- What a name becomes is an identifier, or nothing where nothing may be left. -/
theorem variableName_identifier (name : Text) (keepEmpty : Bool) :
    Identifier (variableName name keepEmpty) ∨ (variableName name keepEmpty = "" ∧ keepEmpty = true) := by
  cases keepEmpty with
  | false => exact .inl (nameOf_identifier name)
  | true =>
    rw [variableName]
    cases hpart : identifierPart name.characters with
    | nil => exact .inr ⟨rfl, rfl⟩
    | cons c rest =>
      left
      simp only [Text.ofString, String.toList_ofList]
      rw [← hpart]
      exact identifierPart_identifier (by simp [hpart])

/-- The names that stay as they are. -/
theorem variableName_eq_self_iff (t : Text) (keepEmpty : Bool) :
    Text.ofString (variableName t keepEmpty) = t ↔ Identifier t ∨ (t = [] ∧ keepEmpty = true) := by
  constructor
  · intro h
    rcases variableName_identifier t keepEmpty with hname | ⟨hempty, hkeep⟩
    · rw [h] at hname
      exact .inl hname
    · rw [hempty] at h
      exact .inr ⟨h.symm, hkeep⟩
  · rintro (h | ⟨rfl, rfl⟩)
    · have hpart := h.identifierPart_eq
      rw [variableName]
      cases hcs : identifierPart t.characters with
      | nil =>
        rw [hcs] at hpart
        exact absurd hpart.symm h.ne_nil
      | cons c rest =>
        rw [hcs] at hpart
        simp only [Text.ofString, String.toList_ofList]
        exact hpart
    · rfl

/-- A variable name is made by one pass over the author's name. So it is an identifier, or empty where
that is allowed; identifiers stay as they are, with the empty name where that is allowed and no other;
and a name that is made once is not changed when it is made again. -/
theorem variableName_onePass :
    (∀ name, variableName name true = String.ofList (onePass name)) ∧
    (∀ name, variableName name true = "" ∨ Identifier (variableName name true)) ∧
    (∀ (t : Text) keepEmpty, Text.ofString (variableName t keepEmpty) = t ↔
      Identifier t ∨ (t = [] ∧ keepEmpty = true)) ∧
    (∀ name keepEmpty, variableName (variableName name keepEmpty) keepEmpty = variableName name keepEmpty) := by
  refine ⟨?_, ?_, variableName_eq_self_iff, ?_⟩
  · intro name
    rw [variableName_eq]
    simp
  · intro name
    rcases variableName_identifier name true with h | ⟨h, -⟩
    · exact .inr h
    · exact .inl h
  · intro name keepEmpty
    apply Text.ofString_inj.1
    rw [variableName_eq_self_iff]
    rcases variableName_identifier name keepEmpty with h | ⟨h, hkeep⟩
    · exact .inl h
    · exact .inr ⟨by rw [h]; rfl, hkeep⟩

-- A blank at the head saves a digit, and a dropped character parts two runs of blanks.
example : onePass (Text.ofString " 9\t - x.") = "_9__x".toList := by decide +kernel

end BlockNotebook.Code
