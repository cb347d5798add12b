import BlockNotebook.Proofs.Code.Name
/-!
The check for an identifier, beside the cut that makes one.

A text is an identifier exactly if it is not empty and the cut leaves it as it is (`stays_iff`). The check
looks at the end of the text less closely than the cut does: behind an identifier it lets a line feed
stand, which the cut turns into a low line.
-/
namespace BlockNotebook.Code

open Text

/-! ## Identifiers, code point by code point -/

theorem isNamePoint_eq (p : CodePoint) : isNamePoint p = isNameChar p.character := by
  cases p with
  | char c => rfl
  | surrogate n => exact (show isNameChar '\uFFFD' = false by decide).symm

theorem character_eq_lineFeed {p : CodePoint} : p.character = '\n' ↔ p = .char '\n' := by
  cases p with
  | char c => simp [CodePoint.character]
  | surrogate n => simp [CodePoint.character]

theorem identifier_cons_iff {p : CodePoint} {ps : Text} :
    Identifier (p :: ps) ↔ startsName p.character ∧ ps.dropWhile isNamePoint = [] := by
  rw [List.dropWhile_eq_nil_iff]
  constructor
  · rintro ⟨⟨c, rest, hcons, hc⟩, hholds⟩
    obtain ⟨rfl, rfl⟩ := List.cons.inj hcons
    exact ⟨hc, fun q hq => hholds q (List.mem_cons_of_mem _ hq)⟩
  · rintro ⟨hstart, hps⟩
    have hp : isNamePoint p := by rw [isNamePoint_eq, isNameChar, hstart, Bool.true_or]
    cases p with
    | surrogate n => cases hp
    | char c => exact ⟨⟨c, ps, rfl, hstart⟩, List.forall_mem_cons.2 ⟨hp, hps⟩⟩

theorem dropWhile_isNameChar (ps : Text) :
    (ps.map CodePoint.character).dropWhile isNameChar = (ps.dropWhile isNamePoint).map CodePoint.character := by
  rw [List.dropWhile_map]
  congr 2
  exact funext fun p => (isNamePoint_eq p).symm

/-! ## The check and the cut -/

/-- The check takes identifiers, also those with a line feed behind them. -/
theorem isIdentifier_iff (t : Text) :
    isIdentifier t = true ↔ Identifier t ∨ ∃ name, Identifier name ∧ t = name ++ [.char '\n'] := by
  cases t with
  | nil =>
    refine ⟨nofun, ?_⟩
    rintro (h | ⟨name, -, h⟩)
    · exact absurd rfl h.ne_nil
    · simp at h
  | cons p ps =>
    have hcheck : isIdentifier (p :: ps) = true ↔
        startsName p.character ∧ (ps.dropWhile isNamePoint = [] ∨ ps.dropWhile isNamePoint = [.char '\n']) := by
      simp only [isIdentifier, characters, List.map_cons, dropWhile_isNameChar, Bool.and_eq_true, Bool.or_eq_true,
        beq_iff_eq, List.map_eq_nil_iff, List.map_eq_singleton_iff, character_eq_lineFeed, exists_eq_right]
    rw [hcheck, identifier_cons_iff, and_or_left]
    refine or_congr_right ⟨?_, ?_⟩
    · rintro ⟨hstart, hps⟩
      refine ⟨p :: ps.takeWhile isNamePoint, identifier_cons_iff.2 ⟨hstart, ?_⟩, ?_⟩
      · rw [List.dropWhile_eq_nil_iff]
        exact fun q hq => List.mem_takeWhile_imp hq
      · rw [List.cons_append, ← hps, List.takeWhile_append_dropWhile]
    · rintro ⟨name, hname, heq⟩
      cases name with
      | nil => exact absurd rfl hname.ne_nil
      | cons q qs =>
        obtain ⟨rfl, rfl⟩ := List.cons.inj heq
        obtain ⟨hstart, hqs⟩ := identifier_cons_iff.1 hname
        refine ⟨hstart, ?_⟩
        exact (List.dropWhile_append_of_pos (List.dropWhile_eq_nil_iff.1 hqs)).trans rfl

/-- The name is not empty and stays as it is when it is cut down to an identifier. -/
def Stays (name : Text) : Prop := name ≠ [] ∧ Text.ofString (variableName name true) = name

theorem stays_iff (name : Text) : Stays name ↔ Identifier name := by
  rw [Stays, variableName_eq_self_iff]
  constructor
  · rintro ⟨hne, h | ⟨h, -⟩⟩
    · exact h
    · exact absurd h hne
  · exact fun h => ⟨h.ne_nil, .inl h⟩

/-- The check takes the names that stay as they are, and each of them with a line feed behind it as well.
So the check and the cut agree about a text unless it is such a name with a line feed behind it. -/
theorem isIdentifier_agrees_iff (t : Text) :
    (isIdentifier t = true ↔ Stays t ∨ ∃ name, Stays name ∧ t = name ++ [.char '\n']) ∧
    ((isIdentifier t = true ↔ Stays t) ↔ ¬ ∃ name, Stays name ∧ t = name ++ [.char '\n']) := by
  simp only [stays_iff]
  refine ⟨isIdentifier_iff t, ?_⟩
  rw [isIdentifier_iff]
  refine ⟨fun hagree hline => ?_, fun hline => or_iff_left hline⟩
  obtain ⟨name, hname, rfl⟩ := hline
  have hholds := (hagree.1 (.inr ⟨name, hname, rfl⟩)).holds (.char '\n') (by simp)
  exact absurd hholds (by decide)

-- The line feed is taken behind a name, and nowhere else.
example : isIdentifier "a\n" = true ∧ Text.ofString (variableName "a\n" true) = "a_" ∧ isIdentifier "a\n\n" = false := by
  decide +kernel

end BlockNotebook.Code
