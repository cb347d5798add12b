import BlockNotebook.Console.Message
import BlockNotebook.Proofs.Success
import BlockNotebook.Proofs.Text.Split
/-!
Escaped text is no markup.

A bracket that opens a tag gets an odd count of backslashes, and one that opens none
opens none when the text is written into a message either, as long as the message does
not close it: the next bracket of the message has to open.
-/

namespace BlockNotebook.Console.Markup

open Text

/-! ## Tags -/

def isBracket (c : CodePoint) : Bool := c == '[' || c == ']'

/-- What can stand in the brackets of a tag. -/
inductive IsInside : Text → Prop
  | mk {c : CodePoint} {more : Text} (hc : c.satisfies startsTag) (hmore : ∀ d ∈ more, isBracket d = false) :
      IsInside (c :: more)

theorem isBracket_of_startsTag {c : CodePoint} (h : c.satisfies startsTag) : isBracket c = false := by
  cases hc : isBracket c with
  | false => rfl
  | true =>
    rw [isBracket, Bool.or_eq_true, beq_iff_eq, beq_iff_eq] at hc
    rcases hc with rfl | rfl <;> exact absurd h (by decide)

theorem IsInside.isBracket {inside : Text} (h : IsInside inside) : ∀ c ∈ inside, isBracket c = false := by
  obtain ⟨hc, hmore⟩ := h
  exact List.forall_mem_cons.2 ⟨isBracket_of_startsTag hc, hmore⟩

theorem tagInside?_eq_some {t inside : Text} :
    tagInside? t = some inside ↔ IsInside inside ∧ ∃ rest, t = inside ++ .char ']' :: rest := by
  constructor
  · intro h
    unfold tagInside? at h
    split at h
    · cases h
    · rename_i c rest
      split at h
      · rename_i hc
        dsimp only at h
        rw [drop_length_takeWhile] at h
        have hrest := List.takeWhile_append_dropWhile (p := fun c => c != .char '[' && c != .char ']') (l := rest)
        split at h
        · rename_i after hafter
          cases h
          refine ⟨.mk hc ?_, after, ?_⟩
          · intro d hd
            have hd := List.all_eq_true.1 List.all_takeWhile d hd
            simpa [isBracket, bne] using hd
          · rw [List.cons_append, ← hafter, hrest]
        · cases h
      · cases h
  · rintro ⟨⟨hc, hmore⟩, rest, rfl⟩
    rename_i c more
    have htake : (more ++ .char ']' :: rest).takeWhile (fun c => c != .char '[' && c != .char ']') = more := by
      rw [List.takeWhile_append_of_pos]
      · simp
      · intro d hd
        simpa [isBracket, bne] using hmore d hd
    rw [List.cons_append, tagInside?, if_pos hc, htake]
    simp

/-- A text goes on with a tag if its first bracket closes one that begins at once. -/
theorem isSome_tagInside? {t : Text} :
    (tagInside? t).isSome ↔ (∃ c ∈ t.head?, c.satisfies startsTag) ∧ t.find? isBracket = some (.char ']') := by
  constructor
  · intro h
    obtain ⟨inside, hinside⟩ := Option.isSome_iff_exists.1 h
    obtain ⟨hin, rest, rfl⟩ := tagInside?_eq_some.1 hinside
    -- there is no bracket inside, so the first one is that which closes
    have hnone : inside.find? isBracket = none := by
      rw [List.find?_eq_none]
      intro c hc
      simp [hin.isBracket c hc]
    obtain ⟨hc, -⟩ := hin
    exact ⟨⟨_, rfl, hc⟩, by rw [List.find?_append, hnone]; rfl⟩
  · rintro ⟨⟨c, hhead, hc⟩, hfind⟩
    cases t with
    | nil => cases hhead
    | cons d t =>
      cases hhead
      rw [List.find?_cons_of_neg (by simp [isBracket_of_startsTag hc])] at hfind
      obtain ⟨-, more, rest, rfl, hmore⟩ := List.find?_eq_some_iff_append.1 hfind
      rw [Option.isSome_iff_exists]
      refine ⟨c :: more, tagInside?_eq_some.2 ⟨.mk hc ?_, rest, rfl⟩⟩
      intro d hd
      simpa using hmore d hd

/-! ## What is read -/

/-- The tags among pieces. -/
def tagsOf (ps : List Piece) : List Text :=
  ps.filterMap fun
    | .tag inside _ => some inside
    | .text _ => none

/-- The tags of the rest of a text that follows backslashes, where a part may be read already. -/
def tagsFrom (slashes skip : Nat) (t : Text) : List Text := tagsOf (piecesFrom 0 slashes skip t)

theorem tagsOf_text (t : Text) (ps : List Piece) : tagsOf (.text t :: ps) = tagsOf ps := rfl

theorem tagsOf_tag (inside : Text) (position : Nat) (ps : List Piece) :
    tagsOf (.tag inside position :: ps) = inside :: tagsOf ps := rfl

theorem tagsOf_append (ps qs : List Piece) : tagsOf (ps ++ qs) = tagsOf ps ++ tagsOf qs := List.filterMap_append

theorem tagsOf_addText (t : Text) (ps : List Piece) : tagsOf (addText t ps) = tagsOf ps := by
  unfold addText
  split <;> rfl

theorem tagsOf_tagPieces (slashes : Nat) (inside : Text) (position : Nat) :
    tagsOf (tagPieces slashes inside position) = if slashes % 2 == 1 then [] else [inside] := by
  unfold tagPieces
  split <;> rfl

/-- Which tags there are does not depend on where they stand. -/
theorem tagsOf_piecesFrom (position slashes skip : Nat) (t : Text) :
    tagsOf (piecesFrom position slashes skip t) = tagsFrom slashes skip t := by
  induction t generalizing position slashes skip with
  | nil => rfl
  | cons c t ih =>
    cases skip with
    | succ skip =>
      rw [tagsFrom, piecesFrom, piecesFrom, ih, ih]
    | zero =>
      rw [tagsFrom, piecesFrom, piecesFrom]
      split
      · rw [ih, ih]
      · split
        · simp only [List.cons_append, tagsOf_text, tagsOf_append, tagsOf_tagPieces, ih]
        · rw [tagsOf_addText, tagsOf_addText, ih, ih]

theorem tagsFrom_nil (slashes skip : Nat) : tagsFrom slashes skip [] = [] := rfl

theorem tagsFrom_skip (slashes skip : Nat) (c : CodePoint) (t : Text) :
    tagsFrom slashes (skip + 1) (c :: t) = tagsFrom 0 skip t := by
  rw [tagsFrom, piecesFrom, tagsOf_piecesFrom]

theorem tagsFrom_backslash (slashes : Nat) (t : Text) :
    tagsFrom slashes 0 (.char '\\' :: t) = tagsFrom (slashes + 1) 0 t := by
  rw [tagsFrom, piecesFrom, if_pos (beq_self_eq_true _), tagsOf_piecesFrom]

theorem tagsFrom_backslashes (slashes n : Nat) (t : Text) :
    tagsFrom slashes 0 (backslashes n ++ t) = tagsFrom (slashes + n) 0 t := by
  induction n generalizing slashes with
  | zero => rfl
  | succ n ih =>
    rw [backslashes, List.replicate_succ, List.cons_append, tagsFrom_backslash, ← backslashes, ih]
    congr 1
    omega

theorem tagsFrom_plain (slashes : Nat) {c : CodePoint} {t : Text} (hc : c ≠ .char '\\') (h : tagAt? c t = none) :
    tagsFrom slashes 0 (c :: t) = tagsFrom 0 0 t := by
  rw [tagsFrom, piecesFrom, if_neg (by simpa using hc), h]
  dsimp only
  rw [tagsOf_addText, tagsOf_piecesFrom]

theorem tagsFrom_plains {a : Text} (h : ∀ c ∈ a, c ≠ .char '[' ∧ c ≠ .char '\\') (t : Text) :
    tagsFrom 0 0 (a ++ t) = tagsFrom 0 0 t := by
  induction a with
  | nil => rfl
  | cons c a ih =>
    obtain ⟨⟨hopen, hslash⟩, ha⟩ := List.forall_mem_cons.1 h
    rw [List.cons_append, tagsFrom_plain 0 hslash (if_neg (by simpa using hopen)), ih ha]

theorem tagsFrom_read (s t : Text) : tagsFrom 0 s.length (s ++ t) = tagsFrom 0 0 t := by
  induction s with
  | nil => rfl
  | cons c s ih =>
    rw [List.length_cons, List.cons_append, tagsFrom_skip]
    exact ih

theorem tagsFrom_tag (slashes : Nat) {inside t : Text} (h : tagInside? t = some inside) :
    tagsFrom slashes 0 (.char '[' :: t) =
      (if slashes % 2 == 1 then [] else [inside]) ++ tagsFrom 0 (inside.length + 1) t := by
  have hat : tagAt? (.char '[') t = some inside := h
  rw [tagsFrom, piecesFrom, if_neg (by decide), hat]
  simp only [List.cons_append, tagsOf_text, tagsOf_append, tagsOf_tagPieces, tagsOf_piecesFrom]

theorem tagsFrom_inside {inside : Text} (h : IsInside inside) (t : Text) :
    tagsFrom 0 0 (.char '[' :: (inside ++ .char ']' :: t)) = inside :: tagsFrom 0 0 t := by
  have hread := tagsFrom_read (inside ++ [.char ']']) t
  rw [List.length_append, List.append_assoc] at hread
  rw [tagsFrom_tag 0 (tagInside?_eq_some.2 ⟨h, t, rfl⟩)]
  exact congrArg (inside :: ·) hread

/-! ## What is written -/

/-- Escaping adds backslashes, and no brackets. -/
theorem find?_escapeFrom (slashes skip : Nat) (t : Text) :
    (escapeFrom slashes skip t).find? isBracket = t.find? isBracket := by
  have hbackslashes : ∀ n, (backslashes n).find? isBracket = none := by
    intro n
    rw [List.find?_eq_none]
    intro c hc
    rw [List.eq_of_mem_replicate hc]
    decide
  induction t generalizing slashes skip with
  | nil => exact hbackslashes slashes
  | cons c t ih =>
    cases skip with
    | succ skip => rw [escapeFrom, List.find?_cons, List.find?_cons, ih]
    | zero =>
      rw [escapeFrom]
      split
      · rename_i hc
        rw [ih, eq_of_beq hc]
        rfl
      · split <;> rw [List.find?_append, hbackslashes, Option.none_or, List.find?_cons, List.find?_cons, ih]

theorem escapeFrom_append (s t : Text) : escapeFrom 0 s.length (s ++ t) = s ++ escapeFrom 0 0 t := by
  induction s with
  | nil => rfl
  | cons c s ih => exact congrArg (c :: ·) ih

theorem head?_escapeFrom_succ (slashes : Nat) (t : Text) :
    (escapeFrom (slashes + 1) 0 t).head? = some (.char '\\') := by
  induction t generalizing slashes with
  | nil => rfl
  | cons c t ih =>
    rw [escapeFrom]
    split
    · exact ih (slashes + 1)
    · split <;> rfl

/-- A text that begins like a tag after it is escaped did so before. -/
theorem head?_of_escapeFrom {t : Text} {c : CodePoint} (h : c ∈ (escapeFrom 0 0 t).head?)
    (hc : c.satisfies startsTag) : c ∈ t.head? := by
  cases t with
  | nil => cases h
  | cons d t =>
    rw [escapeFrom] at h
    split at h
    · rw [head?_escapeFrom_succ] at h
      cases h
      exact absurd hc (by decide)
    · split at h
      · cases h
        exact absurd hc (by decide)
      · exact h

/-- The next bracket, if there is one, does not close. -/
def Sealed (t : Text) : Prop := t.find? isBracket ≠ some (.char ']')

theorem tagInside?_escapeFrom_append {t inside : Text} (h : tagInside? t = some inside) (rest : Text) :
    tagInside? (escapeFrom 0 (inside.length + 1) t ++ rest) = some inside ∧ inside.length + 1 ≤ t.length := by
  obtain ⟨hinside, after, rfl⟩ := tagInside?_eq_some.1 h
  have happend := escapeFrom_append (inside ++ [.char ']']) after
  simp only [List.length_append, List.length_cons, List.length_nil, Nat.zero_add, List.append_assoc,
    List.cons_append, List.nil_append] at happend
  constructor
  · rw [happend]
    apply tagInside?_eq_some.2
    refine ⟨hinside, escapeFrom 0 0 after ++ rest, ?_⟩
    simp
  · simp only [List.length_append, List.length_cons]
    omega

theorem tagInside?_escapeFrom_append_none {t rest : Text} (h : tagInside? t = none) (hsealed : Sealed rest) :
    tagInside? (escapeFrom 0 0 t ++ rest) = none := by
  rw [← Option.not_isSome_iff_eq_none, isSome_tagInside?] at h ⊢
  rintro ⟨⟨c, hhead, hc⟩, hfind⟩
  rw [List.find?_append, find?_escapeFrom] at hfind
  -- the first bracket is one of the text itself, if it has any, or else one of what follows
  cases hbracket : t.find? isBracket with
  | none =>
    rw [hbracket, Option.none_or] at hfind
    exact hsealed hfind
  | some d =>
    rw [hbracket, Option.some_or] at hfind
    have hne : escapeFrom 0 0 t ≠ [] := by
      intro hnil
      have hnone := find?_escapeFrom 0 0 t
      rw [hnil, hbracket] at hnone
      cases hnone
    rw [List.head?_append, List.head?_eq_some_head hne, Option.some_or, ← List.head?_eq_some_head hne] at hhead
    exact h ⟨⟨c, head?_of_escapeFrom hhead hc, hc⟩, hbracket.trans hfind⟩

/-- Escaped text has no tags, and does not change those of what follows it. -/
theorem tagsFrom_escapeFrom {rest : Text} {tags : List Text} (hsealed : Sealed rest)
    (hrest : ∀ slashes, tagsFrom slashes 0 rest = tags) (t : Text) (slashes : Nat) {skip : Nat} (hskip : skip ≤ t.length) :
    tagsFrom 0 skip (escapeFrom slashes skip t ++ rest) = tags := by
  -- `slashes` backslashes are still to be written, and `skip` code points belong to a tag that is text
  induction t generalizing slashes skip with
  | nil =>
    obtain rfl : skip = 0 := Nat.le_zero.1 hskip
    rw [escapeFrom, tagsFrom_backslashes]
    exact hrest _
  | cons c t ih =>
    cases skip with
    | succ skip =>
      rw [escapeFrom, List.cons_append, tagsFrom_skip]
      exact ih 0 (Nat.le_of_succ_le_succ hskip)
    | zero =>
      rw [escapeFrom]
      split
      · exact ih (slashes + 1) (Nat.zero_le _)
      · rename_i hc
        have hc : c ≠ .char '\\' := by simpa using hc
        split
        · rename_i inside hinside
          -- the count of backslashes is odd, so the tag is text
          unfold tagAt? at hinside
          split at hinside
          · rename_i hopen
            obtain ⟨hread, hlength⟩ := tagInside?_escapeFrom_append hinside rest
            rw [eq_of_beq hopen, List.append_assoc, tagsFrom_backslashes, List.cons_append, tagsFrom_tag _ hread,
              if_pos (by simp), List.nil_append]
            exact ih 0 hlength
          · cases hinside
        · rename_i hnone
          have hread : tagAt? c (escapeFrom 0 0 t ++ rest) = none := by
            unfold tagAt? at hnone ⊢
            split
            · rename_i hopen
              rw [if_pos hopen] at hnone
              exact tagInside?_escapeFrom_append_none hnone hsealed
            · rfl
          rw [List.append_assoc, tagsFrom_backslashes, List.cons_append, tagsFrom_plain _ hc hread]
          exact ih 0 (Nat.zero_le _)

theorem exists_closeEnd (t : Text) : ∃ n, closeEnd t = t ++ backslashes n := by
  unfold closeEnd
  split
  · exact ⟨0, (List.append_nil t).symm⟩
  · exact ⟨1, rfl⟩
  · exact ⟨0, (List.append_nil t).symm⟩

theorem tagsFrom_escape {rest : Text} {tags : List Text} (hsealed : Sealed rest)
    (hrest : ∀ slashes, tagsFrom slashes 0 rest = tags) (t : Text) : tagsFrom 0 0 (escape t ++ rest) = tags := by
  obtain ⟨n, hn⟩ := exists_closeEnd (escapeTags t)
  rw [escape, hn, List.append_assoc]
  apply tagsFrom_escapeFrom _ _ t 0 (Nat.zero_le _)
  · rw [Sealed, List.find?_append]
    have hnone : (backslashes n).find? isBracket = none := find?_escapeFrom n 0 []
    rw [hnone]
    exact hsealed
  · intro slashes
    rw [tagsFrom_backslashes]
    exact hrest _

/-! ## Rendering -/

/-- Whether markup can be rendered is up to its tags alone. -/
theorem isOk_renderPieces (opened : List Text) (ps : List Piece) :
    (renderPieces opened ps).isOk = (renderPieces opened ((tagsOf ps).map (.tag · 0))).isOk := by
  induction ps generalizing opened with
  | nil => rfl
  | cons p ps ih =>
    cases p with
    | text t =>
      rw [renderPieces, isOk_map]
      exact ih opened
    | tag inside position =>
      rw [tagsOf_tag, List.map_cons, renderPieces.eq_def, renderPieces.eq_def]
      dsimp only
      split
      · split
        · split
          · rfl
          · exact ih _
        · split
          · exact ih _
          · rfl
      · exact ih _

end BlockNotebook.Console.Markup
