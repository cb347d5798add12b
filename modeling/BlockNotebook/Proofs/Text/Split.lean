import BlockNotebook.Text.CodePoint
import BlockNotebook.Text.Lines
import BlockNotebook.Text.Split
/-!
Texts of characters, and the parts between their separators.
-/

namespace BlockNotebook.Text

/-- What follows the longest stretch of a class at the head of a list. -/
theorem drop_length_takeWhile {α : Type} (p : α → Bool) (t : List α) : t.drop (t.takeWhile p).length = t.dropWhile p := by
  calc t.drop (t.takeWhile p).length
      = (t.takeWhile p ++ t.dropWhile p).drop (t.takeWhile p).length := by rw [List.takeWhile_append_dropWhile]
    _ = t.dropWhile p := List.drop_left

/-- What stands in front of the first place of an element is determined, and so is what stands behind it. -/
theorem append_cons_inj {α : Type} {a b c d : List α} {x : α} (ha : x ∉ a) (hb : x ∉ b)
    (h : a ++ x :: c = b ++ x :: d) : a = b ∧ c = d := by
  induction a generalizing b with
  | nil =>
    cases b with
    | nil => exact ⟨rfl, (List.cons.inj h).2⟩
    | cons y b => exact absurd (List.mem_cons.2 (.inl (List.cons.inj h).1)) hb
  | cons y a ih =>
    cases b with
    | nil => exact absurd (List.mem_cons.2 (.inl (List.cons.inj h).1.symm)) ha
    | cons z b =>
      obtain ⟨hy, htail⟩ := List.cons.inj h
      obtain ⟨hab, hrest⟩ := ih (List.not_mem_of_not_mem_cons ha) (List.not_mem_of_not_mem_cons hb) htail
      exact ⟨by rw [hy, hab], hrest⟩

/-- The stand-in for surrogates shows no tag but that of text. -/
theorem eq_ofChars {t : Text} (h : '\uFFFD' ∉ t.characters) : t = ofChars t.characters := by
  induction t with
  | nil => rfl
  | cons c rest ih =>
    have hrest := ih fun hr => h (List.mem_cons_of_mem _ hr)
    cases c with
    | char c => exact congrArg (CodePoint.char c :: ·) hrest
    | surrogate n => exact absurd List.mem_cons_self h

theorem contains_ofChars (cs : List Char) (c : Char) : (ofChars cs).contains (.char c) = cs.contains c := by
  induction cs with
  | nil => rfl
  | cons d rest ih =>
    rw [ofChars, List.map_cons, List.contains_cons, List.contains_cons, ← ofChars, ih]
    congr 1
    rw [Bool.eq_iff_iff, beq_iff_eq, beq_iff_eq, CodePoint.char.injEq]

theorem split_ofChars (sep : Char) (cs : List Char) : split (.char sep) (ofChars cs) = (split sep cs).map ofChars := by
  induction cs with
  | nil => rfl
  | cons c rest ih =>
    rw [ofChars, List.map_cons, ← ofChars, split, ih, split]
    cases split sep rest with
    | nil => rfl
    | cons part parts =>
      simp only [List.map_cons]
      by_cases hc : c = sep
      · subst hc
        rw [if_pos (beq_self_eq_true _), if_pos (beq_self_eq_true _)]
        rfl
      · have hcode : ¬ CodePoint.char c = CodePoint.char sep := fun h => hc (CodePoint.char.inj h)
        rw [if_neg (by simpa using hcode), if_neg (by simpa using hc)]
        rfl

/-- What holds no separator only adds to the last part. -/
theorem split_append {sep : Char} (cs : List Char) {rest : List Char} (h : sep ∉ rest) :
    ∃ init last, split sep cs = init ++ [last] ∧ split sep (cs ++ rest) = init ++ [last ++ rest] := by
  induction cs with
  | nil =>
    refine ⟨[], [], rfl, ?_⟩
    induction rest with
    | nil => rfl
    | cons c rest ih =>
      have hrest := ih fun hr => h (List.mem_cons_of_mem _ hr)
      have hc : ¬ (c == sep) = true := fun hc => h (eq_of_beq hc ▸ List.mem_cons_self)
      simp only [List.nil_append] at hrest ⊢
      rw [split, hrest]
      exact if_neg hc
  | cons c cs ih =>
    obtain ⟨init, last, hsplit, happend⟩ := ih
    rw [List.cons_append, split, hsplit, split, happend]
    cases init with
    | nil =>
      simp only [List.nil_append]
      split
      · exact ⟨[[]], last, rfl, rfl⟩
      · exact ⟨[], c :: last, rfl, rfl⟩
    | cons part parts =>
      simp only [List.cons_append]
      split
      · exact ⟨[] :: part :: parts, last, rfl, rfl⟩
      · exact ⟨(c :: part) :: parts, last, rfl, rfl⟩

/-- The first part begins the text, and every part is a stretch of it. -/
theorem split_infix {sep : Char} {cs part : List Char} {parts : List (List Char)} (h : split sep cs = part :: parts) :
    part <+: cs ∧ ∀ p ∈ parts, p <:+: cs := by
  induction cs generalizing part parts with
  | nil =>
    cases h
    exact ⟨List.prefix_refl _, nofun⟩
  | cons c cs ih =>
    cases hrest : split sep cs with
    | nil => exact absurd hrest (split_ne_nil _ _)
    | cons first others =>
      obtain ⟨hfirst, hothers⟩ := ih hrest
      have hlater : ∀ p ∈ others, p <:+: c :: cs := fun p hp => List.infix_cons (hothers p hp)
      rw [split, hrest] at h
      dsimp only at h
      split at h
      · cases h
        exact ⟨List.nil_prefix, List.forall_mem_cons.2 ⟨List.infix_cons hfirst.isInfix, hlater⟩⟩
      · cases h
        exact ⟨List.cons_prefix_cons.2 ⟨rfl, hfirst⟩, hlater⟩

theorem infix_of_mem_split {sep : Char} {cs p : List Char} (h : p ∈ split sep cs) : p <:+: cs := by
  cases hs : split sep cs with
  | nil => exact absurd hs (split_ne_nil _ _)
  | cons part parts =>
    obtain ⟨hpart, hparts⟩ := split_infix hs
    rw [hs] at h
    rcases List.mem_cons.1 h with rfl | h
    · exact hpart.isInfix
    · exact hparts p h

/-- Every character but the separators is in a part. -/
theorem mem_split_of_mem {sep c : Char} {cs : List Char} (hc : c ∈ cs) (hsep : c ≠ sep) : ∃ p ∈ split sep cs, c ∈ p := by
  induction cs with
  | nil => cases hc
  | cons d cs ih =>
    cases hrest : split sep cs with
    | nil => exact absurd hrest (split_ne_nil _ _)
    | cons part parts =>
      rw [split, hrest]
      dsimp only
      rcases List.mem_cons.1 hc with rfl | hc
      · rw [if_neg (by simpa using hsep)]
        exact ⟨_, List.mem_cons_self, List.mem_cons_self⟩
      · obtain ⟨p, hp, hcp⟩ := ih hc
        rw [hrest] at hp
        split
        · exact ⟨p, List.mem_cons_of_mem _ hp, hcp⟩
        · rcases List.mem_cons.1 hp with rfl | hp
          · exact ⟨_, List.mem_cons_self, List.mem_cons_of_mem _ hcp⟩
          · exact ⟨p, List.mem_cons_of_mem _ hp, hcp⟩

theorem joinWith_cons (sep part : Text) (parts : List Text) :
    joinWith sep (part :: parts) = part ++ (parts.map (sep ++ ·)).flatten := by
  induction parts generalizing part with
  | nil => exact (List.append_nil part).symm
  | cons next parts ih => rw [joinWith_cons_cons, ih, List.map_cons, List.flatten_cons, List.append_assoc, List.append_assoc]

theorem length_split (sep : Char) (cs : List Char) : (split sep cs).length = cs.count sep + 1 := by
  induction cs with
  | nil => rfl
  | cons c cs ih =>
    rw [split, List.count_cons, ← Nat.add_right_comm, ← ih]
    cases h : split sep cs with
    | nil => exact absurd h (split_ne_nil _ _)
    | cons part parts =>
      dsimp only
      split <;> rfl

end BlockNotebook.Text
