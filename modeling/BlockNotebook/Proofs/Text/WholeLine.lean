import BlockNotebook.Proofs.Text.Physical
/-!
A physical line in its place: what stands above it in the text, and what stands below.

`WholeLine t above line below` says so without cutting the text into lines; the lines that have such a
place are those of `physicalLines` (`exists_wholeLine`, `WholeLine.mem`).
-/

namespace BlockNotebook.Text

open Code.Source (normalizeNewlines_cons)

/-- The code point ends a physical line. -/
def IsNewline (c : CodePoint) : Prop := c = .char '\n' ∨ c = .char '\r'

/-- The line stands between these two parts of the text, and is not a piece of a longer line. -/
structure WholeLine (t above line below : Text) : Prop where
  text_eq : t = above ++ line ++ below
  inside : ∀ c ∈ line, ¬ IsNewline c
  before : ∀ c ∈ above.getLast?, IsNewline c
  after : ∀ c ∈ below.head?, IsNewline c

/-! ## Line ends of two texts -/

/-- Only a line feed after a carriage return is seen together with what is in front of it. -/
theorem normalizeNewlines_append (a : Text) {b : Text} (hb : b.head? ≠ some (.char '\n')) :
    normalizeNewlines (a ++ b) = normalizeNewlines a ++ normalizeNewlines b := by
  have hreturn {t : Text} (h : ∀ rest, t = .char '\n' :: rest → False) :
      normalizeNewlines (.char '\r' :: t) = .char '\n' :: normalizeNewlines t := by
    rw [normalizeNewlines]
    exact h
  induction a using normalizeNewlines.induct with
  | case1 => rfl
  | case2 a ih =>
    show CodePoint.char '\n' :: normalizeNewlines (a ++ b) = _
    rw [ih]
    rfl
  | case3 a hnot ih =>
    have happend : ∀ rest, a ++ b = .char '\n' :: rest → False := by
      intro rest heq
      cases a with
      | nil => exact hb (congrArg List.head? heq)
      | cons c a =>
        obtain ⟨rfl, -⟩ := List.cons.inj heq
        exact hnot a rfl
    rw [List.cons_append, hreturn happend, hreturn hnot, ih, List.cons_append]
  | case4 c a _ hc ih =>
    have hc : c ≠ .char '\r' := hc
    rw [List.cons_append, normalizeNewlines_cons hc, normalizeNewlines_cons hc, ih, List.cons_append]

theorem getLast?_normalizeNewlines (t : Text) (h : ∀ c ∈ t.getLast?, IsNewline c) :
    ∀ c ∈ (normalizeNewlines t).getLast?, c = .char '\n' := by
  rcases List.eq_nil_or_concat t with rfl | ⟨t, c, rfl⟩
  · exact nofun
  · rw [List.concat_eq_append, List.getLast?_concat] at h
    rw [List.concat_eq_append]
    rcases h c rfl with rfl | rfl
    · obtain ⟨x, -, happend⟩ := normalizeNewlines_append_newline t []
      rw [happend]
      intro d hd
      rw [show normalizeNewlines [] = [] from rfl, List.getLast?_concat] at hd
      exact (Option.some.inj hd).symm
    · rw [normalizeNewlines_append t (by decide)]
      intro d hd
      rw [show normalizeNewlines [.char '\r'] = [.char '\n'] from rfl, List.getLast?_concat] at hd
      exact (Option.some.inj hd).symm

theorem head?_normalizeNewlines {t : Text} (h : ∀ c ∈ t.head?, IsNewline c) :
    normalizeNewlines t = [] ∨ ∃ rest, normalizeNewlines t = .char '\n' :: rest := by
  cases t with
  | nil => exact .inl rfl
  | cons c t =>
    right
    rcases h c rfl with rfl | rfl
    · exact ⟨_, normalizeNewlines_cons (by decide) t⟩
    · cases t with
      | nil => exact ⟨_, rfl⟩
      | cons d t =>
        by_cases hd : d = .char '\n'
        · subst hd
          exact ⟨_, rfl⟩
        · refine ⟨normalizeNewlines (d :: t), ?_⟩
          rw [normalizeNewlines]
          rintro rest heq
          exact hd (List.cons.inj heq).1

/-! ## A line in its place is a physical line -/

theorem split_newline (t : Text) : split (.char '\n') (CodePoint.char '\n' :: t) = [] :: split (.char '\n') t :=
  split_append_sep (.char '\n') [] t

theorem WholeLine.mem {t above line below : Text} (h : WholeLine t above line below) (hne : line ≠ []) :
    line ∈ physicalLines t := by
  have hhead : (line ++ below).head? ≠ some (.char '\n') := by
    cases line with
    | nil => exact absurd rfl hne
    | cons c line =>
      intro hc
      exact h.inside c List.mem_cons_self (.inl (Option.some.inj hc))
  have hreturn : CodePoint.char '\r' ∉ line := fun hmem => h.inside _ hmem (.inr rfl)
  have hnewline : CodePoint.char '\n' ∉ line := fun hmem => h.inside _ hmem (.inl rfl)
  -- the line is the first of what follows the lines above it
  have hfirst : ∃ others, split (.char '\n') (line ++ normalizeNewlines below) = line :: others := by
    obtain ⟨first, others, hbelow, happend⟩ := split_append_of_not_mem hnewline (normalizeNewlines below)
    refine ⟨others, ?_⟩
    have hempty : first = [] := by
      rcases head?_normalizeNewlines h.after with hnil | ⟨rest, hcons⟩
      · rw [hnil] at hbelow
        exact (List.cons.inj hbelow).1.symm
      · rw [hcons, split_newline] at hbelow
        exact (List.cons.inj hbelow).1.symm
    rw [happend, hempty, List.append_nil]
  obtain ⟨others, hfirst⟩ := hfirst
  rw [h.text_eq, List.append_assoc, physicalLines, normalizeNewlines_append above hhead,
    normalizeNewlines_append_of_not_mem hreturn]
  have habove := getLast?_normalizeNewlines above h.before
  rcases List.eq_nil_or_concat (normalizeNewlines above) with hnil | ⟨x, c, hconcat⟩
  · rw [hnil, List.nil_append, hfirst]
    exact List.mem_cons_self
  · rw [List.concat_eq_append] at hconcat
    rw [hconcat, List.getLast?_concat] at habove
    rw [hconcat, habove c rfl, List.append_assoc, List.singleton_append, split_append_sep, hfirst]
    exact List.mem_append_right _ List.mem_cons_self

/-! ## A physical line has a place -/

theorem WholeLine.cons_of_newline {t above line below : Text} {c : CodePoint} (hc : IsNewline c)
    (h : WholeLine t above line below) : WholeLine (c :: t) (c :: above) line below where
  text_eq := by rw [h.text_eq]; rfl
  inside := h.inside
  before := by
    intro d hd
    rw [List.getLast?_cons] at hd
    cases habove : above.getLast? with
    | none =>
      rw [habove] at hd
      cases hd
      exact hc
    | some e =>
      rw [habove] at hd
      cases hd
      exact h.before _ habove
  after := h.after

/-- The lines have places in the text: the first one has nothing above it, so that it can be continued to the left,
and all others have. -/
inductive Placed (t : Text) : List Text → Prop
  | lines {first : Text} {others : List Text} (hfirst : ∃ below, WholeLine t [] first below)
      (hothers : ∀ line ∈ others, ∃ above below, above ≠ [] ∧ WholeLine t above line below) : Placed t (first :: others)

theorem Placed.subset {t first : Text} {others others' : List Text} (h : Placed t (first :: others))
    (hsub : others' ⊆ others) : Placed t (first :: others') := by
  cases h with
  | lines hfirst hothers => exact .lines hfirst fun line hline => hothers line (hsub hline)

/-- A line end in front of a text ends an empty line. -/
theorem Placed.ended {t : Text} {lines : List Text} {c : CodePoint} (hc : IsNewline c) (h : Placed t lines) :
    Placed (c :: t) ([] :: lines) := by
  cases h with
  | lines hfirst hothers =>
    refine .lines ⟨c :: t, rfl, nofun, nofun, by rintro d hd; cases hd; exact hc⟩ (List.forall_mem_cons.2 ⟨?_, ?_⟩)
    · obtain ⟨below, hplace⟩ := hfirst
      exact ⟨_, below, List.cons_ne_nil _ _, hplace.cons_of_newline hc⟩
    · intro line hline
      obtain ⟨above, below, -, hplace⟩ := hothers line hline
      exact ⟨_, below, List.cons_ne_nil _ _, hplace.cons_of_newline hc⟩

/-- Any other code point makes the first line longer, and all others stay where they are. -/
theorem Placed.longer {t first : Text} {others : List Text} {c : CodePoint} (hc : ¬ IsNewline c)
    (h : Placed t (first :: others)) : Placed (c :: t) ((c :: first) :: others) := by
  cases h with
  | lines hfirst hothers =>
    obtain ⟨below, hplace⟩ := hfirst
    refine .lines ⟨below, ?_, List.forall_mem_cons.2 ⟨hc, hplace.inside⟩, nofun, hplace.after⟩ ?_
    · rw [hplace.text_eq]
      rfl
    · intro line hline
      obtain ⟨above, below, hne, hplace⟩ := hothers line hline
      refine ⟨c :: above, below, List.cons_ne_nil _ _, by rw [hplace.text_eq]; rfl, hplace.inside, ?_, hplace.after⟩
      cases above with
      | nil => exact absurd rfl hne
      | cons d above =>
        rw [List.getLast?_cons_cons]
        exact hplace.before

theorem Placed.place {t line : Text} {lines : List Text} (h : Placed t lines) (hline : line ∈ lines) :
    ∃ above below, WholeLine t above line below := by
  cases h with
  | lines hfirst hothers =>
    rcases List.mem_cons.1 hline with rfl | hline
    · exact ⟨[], hfirst⟩
    · obtain ⟨above, below, -, hplace⟩ := hothers line hline
      exact ⟨above, below, hplace⟩

theorem placed_physicalLines (t : Text) : Placed t (physicalLines t) := by
  have hended {t : Text} {c : CodePoint} (hc : IsNewline c) (ih : Placed t (physicalLines t)) :
      Placed (c :: t) (split (.char '\n') (.char '\n' :: normalizeNewlines t)) := by
    rw [split_newline]
    exact ih.ended hc
  induction t using normalizeNewlines.induct with
  | case1 =>
    have hempty : WholeLine [] [] [] [] := ⟨rfl, List.forall_mem_nil _, by simp, by simp⟩
    exact .lines ⟨[], hempty⟩ (List.forall_mem_nil _)
  | case2 t ih =>
    -- the empty line between the two line ends is none that a reader sees
    have hboth : Placed (.char '\r' :: .char '\n' :: t) ([] :: [] :: physicalLines t) := (ih.ended (.inl rfl)).ended (.inr rfl)
    rw [physicalLines, normalizeNewlines, split_newline]
    exact hboth.subset (List.subset_cons_self _ _)
  | case3 t hnot ih =>
    rw [physicalLines, normalizeNewlines]
    · exact hended (.inr rfl) ih
    · exact hnot
  | case4 c t _ hreturn ih =>
    have hreturn : c ≠ .char '\r' := hreturn
    rw [physicalLines, normalizeNewlines_cons hreturn]
    by_cases hc : c = .char '\n'
    · subst hc
      exact hended (.inl rfl) ih
    · rw [split, ← physicalLines]
      cases hlines : physicalLines t with
      | nil => exact absurd hlines (split_ne_nil _ _)
      | cons first others =>
        dsimp only
        rw [if_neg (by simpa using hc)]
        exact (hlines ▸ ih).longer (by simp [IsNewline, hc, hreturn])

theorem exists_wholeLine {t line : Text} (h : line ∈ physicalLines t) : ∃ above below, WholeLine t above line below :=
  (placed_physicalLines t).place h

/-! ## Lines in a part of a text -/

/-- A line of the text above another line is one of the whole text. -/
theorem WholeLine.within {t above line below a l b : Text} (h : WholeLine t above line below)
    (h' : WholeLine above a l b) (hl : l ≠ []) : WholeLine t a l (b ++ line ++ below) := by
  refine ⟨by rw [h.text_eq, h'.text_eq]; simp only [List.append_assoc], h'.inside, h'.before, ?_⟩
  cases b with
  | nil =>
    -- the text above would end in the last code point of the line, and it ends in a line end
    have hlast := List.getLast?_eq_some_getLast hl
    have hend := h.before (l.getLast hl) (by rw [h'.text_eq, List.append_nil, List.getLast?_append, hlast]; rfl)
    exact absurd hend (h'.inside _ (List.getLast_mem hl))
  | cons c b => exact h'.after

theorem WholeLine.length_lt {t above line below : Text} (h : WholeLine t above line below) (hne : line ≠ []) :
    above.length < t.length := by
  have hpos := List.length_pos_iff.2 hne
  rw [h.text_eq, List.length_append, List.length_append]
  omega

/-- A line that ends inside the lines above another one is one of them. -/
theorem WholeLine.above_mem {t a l b a' l' b' : Text} (h : WholeLine t a l b) (h' : WholeLine t a' l' b')
    (hl : l ≠ []) (hlt : a.length < a'.length) : l ∈ physicalLines a' := by
  have heq : a ++ (l ++ b) = a' ++ (l' ++ b') := by
    rw [← List.append_assoc, ← List.append_assoc, ← h.text_eq, ← h'.text_eq]
  obtain ⟨x, rfl, hx⟩ | ⟨x, rfl, -⟩ := List.append_eq_append_iff.1 heq
  · have hne : x ≠ [] := by
      rintro rfl
      simp at hlt
    have hc := List.getLast?_eq_some_getLast hne
    generalize x.getLast hne = c at hc
    have hend : IsNewline c := h'.before c (by rw [List.getLast?_append, hc]; rfl)
    obtain ⟨y, rfl, rfl⟩ | ⟨y, rfl, -⟩ := List.append_eq_append_iff.1 hx
    · have hplace : WholeLine (a ++ (l ++ y)) a l y := by
        refine ⟨(List.append_assoc _ _ _).symm, h.inside, h.before, ?_⟩
        intro d hd
        exact h.after d (by rw [List.head?_append, hd]; rfl)
      exact hplace.mem hl
    · -- the text between the two begins in the line, and ends in a line end
      exact absurd hend (h.inside c (List.mem_append_left _ (List.mem_of_getLast? hc)))
  · rw [List.length_append] at hlt
    omega

/-- Two lines in one place are the same line. -/
theorem WholeLine.eq_of_above {t a l b l' b' : Text} (h : WholeLine t a l b) (h' : WholeLine t a l' b') :
    l' = l ∧ b' = b := by
  have hlonger {l b l' b' y : Text} (h : WholeLine t a l b) (h' : WholeLine t a l' b') (hl' : l' = l ++ y)
      (hb : b = y ++ b') : y = [] := by
    cases y with
    | nil => rfl
    | cons c y =>
      have hend : IsNewline c := h.after c (by rw [hb]; rfl)
      exact absurd hend (h'.inside c (by rw [hl']; simp))
  have heq : l ++ b = l' ++ b' := by
    have hsplit := h.text_eq.symm.trans h'.text_eq
    rw [List.append_assoc, List.append_assoc] at hsplit
    exact List.append_cancel_left hsplit
  obtain ⟨y, hl, hb⟩ | ⟨y, hl, hb⟩ := List.append_eq_append_iff.1 heq
  · obtain rfl := hlonger h h' hl hb
    exact ⟨by simpa using hl, by simpa using hb.symm⟩
  · obtain rfl := hlonger h' h hl hb
    exact ⟨by simpa using hl.symm, by simpa using hb⟩

end BlockNotebook.Text
