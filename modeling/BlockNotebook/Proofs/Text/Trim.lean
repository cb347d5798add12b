import BlockNotebook.Text.Blank
import Mathlib.Data.List.TakeWhile
/-!
Texts with a class of characters taken off their ends.

What is left has only the class around it, and neither begins nor ends with the class. There is one such text
(`IsTrimmed.trim_eq`).
-/

namespace BlockNotebook.Text

variable {α : Type} (p : α → Bool) (t : List α)

theorem exists_trimEnd : ∃ below, t = trimEnd p t ++ below ∧ ∀ c ∈ below, p c := by
  refine ⟨(t.reverse.takeWhile p).reverse, ?_, ?_⟩
  · rw [trimEnd, ← List.reverse_append, List.takeWhile_append_dropWhile, List.reverse_reverse]
  · intro c hc
    exact List.mem_takeWhile_imp (List.mem_reverse.1 hc)

theorem exists_trim : ∃ above below, t = above ++ trim p t ++ below ∧ ∀ c ∈ above ++ below, p c := by
  obtain ⟨below, hbelow, hall⟩ := exists_trimEnd p (trimStart p t)
  refine ⟨t.takeWhile p, below, ?_, ?_⟩
  · rw [trim, List.append_assoc, ← hbelow, trimStart, List.takeWhile_append_dropWhile]
  · intro c hc
    rcases List.mem_append.1 hc with hc | hc
    · exact List.mem_takeWhile_imp hc
    · exact hall c hc

theorem head?_trim {c : α} (h : (trim p t).head? = some c) : p c = false := by
  obtain ⟨below, hbelow, -⟩ := exists_trimEnd p (trimStart p t)
  have hhead : (trimStart p t).head? = some c := by
    rw [hbelow, List.head?_append, ← trim, h]
    rfl
  have hnot := List.head?_dropWhile_not p t
  rw [← trimStart, hhead] at hnot
  simpa using hnot

theorem getLast?_trim {c : α} (h : (trim p t).getLast? = some c) : p c = false := by
  rw [trim, trimEnd, List.getLast?_reverse] at h
  have hnot := List.head?_dropWhile_not p (trimStart p t).reverse
  rw [h] at hnot
  simpa using hnot

theorem trim_eq_nil_iff : trim p t = [] ↔ ∀ c ∈ t, p c := by
  constructor
  · intro h
    obtain ⟨above, below, ht, hall⟩ := exists_trim p t
    rw [h, List.append_nil] at ht
    rw [ht]
    exact hall
  · intro h
    rw [trim, trimStart, List.dropWhile_eq_nil_iff.2 h]
    rfl

/-- A text is another one with nothing but the class around it, and neither begins nor ends with the class. -/
structure IsTrimmed (core : List α) : Prop where
  around : ∃ above below, t = above ++ core ++ below ∧ ∀ c ∈ above ++ below, p c
  head : ∀ c ∈ core.head?, p c = false
  last : ∀ c ∈ core.getLast?, p c = false

theorem isTrimmed_trim : IsTrimmed p t (trim p t) where
  around := exists_trim p t
  head _ := head?_trim p t
  last _ := getLast?_trim p t

variable {p t}

theorem dropWhile_of_head? {core : List α} (h : ∀ c ∈ core.head?, p c = false) (hne : core ≠ []) (rest : List α) :
    (core ++ rest).dropWhile p = core ++ rest := by
  cases core with
  | nil => exact absurd rfl hne
  | cons c core => exact List.dropWhile_cons_of_neg (by simp [h c rfl])

theorem IsTrimmed.trim_eq {core : List α} (h : IsTrimmed p t core) : trim p t = core := by
  obtain ⟨above, below, rfl, hall⟩ := h.around
  obtain ⟨habove, hbelow⟩ := List.forall_mem_append.1 hall
  by_cases hne : core = []
  · subst hne
    rw [List.append_nil]
    exact (trim_eq_nil_iff p _).2 hall
  · have hreverse : core.reverse.dropWhile p = core.reverse := by
      have hhead : ∀ c ∈ core.reverse.head?, p c = false := by
        rw [List.head?_reverse]
        exact h.last
      simpa using dropWhile_of_head? hhead (by simpa using hne) []
    have hend : below.reverse.dropWhile p = [] :=
      List.dropWhile_eq_nil_iff.2 fun c hc => hbelow c (List.mem_reverse.1 hc)
    rw [trim, trimStart, List.append_assoc, List.dropWhile_append_of_pos habove, dropWhile_of_head? h.head hne, trimEnd,
      List.reverse_append, List.dropWhile_append, hend, List.isEmpty_nil, if_pos rfl, hreverse, List.reverse_reverse]

/-- What is taken off is determined as well, unless all of the text is. -/
theorem IsTrimmed.around_unique {core above below above' below' : List α} (h : IsTrimmed p t core) (hne : core ≠ [])
    (ht : t = above ++ core ++ below) (habove : ∀ c ∈ above, p c) (ht' : t = above' ++ core ++ below')
    (habove' : ∀ c ∈ above', p c) : above = above' ∧ below = below' := by
  have hstart {a b : List α} (ht : t = a ++ core ++ b) (ha : ∀ c ∈ a, p c) : t.takeWhile p = a := by
    cases core with
    | nil => exact absurd rfl hne
    | cons c rest =>
      rw [ht, List.append_assoc, List.takeWhile_append_of_pos ha, List.cons_append,
        List.takeWhile_cons_of_neg (by simp [h.head c rfl]), List.append_nil]
  obtain rfl : above = above' := (hstart ht habove).symm.trans (hstart ht' habove')
  exact ⟨rfl, List.append_cancel_left (ht.symm.trans ht')⟩

end BlockNotebook.Text
