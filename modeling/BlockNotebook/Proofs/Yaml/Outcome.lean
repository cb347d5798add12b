import BlockNotebook.Yaml.Cursor
/-!
How the reading of a text can end.

A reader gives back what it has read, or a fault at a place of the text, or a
scalar fault, which has no place. `Ends` says what holds of what is read, and what
brings about the scalar faults; faults at a place are always allowed for.
-/

namespace BlockNotebook.Yaml

/-- The reading ends in something with a property, in a fault at a place, or in a scalar fault that has a cause. -/
inductive Ends {α : Type} (cause : ScalarFault → Prop) (result : α → Prop) : Except Fault α → Prop
  | ok {a : α} (h : result a) : Ends cause result (.ok a)
  | scalar {f : ScalarFault} (h : cause f) : Ends cause result (.error (.scalar f))
  | place {stage : Stage} {activity : Option Activity} {since : Option Mark} {problem : Problem} {mark : Mark} :
    Ends cause result (.error (.at stage activity since problem mark))
  | character {c : CodePoint} {position : Nat} : Ends cause result (.error (.unacceptable c position))

section
variable {cause : ScalarFault → Prop} {α β : Type} {P : α → Prop} {Q : β → Prop} {x : Except Fault α}

theorem Ends.bind (hx : Ends cause P x) {f : α → Except Fault β} (hf : ∀ a, P a → Ends cause Q (f a)) :
    Ends cause Q (x >>= f) := by
  cases hx with
  | ok h => exact hf _ h
  | scalar h => exact .scalar h
  | place => exact .place
  | character => exact .character

theorem Ends.map (hx : Ends cause P x) {f : α → β} (hf : ∀ a, P a → Q (f a)) : Ends cause Q (x.map f) := by
  cases hx with
  | ok h => exact .ok (hf _ h)
  | scalar h => exact .scalar h
  | place => exact .place
  | character => exact .character

theorem Ends.mono (hx : Ends cause P x) {cause' : ScalarFault → Prop} (hcause : ∀ f, cause f → cause' f)
    {P' : α → Prop} (h : ∀ a, P a → P' a) : Ends cause' P' x := by
  cases hx with
  | ok ha => exact .ok (h _ ha)
  | scalar hf => exact .scalar (hcause _ hf)
  | place => exact .place
  | character => exact .character

/-- A reading ends as it ends. -/
theorem Ends.self (x : Except Fault α) : Ends (fun f => x = .error (.scalar f)) (fun a => x = .ok a) x := by
  cases x with
  | ok a => exact .ok rfl
  | error f => cases f with
    | scalar f => exact .scalar rfl
    | «at» => exact .place
    | unacceptable => exact .character

theorem Ends.ite {c : Prop} [Decidable c] {y : Except Fault α} (hx : c → Ends cause P x) (hy : ¬ c → Ends cause P y) :
    Ends cause P (if c then x else y) := by
  split
  · exact hx ‹_›
  · exact hy ‹_›

theorem Ends.of_eq_ok {a : α} (hx : Ends cause P x) (h : x = .ok a) : P a := by
  rw [h] at hx
  cases hx with
  | ok ha => exact ha

theorem Ends.of_eq_scalar {f : ScalarFault} (hx : Ends cause P x) (h : x = .error (.scalar f)) : cause f := by
  rw [h] at hx
  cases hx with
  | scalar hf => exact hf

end

namespace Cursor

/-! ## Positions in a text -/

/-- What lies ahead is the end of a text. -/
def Within (cs : List Char) (cur : Cursor) : Prop := cur.rest <:+ cs

theorem rest_forward (cur : Cursor) : cur.forward.rest = cur.rest.drop 1 := by
  unfold forward
  cases hrest : cur.rest with
  | nil => exact hrest
  | cons c rest => rfl

theorem rest_forwardBy (cur : Cursor) (n : Nat) : (cur.forwardBy n).rest = cur.rest.drop n := by
  induction n generalizing cur with
  | zero => rfl
  | succ n ih => rw [forwardBy, ih, rest_forward, List.drop_drop, Nat.add_comm]

/-- A character other than the one for the end is the first of those ahead. -/
theorem rest_of_next {cur : Cursor} {c : Char} (h : cur.next = c) (hc : c ≠ '\x00') :
    cur.rest = c :: cur.forward.rest := by
  rw [rest_forward]
  cases hrest : cur.rest with
  | nil =>
    rw [next, peek, hrest] at h
    exact absurd h.symm hc
  | cons d rest =>
    rw [next, peek, hrest] at h
    rw [← h]
    rfl

theorem span_append (cur : Cursor) (p : Char → Bool) : (cur.span p).1 ++ (cur.span p).2.rest = cur.rest := by
  rw [span, rest_forwardBy]
  exact List.prefix_iff_eq_append.1 (List.takeWhile_prefix p)

theorem span_all (cur : Cursor) (p : Char → Bool) : (cur.span p).1.all p := List.all_takeWhile

section
variable {cs : List Char} {cur : Cursor}

theorem Within.forward (h : cur.Within cs) : cur.forward.Within cs := by
  rw [Within, rest_forward]
  exact (List.drop_suffix 1 _).trans h

theorem Within.forwardBy (h : cur.Within cs) (n : Nat) : (cur.forwardBy n).Within cs := by
  rw [Within, rest_forwardBy]
  exact (List.drop_suffix n _).trans h

theorem Within.span (h : cur.Within cs) (p : Char → Bool) : (cur.span p).2.Within cs := h.forwardBy _

theorem Within.skip (h : cur.Within cs) (p : Char → Bool) : (cur.skip p).Within cs := h.span p

theorem Within.skipSpaces (h : cur.Within cs) : cur.skipSpaces.Within cs := h.skip _

theorem Within.skipLine (h : cur.Within cs) : cur.skipLine.Within cs := h.skip _

theorem Within.skipComment (h : cur.Within cs) : (if cur.next == '#' then cur.skipLine else cur).Within cs := by
  split
  · exact h.skipLine
  · exact h

theorem Within.lineBreak (h : cur.Within cs) : cur.lineBreak.2.Within cs := by
  unfold Cursor.lineBreak
  dsimp only
  split
  · exact h.forwardBy 2
  split
  · exact h.forward
  split
  · exact h.forward
  · exact h

end

end Cursor

end BlockNotebook.Yaml
