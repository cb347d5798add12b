/-!
When steps that may fail give a result.
-/

namespace BlockNotebook

theorem isOk_map {ε α β : Type} {x : Except ε α} {f : α → β} : (x.map f).isOk = x.isOk := by
  cases x <;> rfl

theorem isOk_mapError {ε ε' α : Type} {x : Except ε α} {f : ε → ε'} : (x.mapError f).isOk = x.isOk := by
  cases x <;> rfl

theorem eq_ok_getD {ε α : Type} {x : Except ε α} (h : x.isOk) (a : α) : x = .ok (x.toOption.getD a) := by
  cases x with
  | ok b => rfl
  | error e => cases h

theorem isOk_bind {ε α β : Type} {x : Except ε α} {f : α → Except ε β} {P : Prop}
    (h : ∀ a, (f a).isOk = true ↔ P) : (x >>= f).isOk = true ↔ x.isOk = true ∧ P := by
  cases x with
  | error e => exact ⟨nofun, nofun⟩
  | ok a => exact (h a).trans ⟨fun hp => ⟨rfl, hp⟩, fun hp => hp.2⟩

theorem isOk_one {ε α β : Type} {x : Except ε α} {f : α → β} : (x >>= fun a => pure (f a)).isOk = x.isOk := by
  cases x <;> rfl

theorem isOk_two {ε α β γ : Type} {x : Except ε α} {y : Except ε β} {f : α → β → γ} :
    (x >>= fun a => y >>= fun b => pure (f a b)).isOk = true ↔ x.isOk = true ∧ y.isOk = true :=
  isOk_bind fun _ => by rw [isOk_one]

theorem isOk_three {ε α β γ δ : Type} {x : Except ε α} {y : Except ε β} {z : Except ε γ} {f : α → β → γ → δ} :
    (x >>= fun a => y >>= fun b => z >>= fun c => pure (f a b c)).isOk = true ↔
      x.isOk = true ∧ y.isOk = true ∧ z.isOk = true :=
  isOk_bind fun _ => isOk_two

theorem exists_of_toOption {ε α β : Type} {x : Except ε α} {f : α → β} {b : β} (h : x.toOption.map f = some b) :
    ∃ a, x = .ok a ∧ f a = b := by
  cases x with
  | error e => cases h
  | ok a => exact ⟨a, rfl, Option.some_inj.1 h⟩

/-- What a step gives that changes a result is changed from a result. -/
theorem map_eq_ok {ε α β : Type} {f : α → β} {x : Except ε α} {b : β} (h : x.map f = .ok b) : ∃ a, x = .ok a ∧ f a = b := by
  cases x with
  | error e => cases h
  | ok a =>
    cases h
    exact ⟨a, rfl, rfl⟩

/-- A step after another one gives a result if the other one does. -/
theorem bind_eq_ok {ε α β : Type} {x : Except ε α} {f : α → Except ε β} {b : β} (h : (x >>= f) = .ok b) :
    ∃ a, x = .ok a ∧ f a = .ok b := by
  cases x with
  | error e => cases h
  | ok a => exact ⟨a, rfl, h⟩

/-- If each step gives a result, then so do all of them. -/
theorem exists_mapM {ε α β : Type} {f : α → Except ε β} {as : List α} (h : ∀ a ∈ as, (f a).isOk) :
    ∃ bs, as.mapM f = .ok bs ∧ bs.length = as.length := by
  induction as with
  | nil => exact ⟨[], rfl, rfl⟩
  | cons a as ih =>
    obtain ⟨ha, has⟩ := List.forall_mem_cons.1 h
    obtain ⟨bs, hbs, hlength⟩ := ih has
    cases hfa : f a with
    | error e =>
      rw [hfa] at ha
      cases ha
    | ok b =>
      refine ⟨b :: bs, ?_, congrArg (· + 1) hlength⟩
      rw [List.mapM_cons, hfa, hbs]
      rfl

end BlockNotebook
