import BlockNotebook.CommandLine.Session
import BlockNotebook.Proofs.Schema.Exported
/-!
What the parts of a command leave, and how they end.
-/

namespace BlockNotebook.CommandLine.Job

/-- The text can be printed: it has no surrogates. -/
def Printable (t : Text) : Prop := ∀ c ∈ t, c.isSurrogate = false

instance (t : Text) : Decidable (Printable t) := inferInstanceAs (Decidable (∀ c ∈ t, _))

/-- How a part of a command ends in a session, and what it leaves. -/
def exec {α : Type} (a : Job α) (s : Session) : Except Ending α × Session := StateT.run (ExceptT.run a) s

variable {α β : Type}

theorem exec_bind (a : Job α) (f : α → Job β) (s : Session) :
    exec (a >>= f) s =
      match exec a s with
      | (.ok x, s') => exec (f x) s'
      | (.error e, s') => (.error e, s') := by
  show StateT.run (ExceptT.run (a >>= f)) s = _
  simp only [exec, ExceptT.run_bind, StateT.run_bind]
  rcases StateT.run (ExceptT.run a) s with ⟨_ | _, s'⟩ <;> rfl

theorem exec_bind_ok {a : Job α} {x : α} {s s' : Session} (h : exec a s = (.ok x, s')) (f : α → Job β) :
    exec (a >>= f) s = exec (f x) s' := by
  rw [exec_bind, h]

theorem exec_bind_error {a : Job α} {e : Ending} {s s' : Session} (h : exec a s = (.error e, s')) (f : α → Job β) :
    exec (a >>= f) s = (.error e, s') := by
  rw [exec_bind, h]

theorem exec_log (rs : List Log.Record) (s : Session) : exec (log rs) s = (.ok (), s.addRecords rs) := rfl

theorem exec_finish (e : Ending) (s : Session) : exec (finish e : Job α) s = (.error e, s) := rfl

/-- A text is printed whole or, with a surrogate in it, not at all. -/
theorem exec_print (broken : Text.Unencodable → Fault) (t : Text) (s : Session) :
    (Printable t → exec (print broken t) s = (.ok (), s.addOutput t)) ∧
      (¬ Printable t → ∃ stretch, exec (print broken t) s = (.error (.broken (broken stretch)), s)) := by
  have hcode : Text.unencodable? .utf8 t = none ↔ Printable t := Schema.unencodable?_utf8 t
  unfold print
  cases hstretch : Text.unencodable? .utf8 t with
  | none => exact ⟨fun _ => rfl, fun h => absurd (hcode.1 hstretch) h⟩
  | some stretch =>
    constructor
    · intro h
      cases hstretch.symm.trans (hcode.2 h)
    · intro _
      exact ⟨stretch, rfl⟩

theorem exec_setLevel {name : Text} {s : Session} {l : Log.Logger} (h : s.logger.setup name = .ok l) :
    exec (setLevel name) s = (.ok (), { s with logger := l }) := by
  have hget : exec (get : Job Session) s = (.ok s, s) := rfl
  rw [setLevel, exec_bind_ok hget, h]
  rfl

/-- A message that is told before the end is all that is printed. -/
theorem exec_refuse {markup shown : Text} (h : Console.print markup = .ok shown) (s : Session) :
    ∃ e : Ending, e.exitCode = 1 ∧
      exec (refuse markup : Job α) s = (.error e, if Printable shown then s.addOutput shown else s) := by
  have hsay : exec (say markup) s = exec (print .notTold shown) s := by
    rw [say, h]
  rw [refuse]
  split
  · rename_i hshown
    refine ⟨.failed, rfl, ?_⟩
    rw [exec_bind_ok (hsay.trans ((exec_print .notTold shown s).1 hshown)), exec_finish]
  · rename_i hshown
    obtain ⟨stretch, hprint⟩ := (exec_print .notTold shown s).2 hshown
    exact ⟨_, rfl, exec_bind_error (hsay.trans hprint) _⟩

theorem outcome_eq_ok {a : Job Unit} {s : Session} (h : exec a .start = (.ok (), s)) : outcome a = (s, none) := by
  have hrun : StateT.run (ExceptT.run a) Session.start = (.ok (), s) := h
  rw [outcome, hrun]

theorem outcome_eq_error {a : Job Unit} {e : Ending} {s : Session} (h : exec a .start = (.error e, s)) :
    outcome a = (s, some e) := by
  have hrun : StateT.run (ExceptT.run a) Session.start = (.error e, s) := h
  rw [outcome, hrun]

end BlockNotebook.CommandLine.Job
