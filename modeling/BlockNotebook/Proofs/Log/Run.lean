import BlockNotebook.Log.Logger
import BlockNotebook.Notebook.Compile
/-!
The logger through a run.

A run is any list of calls that set the logger up or compile a notebook. A call that
sets it up makes a handler first, then sets the level, which may be refused, and
installs the handler last, if there is none. So a refused call leaves a handler
that is nowhere installed, and the first call that is not refused installs the
one handler that all later records are written by (`run_has_one_handler`).
-/

namespace BlockNotebook.Log

/-! ## Calls -/

/-- Where a run stands. -/
structure State where
  level : Nat
  /-- The handlers that are installed, by their numbers in the order they were made. -/
  handlers : List Nat
  /-- How many handlers were made. -/
  made : Nat
  written : Text

/-- A logger that is not set up, before anything is written. -/
def State.start : State := ⟨0, [], 0, []⟩

/-- The logger as it writes records. -/
def State.logger (s : State) : Logger := ⟨s.level, s.handlers.length⟩

/-- A call that concerns the logger. -/
inductive Call
  | setup (name : Text)
  | compile (n : Notebook) (context : Option Code.Context) (policy : OnError)

/-- To make a handler. -/
def makeHandler : ExceptT Fault (StateM State) Nat :=
  modifyGet fun s => (s.made, { s with made := s.made + 1 })

/-- To set the level by its name. -/
def setLevel (name : Text) : ExceptT Fault (StateM State) Unit :=
  match weightOf name with
  | .ok weight => modify fun s => { s with level := weight }
  | .error f => throw f

/-- To install a handler, if there is none. -/
def install (handler : Nat) : ExceptT Fault (StateM State) Unit :=
  modify fun s => { s with handlers := if s.handlers.isEmpty then [handler] else s.handlers }

/-- To set the logger up. -/
def setup (name : Text) : ExceptT Fault (StateM State) Unit := do
  let handler ← makeHandler
  setLevel name
  install handler

/-- To write what is logged. -/
def writeRecords (rs : List Record) : ExceptT Fault (StateM State) Unit :=
  modify fun s => { s with written := s.written ++ s.logger.writeAll rs }

def Call.perform : Call → ExceptT Fault (StateM State) Unit
  | .setup name => Log.setup name
  | .compile n context policy => writeRecords (n.compile context policy).logs

/-- How a call ends, and what it leaves. -/
def State.call (s : State) (c : Call) : Except Fault Unit × State := StateT.run (ExceptT.run c.perform) s

/-- Where a run stands after more calls. -/
def State.runOn (s : State) (calls : List Call) : State := calls.foldl (fun s c => (s.call c).2) s

/-- Where a run stands after its calls. -/
def run (calls : List Call) : State := State.start.runOn calls

theorem run_append (calls more : List Call) : run (calls ++ more) = (run calls).runOn more := List.foldl_append

namespace Call

/-- The level that a call sets; none if it is refused, or does not set the logger up. -/
def level? : Call → Option Nat
  | .setup name => (weightOf name).toOption
  | .compile _ _ _ => none

/-- The call sets the logger up, and is not refused. -/
def Completes (c : Call) : Prop := c.level?.isSome

/-- What is logged in a call. -/
def records : Call → List Record
  | .setup _ => []
  | .compile n context policy => (n.compile context policy).logs

end Call

/-- The record counts at a level. Level zero counts as that of warnings. -/
def counts (level : Nat) (r : Record) : Bool :=
  decide ((if level = 0 then Level.warning.weight else level) ≤ r.level.weight)

/-- The records of calls that are to be written, while the level is first as given and then as the calls set it. -/
def due (level : Nat) : List Call → List Record
  | [] => []
  | c :: rest => c.records.filter (counts level) ++ due (c.level?.getD level) rest

/-! ## One call -/

/-- The call is refused exactly if there is no such level, and then the level and the handlers stay as they are. -/
theorem call_setup (s : State) (name : Text) :
    s.call (.setup name) =
      match weightOf name with
      | .ok weight =>
        (.ok (), ⟨weight, if s.handlers.isEmpty then [s.made] else s.handlers, s.made + 1, s.written⟩)
      | .error f => (.error f, ⟨s.level, s.handlers, s.made + 1, s.written⟩) := by
  simp only [State.call, Call.perform, setup, setLevel]
  cases weightOf name <;> rfl

/-- The logger is set up as `Logger.setup` has it. -/
theorem logger_setup (s : State) (name : Text) :
    (s.call (.setup name)).2.logger =
      match s.logger.setup name with
      | .ok l => l
      | .error _ => s.logger := by
  rw [call_setup, Logger.setup]
  cases weightOf name with
  | error f => rfl
  | ok weight => cases hs : s.handlers <;> simp [State.logger, Except.map, hs]

theorem level_call (s : State) (c : Call) : (s.call c).2.level = c.level?.getD s.level := by
  cases c with
  | compile n context policy => rfl
  | setup name =>
    rw [call_setup, Call.level?]
    cases weightOf name <;> rfl

theorem handlers_call (s : State) (c : Call) :
    (s.call c).2.handlers = if c.level?.isSome && s.handlers.isEmpty then [s.made] else s.handlers := by
  cases c with
  | compile n context policy => rfl
  | setup name =>
    rw [call_setup, Call.level?]
    cases weightOf name <;> rfl

theorem written_call (s : State) (c : Call) :
    (s.call c).2.written = s.written ++ s.logger.writeAll c.records := by
  cases c with
  | compile n context policy => rfl
  | setup name =>
    rw [call_setup, Call.records]
    cases weightOf name <;> simp [Logger.writeAll]

/-- A handler that is installed stays, and stays the only one. -/
theorem handlers_call_of_singleton {s : State} {handler : Nat} (h : s.handlers = [handler]) (c : Call) :
    (s.call c).2.handlers = [handler] := by
  rw [handlers_call, h]
  simp

/-- One handler writes every record that counts once, and no other. -/
theorem writeAll_of_singleton {s : State} {handler : Nat} (h : s.handlers = [handler]) (rs : List Record) :
    s.logger.writeAll rs = (rs.filter (counts s.level)).flatMap Logger.line := by
  have hwrite (r : Record) : s.logger.write r = if counts s.level r then Logger.line r else [] := by
    have hpasses : s.logger.passes r = counts s.level r := by
      simp [Logger.passes, Logger.threshold, State.logger, counts]
    rw [Logger.write, hpasses]
    cases counts s.level r <;> simp [State.logger, h]
  rw [Logger.writeAll]
  induction rs with
  | nil => rfl
  | cons r rest ih =>
    rw [List.flatMap_cons, ih, hwrite, List.filter_cons]
    split <;> simp

/-! ## Runs -/

theorem handlers_runOn {s : State} {handler : Nat} (h : s.handlers = [handler]) (calls : List Call) :
    (s.runOn calls).handlers = [handler] := by
  induction calls generalizing s with
  | nil => exact h
  | cons c rest ih => exact ih (handlers_call_of_singleton h c)

/-- With a handler installed, each record is written once if it counts at the level of its time, in order. -/
theorem written_runOn {s : State} {handler : Nat} (h : s.handlers = [handler]) (calls : List Call) :
    (s.runOn calls).written = s.written ++ (due s.level calls).flatMap Logger.line := by
  induction calls generalizing s with
  | nil => simp [State.runOn, due]
  | cons c rest ih =>
    have hrest := ih (handlers_call_of_singleton h c)
    rw [written_call, level_call, writeAll_of_singleton h] at hrest
    rw [due, List.flatMap_append, ← List.append_assoc, ← hrest]
    rfl

theorem level_runOn (s : State) (calls : List Call) :
    (s.runOn calls).level = (calls.filterMap Call.level?).getLast?.getD s.level := by
  induction calls generalizing s with
  | nil => rfl
  | cons c rest ih =>
    have hrest := ih (s.call c).2
    rw [level_call] at hrest
    rw [List.filterMap_cons]
    cases hc : c.level? with
    | none =>
      rw [hc] at hrest
      exact hrest
    | some level =>
      rw [hc] at hrest
      rw [List.getLast?_cons]
      exact hrest

/-- As long as no call sets a level, no handler is installed; the first that does so installs the one that stays. -/
theorem handlers_runOn_of_nil {s : State} (h : s.handlers = []) (calls : List Call) :
    ((s.runOn calls).handlers = [] ∧ ¬ ∃ c ∈ calls, c.Completes) ∨
      ((∃ handler, (s.runOn calls).handlers = [handler]) ∧ ∃ c ∈ calls, c.Completes) := by
  induction calls generalizing s with
  | nil => exact .inl ⟨h, by simp⟩
  | cons c rest ih =>
    have hcall := handlers_call s c
    cases hc : c.level? with
    | some level =>
      right
      rw [hc, h] at hcall
      exact ⟨⟨s.made, handlers_runOn hcall rest⟩, c, List.mem_cons_self, by rw [Call.Completes, hc]; rfl⟩
    | none =>
      rw [hc, h] at hcall
      have hnot : ¬ c.Completes := by simp [Call.Completes, hc]
      rcases ih hcall with ⟨hnil, hnone⟩ | ⟨hone, later, hlater, hcompletes⟩
      · left
        refine ⟨hnil, ?_⟩
        rintro ⟨d, hd, hcompletes⟩
        rcases List.mem_cons.1 hd with rfl | hd
        · exact hnot hcompletes
        · exact hnone ⟨d, hd, hcompletes⟩
      · exact .inr ⟨hone, later, List.mem_cons_of_mem _ hlater, hcompletes⟩

theorem handlers_run_of_completes {calls : List Call} (h : ∃ c ∈ calls, c.Completes) :
    ∃ handler, (run calls).handlers = [handler] := by
  rcases handlers_runOn_of_nil (s := .start) rfl calls with ⟨-, hnone⟩ | ⟨hone, -⟩
  · exact absurd h hnone
  · exact hone

/-- The logger of a run never has more than one handler. It has one as soon as a call has set it up, keeps that one,
and has the level of the last such call; a call that is refused changes neither. From the first such call on, every
record that counts at the level of its time is written once, in order, and no other is. -/
theorem run_has_one_handler (calls : List Call) :
    (run calls).handlers.length ≤ 1 ∧
    (∀ name, ((run calls).call (.setup name)).1 = .ok () ↔ (Call.setup name).Completes) ∧
    ((run calls).handlers.length = 1 ↔ ∃ c ∈ calls, c.Completes) ∧
    ((∃ c ∈ calls, c.Completes) → ∀ more, (run (calls ++ more)).handlers = (run calls).handlers) ∧
    (run calls).level = (calls.filterMap Call.level?).getLast?.getD 0 ∧
    (∀ name f, ((run calls).call (.setup name)).1 = .error f →
      (run (calls ++ [.setup name])).handlers = (run calls).handlers ∧
      (run (calls ++ [.setup name])).level = (run calls).level) ∧
    ((∃ c ∈ calls, c.Completes) → ∀ more,
      (run (calls ++ more)).written = (run calls).written ++ (due (run calls).level more).flatMap Logger.line) := by
  have hstart := handlers_runOn_of_nil (s := .start) rfl calls
  refine ⟨?_, fun name => ?_, ?_, fun h more => ?_, level_runOn .start calls, fun name f h => ?_, fun h more => ?_⟩
  · rcases hstart with ⟨hnil, -⟩ | ⟨⟨handler, hone⟩, -⟩
    · rw [run, hnil]
      exact Nat.zero_le _
    · rw [run, hone]
      exact Nat.le_refl _
  · rw [call_setup, Call.Completes, Call.level?]
    cases weightOf name <;> simp [Except.toOption]
  · rcases hstart with ⟨hnil, hnone⟩ | ⟨⟨handler, hone⟩, hsome⟩
    · rw [run, hnil]
      exact ⟨nofun, fun h => absurd h hnone⟩
    · rw [run, hone]
      exact ⟨fun _ => hsome, fun _ => rfl⟩
  · obtain ⟨handler, hone⟩ := handlers_run_of_completes h
    rw [run_append, handlers_runOn hone, hone]
  · rw [run_append]
    show ((run calls).call (.setup name)).2.handlers = _ ∧ ((run calls).call (.setup name)).2.level = _
    rw [call_setup] at h ⊢
    cases hname : weightOf name with
    | ok weight => rw [hname] at h; cases h
    | error g => exact ⟨rfl, rfl⟩
  · obtain ⟨handler, hone⟩ := handlers_run_of_completes h
    rw [run_append, written_runOn hone]

/-- Two calls that are refused, with one between that is not, and a notebook with a block of no known kind. -/
def someCalls : List Call := [
  .setup "_styles", .setup "debug", .setup "basic_format",
  .compile ⟨.record [("name", .plain (.str "N")), ("blocks", .list [.record [("type", .plain (.str "graph"))] []])] []⟩
    none .skip]

theorem someCalls_have_one_handler :
    (∃ c ∈ someCalls, c.Completes) ∧ ((run someCalls).call (.setup "_styles")).1 = .error .styles ∧
      (∀ more, (run (someCalls ++ more)).handlers = (run someCalls).handlers) ∧
      ((run (someCalls ++ [.setup "_styles"])).handlers = (run someCalls).handlers ∧
        (run (someCalls ++ [.setup "_styles"])).level = (run someCalls).level) ∧
      (∀ more, (run (someCalls ++ more)).written =
        (run someCalls).written ++ (due (run someCalls).level more).flatMap Logger.line) := by
  have hcompletes : ∃ c ∈ someCalls, c.Completes :=
    ⟨.setup "debug", by simp [someCalls], show (Call.level? (.setup "debug")).isSome = true by decide +kernel⟩
  have hrefused : ((run someCalls).call (.setup "_styles")).1 = .error .styles := by
    have hword : Text.upper "_styles" = Text.ofString "_STYLES" := by decide +kernel
    have hformat : (Text.ofString "_STYLES" == Text.ofString "BASIC_FORMAT") = false := by decide +kernel
    rw [call_setup]
    simp [weightOf, hword, hformat]
  obtain ⟨-, -, -, hkeeps, -, hstays, hwritten⟩ := run_has_one_handler someCalls
  exact ⟨hcompletes, hrefused, hkeeps hcompletes, hstays _ _ hrefused, hwritten hcompletes⟩

example : (run someCalls).handlers = [1] ∧ (run someCalls).level = Level.debug.weight := by decide +kernel

end BlockNotebook.Log
