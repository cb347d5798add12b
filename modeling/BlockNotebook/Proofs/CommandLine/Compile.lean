import BlockNotebook.CommandLine.Run
import BlockNotebook.Proofs.CommandLine.Job
import BlockNotebook.Proofs.Console.Markup
import BlockNotebook.Proofs.Console.Sequence
/-!
What a run that compiles prints.

Notebooks are compiled before anything is printed, so a run prints the sections of all of
them or of none. Two things come between the text of the sections and the output: sequences
that steer a terminal are dropped, and a surrogate anywhere ends the run.
-/

namespace BlockNotebook.CommandLine

open Job Console.Markup

/-! ## The message -/

/-- Neither the name of a notebook nor what is wrong with it is taken for markup. -/
theorem tagsFrom_notCompiled (name report : Text) :
    tagsFrom 0 0 (Message.notCompiled name report) = [Text.ofString "red", Text.ofString "/red"] := by
  have hred : IsInside (Text.ofString "red") := .mk (by decide) (by decide)
  have hclosed : IsInside (Text.ofString "/red") := .mk (by decide) (by decide)
  have hreport : tagsFrom 0 0 (escape report ++ []) = [] := by
    apply tagsFrom_escape
    · exact nofun
    · intro slashes
      exact tagsFrom_nil slashes 0
  rw [List.append_nil] at hreport
  have hrest (slashes : Nat) : tagsFrom slashes 0 ("':[/red] " ++ escape report) = [Text.ofString "/red"] := by
    -- the quote takes the backslashes that the name may end in
    calc tagsFrom slashes 0 ("':[/red] " ++ escape report)
        = tagsFrom 0 0 (Text.ofString ":" ++
            .char '[' :: (Text.ofString "/red" ++ .char ']' :: (Text.ofString " " ++ escape report))) :=
          tagsFrom_plain slashes (by decide) rfl
      _ = Text.ofString "/red" :: tagsFrom 0 0 (Text.ofString " " ++ escape report) := by
          rw [tagsFrom_plains (by decide), tagsFrom_inside hclosed]
      _ = [Text.ofString "/red"] := by
          rw [tagsFrom_plains (by decide), hreport]
  have hname : tagsFrom 0 0 (escape name ++ ("':[/red] " ++ escape report)) = [Text.ofString "/red"] := by
    apply tagsFrom_escape _ hrest
    exact nofun
  calc tagsFrom 0 0 (Message.notCompiled name report)
      = tagsFrom 0 0 (.char '[' :: (Text.ofString "red" ++ .char ']' ::
          (Text.ofString "Failed to compile notebook '" ++
            (escape name ++ (Text.ofString "':[/red] " ++ escape report))))) := by
        rw [Message.notCompiled, List.append_assoc, List.append_assoc]
        rfl
    _ = [Text.ofString "red", Text.ofString "/red"] := by
        rw [tagsFrom_inside hred, tagsFrom_plains (by decide), hname]

/-- There is always a message for a notebook that does not compile. -/
theorem exists_print_notCompiled (name report : Text) :
    ∃ shown, Console.print (Message.notCompiled name report) = .ok shown := by
  have hpieces : tagsOf (pieces (Message.notCompiled name report)) = [Text.ofString "red", Text.ofString "/red"] :=
    tagsFrom_notCompiled name report
  have hrender : (render (Message.notCompiled name report)).isOk := by
    rw [render, isOk_renderPieces, hpieces]
    decide +kernel
  rw [Console.print]
  cases h : render (Message.notCompiled name report) with
  | error f =>
    rw [h] at hrender
    cases hrender
  | ok t => exact ⟨_, rfl⟩

/-- The output is what is told of a notebook that does not compile: a message if a block is at fault, and
nothing if the message has surrogates or something else is at fault. -/
def Tells (n : Notebook) (f : CompileFault) (output : Text) : Prop :=
  match f with
  | .block id g =>
    ∃ shown, Console.print (Message.notCompiled n.name (g.message id)) = .ok shown ∧
      output = if Printable shown then shown else []
  | _ => output = []

/-! ## Notebooks one after the other -/

section

variable {context : Option Code.Context} {policy : OnError}

theorem compileEach_ok {ns : List Notebook} {compiled : Notebook → List Compiled}
    (h : ∀ n ∈ ns, (n.compile context policy).result = .ok (compiled n)) :
    (compileEach context policy ns).2 = .ok (ns.map fun n => (n, compiled n)) := by
  induction ns with
  | nil => rfl
  | cons n ns ih =>
    obtain ⟨hn, hns⟩ := List.forall_mem_cons.1 h
    rw [compileEach]
    simp only [hn, ih hns]
    rfl

/-- The first notebook that does not compile ends it, whatever follows. -/
theorem compileEach_error {before after : List Notebook} {n : Notebook} {f : CompileFault}
    (hbefore : ∀ m ∈ before, (m.compile context policy).result.isOk) (h : (n.compile context policy).result = .error f) :
    (compileEach context policy (before ++ n :: after)).2 = .error ⟨n, f⟩ := by
  induction before with
  | nil =>
    rw [List.nil_append, compileEach]
    simp only [h]
  | cons m before ih =>
    obtain ⟨hm, hbefore⟩ := List.forall_mem_cons.1 hbefore
    rw [List.cons_append, compileEach]
    cases hresult : (m.compile context policy).result with
    | error g =>
      rw [hresult] at hm
      cases hm
    | ok compiled =>
      simp only [ih hbefore]
      rfl

/-- Either all notebooks compile, or one is the first that does not. -/
theorem first_fault (ns : List Notebook) :
    (∀ n ∈ ns, (n.compile context policy).result.isOk) ∨
      ∃ before n after f, ns = before ++ n :: after ∧ (∀ m ∈ before, (m.compile context policy).result.isOk) ∧
        (n.compile context policy).result = .error f := by
  induction ns with
  | nil => exact .inl nofun
  | cons n ns ih =>
    cases h : (n.compile context policy).result with
    | error f => exact .inr ⟨[], n, ns, f, rfl, nofun, h⟩
    | ok compiled =>
      have hn : (n.compile context policy).result.isOk := by rw [h]; rfl
      rcases ih with hns | ⟨before, m, after, f, rfl, hbefore, hm⟩
      · exact .inl (List.forall_mem_cons.2 ⟨hn, hns⟩)
      · exact .inr ⟨n :: before, m, after, f, rfl, List.forall_mem_cons.2 ⟨hn, hbefore⟩, hm⟩

end

/-! ## Orders -/

/-- What a line asks to compile, and all that is read before anything is compiled. -/
structure Order where
  line : Line
  file : Text
  options : CompileOptions
  settings : Settings
  logger : Log.Logger
  format : Format
  text : Text
  document : Document

namespace Order

/-- The arguments give the order, and nothing is wrong with them, the settings, the format or the document. -/
structure Stands (o : Order) (place : Place) (arguments : List Text) : Prop where
  line : Line.read arguments = .ok (.act o.line)
  command : o.line.verb.read o.line.arguments = .ok (.act (.compile o.file o.options))
  settings : Settings.ofFile? place.environment place.normalized.settings? = .ok o.settings
  logger : Log.Logger.start.setup (orElse o.line.logLevel o.settings.logLevel) = .ok o.logger
  format : Format.ofName? (orElse o.options.format o.settings.format) = some o.format
  text : place.normalized.file (fileName o.file) = .text o.text
  document : Document.ofText o.text = .ok o.document

variable (o : Order)

/-- The notebooks that are asked for. -/
def chosen : List Notebook := choose o.options.notebook o.document.notebooks

/-- A notebook compiled by itself. -/
def compile (n : Notebook) : Except CompileFault (List Compiled) :=
  (n.compile (some (contextOf o.options o.settings)) (policyOf o.options o.settings)).result

/-- What a notebook compiles to, if it does. -/
def compiled (n : Notebook) : List Compiled := (o.compile n).toOption.getD []

/-- The section of a notebook: what it compiles to, below a heading if there are other sections. -/
def sectionOf (n : Notebook) : Text :=
  (if 1 < o.chosen.length then o.format.heading n.name ++ "\n\n" else []) ++ o.format.render (o.compiled n)

/-- The sections of all notebooks that are asked for. -/
def whole : Text := Text.joinWith "\n" (o.chosen.map o.sectionOf)

end Order

/-! ## A file without settings -/

/-- A place without settings, where every file has one text. -/
def placeOf (t : Text) : Place := ⟨[], none, fun _ => .text t⟩

/-- The order to compile all of a file as the defaults have it. -/
def orderOf (t : Text) : Order where
  line := ⟨none, .compile, ["a"]⟩
  file := "a"
  options := ⟨none, none, false, []⟩
  settings := .defaults
  logger := ⟨Log.Level.warning.weight, 1⟩
  format := .script
  text := Text.normalizeNewlines t
  document := (Document.ofText (Text.normalizeNewlines t)).toOption.getD default

theorem orderOf_stands {t : Text} (h : (Document.ofText (Text.normalizeNewlines t)).isOk) :
    (orderOf t).Stands (placeOf t) ["compile", "a"] := by
  constructor
  · rfl
  · rfl
  · rfl
  · rfl
  · rfl
  · rfl
  · exact eq_ok_getD h default

/-! ## What an order prints -/

section

variable {o : Order} {place : Place} {arguments : List Text}

/-- An order comes down to its notebooks. A name or an id that no notebook has is refused before. -/
theorem Order.Stands.exec_program (h : o.Stands place arguments) (hchosen : o.options.notebook = none ∨ o.chosen ≠ []) :
    exec (program place.normalized arguments) .start =
      exec (printCompiled (contextOf o.options o.settings) (policyOf o.options o.settings) o.format o.chosen)
        { Session.start with logger := o.logger } := by
  have hsettings (s : Session) : exec (loadSettings place.normalized) s = (.ok o.settings, s) := by
    have hread : Settings.ofFile? place.normalized.environment place.normalized.settings? = .ok o.settings := h.settings
    rw [loadSettings, hread]
    rfl
  have hdocument (s : Session) : exec (loadDocument place.normalized (fileName o.file)) s = (.ok o.document, s) := by
    rw [loadDocument, h.text]
    simp only [h.document]
    rfl
  rw [program, h.line]
  dsimp only
  rw [runLine, exec_bind_ok (hsettings _), exec_bind_ok (exec_setLevel h.logger), h.command]
  dsimp only
  -- the command loads the settings again
  rw [runCommand, CommandLine.compile, exec_bind_ok (hsettings _)]
  simp only [h.format]
  rw [exec_bind_ok (hdocument _)]
  split
  · rename_i hname hnone
    rcases hchosen with hall | hsome
    · cases hname.symm.trans hall
    · exact absurd hnone hsome
  · rfl

theorem Order.sections_eq (o : Order) : sections o.format (o.chosen.map fun n => (n, o.compiled n)) = o.whole := by
  rw [sections, Order.whole, List.map_map, List.length_map]
  congr 1
  apply List.map_congr_left
  intro n _
  show sectionText o.format (decide (1 < o.chosen.length)) n (o.compiled n) = o.sectionOf n
  rw [sectionText, Order.sectionOf]
  by_cases hmany : 1 < o.chosen.length
  · rw [if_pos (by simpa using hmany), if_pos hmany]
  · rw [if_neg (by simpa using hmany), if_neg hmany]
    rfl

/-- What is compiled is printed after all of it is, or a message instead of it. -/
theorem exec_printCompiled (context : Code.Context) (policy : OnError) (format : Format) (ns : List Notebook) (s : Session) :
    exec (printCompiled context policy format ns) s =
      exec
        (match (compileEach (some context) policy ns).2 with
        | .ok done => echo (sections format done)
        | .error ⟨n, .block id f⟩ => refuse (Message.notCompiled n.name (f.message id))
        | .error ⟨_, f⟩ => finish (.broken (.compile f)))
        (s.addRecords (compileEach (some context) policy ns).1) :=
  exec_bind_ok (exec_log _ s) _

/-- If every notebook compiles, the sections are printed. -/
theorem Order.Stands.run_of_compiled (h : o.Stands place arguments) (hchosen : o.options.notebook = none ∨ o.chosen ≠ [])
    (hcompiled : ∀ n ∈ o.chosen, (o.compile n).isOk) :
    (Printable o.whole →
      exitCode (run place arguments).2 = 0 ∧ (run place arguments).1.output = Console.withoutSequences o.whole) ∧
    (¬ Printable o.whole → exitCode (run place arguments).2 = 1 ∧ (run place arguments).1.output = []) := by
  have hresult : (compileEach (some (contextOf o.options o.settings)) (policyOf o.options o.settings) o.chosen).2 =
      .ok (o.chosen.map fun n => (n, o.compiled n)) := compileEach_ok fun n hn => eq_ok_getD (hcompiled n hn) []
  have hexec := h.exec_program hchosen
  rw [exec_printCompiled, hresult] at hexec
  dsimp only at hexec
  rw [o.sections_eq, echo] at hexec
  rw [run]
  constructor
  · intro hprinted
    rw [(exec_print _ _ _).1 (Console.isSurrogate_withoutSequences.2 hprinted)] at hexec
    rw [outcome_eq_ok hexec]
    exact ⟨rfl, rfl⟩
  · intro hprinted
    obtain ⟨stretch, hprint⟩ := (exec_print _ _ _).2 fun hp => hprinted (Console.isSurrogate_withoutSequences.1 hp)
    rw [hprint] at hexec
    rw [outcome_eq_error hexec]
    exact ⟨rfl, rfl⟩

/-- If a notebook does not compile, the message for it is all that is printed. -/
theorem Order.Stands.run_of_fault (h : o.Stands place arguments) {before after : List Notebook} {n : Notebook}
    {f : CompileFault} (hchosen : o.chosen = before ++ n :: after) (hbefore : ∀ m ∈ before, (o.compile m).isOk)
    (hn : o.compile n = .error f) :
    exitCode (run place arguments).2 = 1 ∧ Tells n f (run place arguments).1.output := by
  have hresult : (compileEach (some (contextOf o.options o.settings)) (policyOf o.options o.settings) o.chosen).2 =
      .error ⟨n, f⟩ := by
    rw [hchosen]
    exact compileEach_error hbefore hn
  have hexec := h.exec_program (.inr (by simp [hchosen]))
  rw [exec_printCompiled, hresult] at hexec
  rw [run]
  cases f with
  | block id g =>
    -- the message is told before the end, which a surrogate in it brings about as well
    obtain ⟨shown, hshown⟩ := exists_print_notCompiled n.name (g.message id)
    obtain ⟨e, hcode, hrefuse⟩ := exec_refuse hshown _
    rw [hrefuse] at hexec
    rw [outcome_eq_error hexec]
    refine ⟨hcode, shown, hshown, ?_⟩
    split <;> rfl
  | _ =>
    rw [exec_finish] at hexec
    rw [outcome_eq_error hexec]
    exact ⟨rfl, rfl⟩

/-- A run that reaches its end has compiled every notebook and printed them. -/
theorem Order.Stands.of_done (h : o.Stands place arguments) (hchosen : o.options.notebook = none ∨ o.chosen ≠ [])
    (hdone : exitCode (run place arguments).2 = 0) :
    (∀ n ∈ o.chosen, (o.compile n).isOk) ∧ (run place arguments).1.output = Console.withoutSequences o.whole := by
  have hcompiled : ∀ n ∈ o.chosen, (o.compile n).isOk := by
    rcases first_fault o.chosen with hall | ⟨before, n, after, f, hsplit, hbefore, hn⟩
    · exact hall
    · cases (h.run_of_fault hsplit hbefore hn).1.symm.trans hdone
  obtain ⟨hprinted, hbroken⟩ := h.run_of_compiled hchosen hcompiled
  refine ⟨hcompiled, ?_⟩
  by_cases hp : Printable o.whole
  · exact (hprinted hp).2
  · cases (hbroken hp).1.symm.trans hdone

/-- All or nothing. If every notebook compiles, the output is their sections, less the sequences that steer a
terminal; with a surrogate in them it is nothing. If one does not compile, it is at most the message for it. -/
theorem sections_all_or_nothing (h : o.Stands place arguments) (hchosen : o.options.notebook = none ∨ o.chosen ≠ []) :
    ((∀ n ∈ o.chosen, (o.compile n).isOk) →
      (exitCode (run place arguments).2 = 0 ∧ (run place arguments).1.output = o.whole ↔
        Printable o.whole ∧ ¬ Console.Steers o.whole) ∧
      (Printable o.whole →
        exitCode (run place arguments).2 = 0 ∧ (run place arguments).1.output = Console.withoutSequences o.whole) ∧
      (¬ Printable o.whole → exitCode (run place arguments).2 = 1 ∧ (run place arguments).1.output = [])) ∧
    ∀ before n after f, o.chosen = before ++ n :: after → (∀ m ∈ before, (o.compile m).isOk) → o.compile n = .error f →
      exitCode (run place arguments).2 = 1 ∧ Tells n f (run place arguments).1.output := by
  constructor
  · intro hcompiled
    obtain ⟨hprinted, hbroken⟩ := h.run_of_compiled hchosen hcompiled
    refine ⟨?_, hprinted, hbroken⟩
    by_cases hp : Printable o.whole
    · obtain ⟨hcode, houtput⟩ := hprinted hp
      rw [houtput, Console.withoutSequences_eq_self]
      exact ⟨fun h => ⟨hp, h.2⟩, fun h => ⟨hcode, h.2⟩⟩
    · obtain ⟨hcode, -⟩ := hbroken hp
      constructor
      · rintro ⟨hzero, -⟩
        cases hcode.symm.trans hzero
      · rintro ⟨hp', -⟩
        exact absurd hp' hp
  · intro before n after f hsplit hbefore hn
    exact h.run_of_fault hsplit hbefore hn

end

/-- A document with an input whose value starts with the sequence for red letters. -/
def redText : Text :=
  "\x7bversion: v, metadata: \x7bcreatedAt: c\x7d, project: \x7bid: p, name: P, notebooks: [\x7bid: n, name: N, " ++
    "blocks: [\x7bid: b, type: input-text, sortingKey: k, metadata: \x7bdeepnote_variable_name: x, " ++
    "deepnote_variable_value: \"\\e[31mred\"\x7d\x7d]\x7d]\x7d\x7d"

/-- The script has a sequence in a literal, and the output has the literal without it. -/
theorem redText_loses_a_sequence :
    (orderOf redText).Stands (placeOf redText) ["compile", "a"] ∧ (orderOf redText).chosen ≠ [] ∧
      (∀ n ∈ (orderOf redText).chosen, ((orderOf redText).compile n).isOk) ∧
      (orderOf redText).whole = "x = '\x1b[31mred'\n" ∧
      exitCode (run (placeOf redText) ["compile", "a"]).2 = 0 ∧
      (run (placeOf redText) ["compile", "a"]).1.output = "x = 'red'\n" := by
  have hread : (Document.ofText (Text.normalizeNewlines redText)).isOk ∧ (orderOf redText).chosen ≠ [] ∧
      (∀ n ∈ (orderOf redText).chosen, ((orderOf redText).compile n).isOk) ∧
      (orderOf redText).whole = "x = '\x1b[31mred'\n" := by
    rw [redText]
    repeat rw [Text.ofString_ofList]
    decide +kernel
  obtain ⟨hdocument, hchosen, hcompiled, hwhole⟩ := hread
  have hstands := orderOf_stands hdocument
  have hprintable : Printable (orderOf redText).whole := by
    rw [hwhole]
    decide
  obtain ⟨-, hprinted, -⟩ := (sections_all_or_nothing hstands (.inr hchosen)).1 hcompiled
  obtain ⟨hcode, houtput⟩ := hprinted hprintable
  refine ⟨hstands, hchosen, hcompiled, hwhole, hcode, ?_⟩
  rw [houtput, hwhole]
  decide +kernel

end BlockNotebook.CommandLine
