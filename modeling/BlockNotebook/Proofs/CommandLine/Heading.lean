import BlockNotebook.Proofs.CommandLine.Compile
import BlockNotebook.Proofs.Text.Physical
/-!
What stands around the scripts of several notebooks.

Each script has a heading with the name of its notebook. A heading is a comment as far as the
first line of the name goes; what follows a line end in a name stands on lines of its own.
-/

namespace BlockNotebook.CommandLine

open Text Job

/-! ## Lines without code -/

/-- The line is blank or a comment. Blank is what separates tokens: spaces, tabs and form feeds. -/
def Silent (line : Text) : Prop :=
  (∀ c ∈ line, c = .char ' ' ∨ c = .char '\t' ∨ c = .char '\x0c') ∨ line.head? = some (.char '#')

instance (line : Text) : Decidable (Silent line) := inferInstanceAs (Decidable (_ ∨ _))

/-- No line of the text has code. -/
def IsSilent (t : Text) : Prop := ∀ line ∈ physicalLines t, Silent line

instance (t : Text) : Decidable (IsSilent t) := inferInstanceAs (Decidable (∀ line ∈ physicalLines t, Silent line))

/-- No line of the text after the first has code. -/
def IsSilentAfterFirst (t : Text) : Prop := ∀ line ∈ (physicalLines t).tail, Silent line

theorem silent_nil : Silent [] := .inl nofun

theorem isSilent_nil : IsSilent [] := by
  intro line hline
  rw [List.mem_singleton.1 hline]
  exact silent_nil

theorem isSilent_append (a b : Text) : IsSilent (a ++ .char '\n' :: b) ↔ IsSilent a ∧ IsSilent b :=
  forall_physicalLines_append silent_nil a b

theorem isSilent_newline (t : Text) : IsSilent (.char '\n' :: t) ↔ IsSilent t :=
  (isSilent_append [] t).trans (and_iff_right isSilent_nil)

/-! ## Headings -/

/-- The name of a notebook as its heading shows it. -/
def shownName (n : Notebook) : Text := Console.withoutSequences n.name

/-- The heading of a script, and the blank line below it. -/
def shownHeading (n : Notebook) : Text := "# Notebook: " ++ shownName n ++ "\n\n"

/-- What is printed in front of each script. -/
def surroundings : List Notebook → List Text
  | [] => []
  | n :: rest => shownHeading n :: rest.map fun n => "\n" ++ shownHeading n

/-- The first line of a heading is a comment, and the others are those of the name. -/
theorem isSilent_heading (name rest : Text) :
    IsSilent ("# Notebook: " ++ name ++ "\n\n" ++ rest) ↔ IsSilentAfterFirst name ∧ IsSilent rest := by
  have hsplit : "# Notebook: " ++ name ++ "\n\n" ++ rest =
      ("# Notebook: " ++ name) ++ .char '\n' :: .char '\n' :: rest := by
    rw [List.append_assoc _ (Text.ofString "\n\n") rest]
    rfl
  rw [hsplit, isSilent_append, isSilent_newline]
  apply and_congr_left'
  obtain ⟨first, others, hname, hheading⟩ :=
    physicalLines_append (a := Text.ofString "# Notebook: ") (by decide) (by decide) name
  rw [IsSilent, hheading, IsSilentAfterFirst, hname, List.forall_mem_cons, List.tail_cons]
  apply and_iff_right
  exact .inr rfl

theorem isSilent_surroundings (ns : List Notebook) :
    IsSilent (surroundings ns).flatten ↔ ∀ n ∈ ns, IsSilentAfterFirst (shownName n) := by
  -- all headings but the first follow a line feed
  have hrest (ns : List Notebook) : IsSilent (ns.map fun n => "\n" ++ shownHeading n).flatten ↔
      ∀ n ∈ ns, IsSilentAfterFirst (shownName n) := by
    induction ns with
    | nil => exact iff_of_true isSilent_nil nofun
    | cons n ns ih =>
      rw [List.map_cons, List.flatten_cons, List.forall_mem_cons, ← ih, ← isSilent_heading]
      exact isSilent_newline _
  cases ns with
  | nil => exact iff_of_true isSilent_nil nofun
  | cons n ns =>
    rw [surroundings, List.flatten_cons, List.forall_mem_cons, ← hrest, ← isSilent_heading]
    rfl

/-! ## The output of several scripts -/

theorem withoutSequences_heading (name rest : Text) :
    Console.withoutSequences ("# Notebook: " ++ name ++ "\n\n" ++ rest) =
      "# Notebook: " ++ Console.withoutSequences name ++ "\n\n" ++ Console.withoutSequences rest := by
  have hsplit (a b : Text) : a ++ Text.ofString "\n\n" ++ b = a ++ .char '\n' :: ([] ++ .char '\n' :: b) := by
    rw [List.append_assoc]
    rfl
  rw [hsplit, Console.withoutSequences_lines, Console.withoutSequences_lines,
    Console.withoutSequences_append (by decide), hsplit]
  rfl

theorem flatten_surroundings (script : Notebook → Text) (ns : List Notebook) :
    (List.zipWith (· ++ ·) (surroundings ns) (ns.map script)).flatten =
      joinWith "\n" (ns.map fun n => shownHeading n ++ script n) := by
  cases ns with
  | nil => rfl
  | cons n ns =>
    rw [surroundings, List.map_cons, List.map_cons, List.zipWith_cons_cons, List.flatten_cons, joinWith_cons,
      List.zipWith_map, List.zipWith_self, List.map_map]
    rfl

section

variable {o : Order} {place : Place} {arguments : List Text}

theorem Order.shown_section (hformat : o.format = .script) (hmany : 1 < o.chosen.length) (n : Notebook) :
    Console.withoutSequences (o.sectionOf n) =
      shownHeading n ++ Console.withoutSequences (Compiled.script (o.compiled n)) := by
  rw [Order.sectionOf, if_pos hmany, hformat]
  exact withoutSequences_heading n.name _

/-- A run that prints several scripts adds no code to them exactly if no name has code after its first line. -/
theorem headings_silent_iff (h : o.Stands place arguments) (hformat : o.format = .script) (hmany : 1 < o.chosen.length)
    (hdone : exitCode (run place arguments).2 = 0) :
    (∀ n ∈ o.chosen, (o.compile n).isOk) ∧
      (run place arguments).1.output =
        (List.zipWith (· ++ ·) (surroundings o.chosen)
          (o.chosen.map fun n => Console.withoutSequences (Compiled.script (o.compiled n)))).flatten ∧
      (IsSilent (surroundings o.chosen).flatten ↔ ∀ n ∈ o.chosen, IsSilentAfterFirst (shownName n)) := by
  have hne : o.chosen ≠ [] := by
    intro hnil
    rw [hnil] at hmany
    cases hmany
  obtain ⟨hcompiled, houtput⟩ := h.of_done (.inr hne) hdone
  refine ⟨hcompiled, ?_, isSilent_surroundings o.chosen⟩
  calc (run place arguments).1.output
      = Console.withoutSequences o.whole := houtput
    _ = joinWith "\n" ((o.chosen.map o.sectionOf).map Console.withoutSequences) :=
        Console.withoutSequences_joinWith _
    _ = joinWith "\n" (o.chosen.map fun n =>
          shownHeading n ++ Console.withoutSequences (Compiled.script (o.compiled n))) := by
        rw [List.map_map]
        congr 1
        apply List.map_congr_left
        intro n _
        exact Order.shown_section hformat hmany n
    _ = _ := (flatten_surroundings _ _).symm

end

/-- Two notebooks, of which the first one's name has a line end and code after it. -/
def splitNameText : Text :=
  "\x7bversion: v, metadata: \x7bcreatedAt: c\x7d, project: \x7bid: p, name: P, notebooks: " ++
    "[\x7bid: n, name: \"x\\nimport os\", blocks: []\x7d, \x7bid: m, name: y, blocks: []\x7d]\x7d\x7d"

/-- The heading of the first one is a comment and a line of code. -/
theorem splitName_adds_code :
    (orderOf splitNameText).Stands (placeOf splitNameText) ["compile", "a"] ∧
      1 < (orderOf splitNameText).chosen.length ∧ exitCode (run (placeOf splitNameText) ["compile", "a"]).2 = 0 ∧
      (run (placeOf splitNameText) ["compile", "a"]).1.output = "# Notebook: x\nimport os\n\n\n# Notebook: y\n\n" ∧
      ¬ IsSilent (surroundings (orderOf splitNameText).chosen).flatten ∧
      ∃ n ∈ (orderOf splitNameText).chosen, ¬ IsSilentAfterFirst (shownName n) := by
  have hread : (Document.ofText (normalizeNewlines splitNameText)).isOk ∧ 1 < (orderOf splitNameText).chosen.length ∧
      (∀ n ∈ (orderOf splitNameText).chosen, ((orderOf splitNameText).compile n).isOk) ∧
      Printable (orderOf splitNameText).whole ∧
      (List.zipWith (· ++ ·) (surroundings (orderOf splitNameText).chosen)
        ((orderOf splitNameText).chosen.map fun n =>
          Console.withoutSequences (Compiled.script ((orderOf splitNameText).compiled n)))).flatten =
        "# Notebook: x\nimport os\n\n\n# Notebook: y\n\n" ∧
      ¬ IsSilent (surroundings (orderOf splitNameText).chosen).flatten := by
    rw [splitNameText]
    repeat rw [ofString_ofList]
    decide +kernel
  obtain ⟨hdocument, hmany, hcompiled, hprintable, hshown, hcode⟩ := hread
  have hstands := orderOf_stands hdocument
  have hdone := ((hstands.run_of_compiled (.inl rfl) hcompiled).1 hprintable).1
  obtain ⟨-, houtput, hsilent⟩ := headings_silent_iff hstands rfl hmany hdone
  refine ⟨hstands, hmany, hdone, houtput.trans hshown, hcode, ?_⟩
  -- a name has the code, as otherwise the headings would be silent
  by_contra hnone
  apply hcode
  apply hsilent.2
  intro n hn
  by_contra hname
  exact hnone ⟨n, hn, hname⟩

end BlockNotebook.CommandLine
