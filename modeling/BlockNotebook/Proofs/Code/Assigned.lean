import BlockNotebook.Proofs.Code.Name
import BlockNotebook.Proofs.Code.Stored
import BlockNotebook.Proofs.Success
import BlockNotebook.Proofs.Text.Lines
/-!
The names that code assigns.

`assigned?` finds a name in the code alone: on the first line that begins with a name and goes on as an assignment. Of
every block that sets a variable it is what the name of its author becomes (`code_assigns`). That is an identifier, and
may be a keyword: no compiler looks at what `checkName` has to say about it.
-/

namespace BlockNotebook.Code

open Schema Text

/-! ## Assignments -/

/-- The name that a line assigns, if it begins with a name and goes on as an assignment. -/
def target? (line : Text) : Option Text :=
  let name := line.takeWhile isNamePoint
  if name.head?.any (·.satisfies startsName) && (ofString " = ").isPrefixOf (line.dropWhile isNamePoint) then some name
  else none

/-- The name that is assigned first in code, by a line that stands by itself. -/
def assigned? (code : Text) : Option Text := (split (.char '\n') code).findSome? target?

theorem ofString_append (s t : String) : ofString (s ++ t) = ofString s ++ ofString t := by
  rw [ofString, String.toList_append, ofChars, List.map_append]
  rfl

theorem target?_assign {name : String} (hname : Identifier name) (value : Text) :
    target? (assign name value) = some (ofString name) := by
  obtain ⟨c, rest, hhead, hstart⟩ := hname.starts
  have hends : (ofString " = " ++ value).takeWhile isNamePoint = [] := rfl
  have hvalue : (ofString " = " ++ value).dropWhile isNamePoint = ofString " = " ++ value := rfl
  have hcode : assign name value = ofString name ++ (ofString " = " ++ value) := List.append_assoc _ _ _
  have hstarts : (ofString name).head?.any (·.satisfies startsName) = true := by
    rw [hhead]
    exact hstart
  have hassigns : (ofString " = ").isPrefixOf (ofString " = " ++ value) = true :=
    List.isPrefixOf_iff_prefix.2 (List.prefix_append _ _)
  unfold target?
  rw [hcode, List.takeWhile_append_of_pos hname.holds, hname.dropWhile_append, hends, hvalue, List.append_nil]
  dsimp only
  rw [hstarts, hassigns]
  rfl

/-- An assignment at the head of code is the first one, whatever lines its value has. -/
theorem assigned?_assign {name : String} (hname : Identifier name) (value : Text) :
    assigned? (assign name value) = some (ofString name) := by
  have hline : CodePoint.char '\n' ∉ ofString name ++ ofString " = " := by
    intro hmem
    rcases List.mem_append.1 hmem with hmem | hmem
    · exact absurd (hname.holds _ hmem) (by decide)
    · exact absurd hmem (by decide)
  obtain ⟨first, others, -, hsplit⟩ := split_append_of_not_mem hline value
  have hfirst : target? (ofString name ++ ofString " = " ++ first) = some (ofString name) := target?_assign hname first
  show (split (.char '\n') (ofString name ++ ofString " = " ++ value)).findSome? target? = _
  rw [hsplit, List.findSome?_cons, hfirst]

/-- A line that assigns nothing does not matter. -/
theorem assigned?_line {line : Text} (hline : .char '\n' ∉ line) (htarget : target? line = none) (rest : Text) :
    assigned? (line ++ .char '\n' :: rest) = assigned? rest := by
  rw [assigned?, split_append_sep, split_of_not_mem hline, List.singleton_append, List.findSome?_cons, htarget, assigned?]

/-! ## Lines before an assignment -/

theorem assigned?_newline (rest : Text) : assigned? (ofString "\n" ++ rest) = assigned? rest := by
  have hempty : CodePoint.char '\n' ∉ ([] : Text) := List.not_mem_nil
  exact assigned?_line hempty rfl rest

/-- The code that sets up a table assigns nothing that is not indented. -/
theorem assigned?_table (state rest : Text) :
    assigned? (TableState.preamble (literal state) ++ ofString "\n\n" ++ rest) = assigned? rest := by
  have htest : ofString "if '_dntk' in globals():\n  _dntk.dataframe_utils.configure_dataframe_formatter(" =
      ofString "if '_dntk' in globals():" ++ (ofString "\n" ++
        ofString "  _dntk.dataframe_utils.configure_dataframe_formatter(") := by
    rw [← ofString_append, ← ofString_append]
    rfl
  have helse : ofString ")\nelse:\n  _deepnote_current_table_attrs = " =
      ofString ")" ++ (ofString "\n" ++ (ofString "else:" ++ (ofString "\n" ++
        ofString "  _deepnote_current_table_attrs = "))) := by
    rw [← ofString_append, ← ofString_append, ← ofString_append, ← ofString_append]
    rfl
  have hcall : CodePoint.char '\n' ∉
      ofString "  _dntk.dataframe_utils.configure_dataframe_formatter(" ++ (literal state ++ ofString ")") := by
    simp only [List.mem_append, not_or]
    exact ⟨by decide +kernel, literal_oneLine state, by decide +kernel⟩
  have hattrs : CodePoint.char '\n' ∉ ofString "  _deepnote_current_table_attrs = " ++ literal state := by
    simp only [List.mem_append, not_or]
    exact ⟨by decide +kernel, literal_oneLine state⟩
  have hlines : TableState.preamble (literal state) ++ ofString "\n\n" ++ rest =
      ofString "if '_dntk' in globals():" ++ .char '\n' ::
        ((ofString "  _dntk.dataframe_utils.configure_dataframe_formatter(" ++ (literal state ++ ofString ")")) ++
          .char '\n' :: (ofString "else:" ++ .char '\n' ::
            ((ofString "  _deepnote_current_table_attrs = " ++ literal state) ++ .char '\n' ::
              (ofString "\n" ++ rest)))) := by
    have hend : ofString "\n" = [.char '\n'] := rfl
    have hends : ofString "\n\n" = [.char '\n', .char '\n'] := rfl
    rw [TableState.preamble, htest, helse, hend, hends]
    simp
  rw [hlines, assigned?_line (by decide +kernel) rfl, assigned?_line hcall rfl, assigned?_line (by decide +kernel) rfl,
    assigned?_line hattrs rfl, assigned?_newline]

/-- What the code of dates imports. -/
def dateImports : List String := [
  dateImport, oldDateImport, "from datetime import datetime as _deepnote_datetime, timedelta as _deepnote_timedelta",
  "from datetime import datetime, timedelta"]

theorem assigned?_import {line : String} (h : line ∈ dateImports) (rest : Text) :
    assigned? (ofString line ++ (ofString "\n" ++ rest)) = assigned? rest := by
  have hlines : ∀ line ∈ dateImports, .char '\n' ∉ ofString line ∧ target? (ofString line) = none := by
    simp only [dateImports, dateImport, oldDateImport, List.forall_mem_cons]
    repeat rw [ofString_ofList]
    decide +kernel
  exact assigned?_line (hlines line h).1 (hlines line h).2 rest

theorem date_assigns {b : Block} (hname : Identifier (variableOf b)) :
    assigned? (date b) = some (ofString (variableOf b)) := by
  have himport (isNew : Bool) : (if isNew then dateImport else oldDateImport) ∈ dateImports := by
    cases isNew <;> simp [dateImports]
  -- The code begins with an empty line, and may go on with an import.
  unfold date
  dsimp only
  split
  · rw [List.append_assoc, assigned?_newline, assign, List.append_assoc, ← assign, assigned?_assign hname]
  · simp only [List.append_assoc]
    rw [assigned?_newline, assigned?_import (himport _), assign, List.append_assoc, ← assign, assigned?_assign hname]

theorem lastWeek_assigns {name : String} (hname : Identifier name) :
    assigned? (lastWeekCode name) = some (ofString name) := by
  have himport : ofString "from datetime import datetime as _deepnote_datetime, timedelta as _deepnote_timedelta\n" =
      ofString "from datetime import datetime as _deepnote_datetime, timedelta as _deepnote_timedelta" ++
        ofString "\n" := by
    rw [← ofString_append]
    rfl
  rw [lastWeekCode, himport, List.append_assoc, assigned?_import (by simp [dateImports]), assigned?_assign hname]

theorem lastDays_assigns {name : String} (hname : Identifier name) (days : Nat) :
    assigned? (lastDaysCode name days) = some (ofString name) := by
  have himport : ofString "from datetime import datetime, timedelta\n" =
      ofString "from datetime import datetime, timedelta" ++ ofString "\n" := by
    rw [← ofString_append]
    rfl
  rw [lastDaysCode, himport, List.append_assoc, assigned?_import (by simp [dateImports]), assigned?_assign hname]

theorem dateRange_assigns {b : Block} (hname : Identifier (variableOf b)) {code : Text} (h : dateRange b = .ok code) :
    assigned? code = some (ofString (variableOf b)) := by
  unfold dateRange at h
  dsimp only at h
  split at h
  · split at h
    · obtain rfl := Except.ok.inj h
      rw [List.append_assoc, assigned?_import (by simp [dateImports]), assigned?_assign hname]
    · cases h
  · split at h
    · obtain rfl := Except.ok.inj h
      exact lastWeek_assigns hname
    · split at h
      · cases h
      · split at h
        · obtain rfl := Except.ok.inj h
          exact lastDays_assigns hname _
        · cases h
      · cases h

/-! ## Blocks that set a variable -/

def inputKinds : List Kind := [
  .inputText, .inputTextarea, .inputCheckbox, .inputSelect, .inputSlider, .inputFile, .inputDate, .inputDateRange]

/-- The block is to set a variable: it is an input, a query with a name, or a button that says so. -/
inductive SetsVariable (b : Block) : Kind → Prop
  | input {k : Kind} (hk : k ∈ inputKinds) : SetsVariable b k
  | query (hname : (b.metadata.text? "deepnote_variable_name").getD [] ≠ []) : SetsVariable b .sql
  | button (hbehavior : b.metadata.text? "deepnote_button_behavior" = some "set_variable") : SetsVariable b .button

/-- An input assigns the name that it stores. -/
theorem input_assigns {b : Block} (hb : b.IsRead) {k : Kind} (hk : k ∈ inputKinds) (hform : b.form = some k)
    {context : Option Context} {code : Text} (hc : b.codeOf context k = .ok code) :
    ∃ name, b.metadata.text? "deepnote_variable_name" = some name ∧ assigned? code = some (ofString (nameOf name)) := by
  obtain ⟨name, hname⟩ : ∃ name, b.Stores "deepnote_variable_name" (.str name) := by
    refine stores_text hb hform _ ?_
    cases k <;> first | rfl | exact absurd hk (by decide)
  have hvariable := variableOf_stored hname
  have hidentifier : Identifier (variableOf b) := by
    rw [hvariable]
    exact nameOf_identifier name
  refine ⟨name, hname.text?, ?_⟩
  rw [← hvariable]
  cases k with
  | inputText | inputTextarea | inputCheckbox | inputSelect | inputSlider | inputFile =>
    obtain rfl := Except.ok.inj hc
    exact assigned?_assign hidentifier _
  | inputDate =>
    obtain rfl := Except.ok.inj hc
    exact date_assigns hidentifier
  | inputDateRange =>
    exact dateRange_assigns hidentifier hc
  | _ => exact absurd hk (by decide)

theorem query_assigns {b : Block} (hname : (b.metadata.text? "deepnote_variable_name").getD [] ≠ []) {code : Text}
    (hc : query b = .ok code) :
    ∃ name, b.metadata.text? "deepnote_variable_name" = some name ∧ assigned? code = some (ofString (nameOf name)) := by
  cases ht : b.metadata.text? "deepnote_variable_name" with
  | none => exact absurd (by rw [ht]; rfl) hname
  | some name =>
    rw [ht, Option.getD_some] at hname
    have hstatement : assigned? (statement b) = some (ofString (nameOf name)) := by
      unfold statement
      simp only [ht, Option.getD_some]
      rw [if_neg (by simpa using hname)]
      exact assigned?_assign (nameOf_identifier name) _
    refine ⟨name, rfl, ?_⟩
    rcases query_eq_ok hc with ⟨-, rfl⟩ | ⟨state, t, -, -, rfl⟩
    · exact hstatement
    · rw [assigned?_table, hstatement]

theorem button_assigns {b : Block} (hbehavior : b.metadata.text? "deepnote_button_behavior" = some "set_variable")
    {context : Option Context} {code : Text} (hc : button context b = .ok code) :
    ∃ name, b.metadata.text? "deepnote_variable_name" = some name ∧ assigned? code = some (ofString (nameOf name)) := by
  unfold button at hc
  simp only [hbehavior, bne_self_eq_false, Bool.false_eq_true, if_false] at hc
  split at hc
  · cases hc
  · rename_i hempty
    cases ht : b.metadata.text? "deepnote_variable_name" with
    | none =>
      rw [ht] at hempty
      exact absurd rfl hempty
    | some name =>
      rw [ht] at hc
      cases hc
      exact ⟨name, rfl, assigned?_assign (nameOf_identifier name) _⟩

/-! ## Keywords -/

theorem nameOf_nameOf (name : Text) : nameOf (ofString (nameOf name)) = nameOf name :=
  ofString_inj.1 ((variableName_eq_self_iff _ false).2 (.inl (nameOf_identifier name)))

theorem isValid_checkName_iff (name : Text) : (checkName name).isValid ↔ nameOf name ∉ keywords := by
  simp only [NameReport.isValid, checkName, isKeyword, Bool.not_eq_true', ← Bool.not_eq_true, List.any_eq_true, not_exists,
    ofString_beq, beq_iff_eq, not_and]
  exact ⟨fun h hmem => h _ hmem rfl, fun h word hword he => h (he ▸ hword)⟩

/-- A block that is to set a variable and has code assigns what the name it stores becomes. That is an identifier, and
there is the same to say about it as about the stored name. So it is a valid variable unless the stored name becomes
a keyword. -/
theorem code_assigns {v : Value} {b : Block} (hb : Block.read v = .ok b) {k : Kind} (hk : b.kind? = some k)
    (hsets : SetsVariable b k) {context : Option Context} {code : Text} (hc : b.code context = .ok code) :
    ∃ name, b.metadata.text? "deepnote_variable_name" = some name ∧ assigned? code = some (ofString (nameOf name)) ∧
      Identifier (nameOf name) ∧ checkName (ofString (nameOf name)) = checkName name ∧
      ((checkName (ofString (nameOf name))).isValid ↔ nameOf name ∉ keywords) := by
  have hread := Block.isRead_of_read hb
  obtain ⟨hform, hcode⟩ := form_of_code hread hk hc
  obtain ⟨name, hname, hassigned⟩ : ∃ name, b.metadata.text? "deepnote_variable_name" = some name ∧
      assigned? code = some (ofString (nameOf name)) := by
    cases hsets with
    | input hinput => exact input_assigns hread hinput hform hcode
    | query hname => exact query_assigns hname hcode
    | button hbehavior => exact button_assigns hbehavior hcode
  have hagain : checkName (ofString (nameOf name)) = checkName name := by rw [checkName, nameOf_nameOf, checkName]
  exact ⟨name, hname, hassigned, nameOf_identifier name, hagain, by rw [hagain, isValid_checkName_iff]⟩

/-- An input whose name is no keyword, and becomes one. -/
def keywordInput : Value := .map [
  (.str "id", .str "a"), (.str "type", .str "input-text"), (.str "sortingKey", .str "0"),
  (.str "metadata", .map [(.str "deepnote_variable_name", .str "1for"), (.str "deepnote_variable_value", .str "x")])]

/-- It has code, and the code assigns the keyword. -/
theorem keywordInput_code_assigns : ∃ b code, Block.read keywordInput = .ok b ∧ b.kind? = some .inputText ∧
    b.code none = .ok code ∧ code = ofString "for = 'x'" ∧ assigned? code = some (ofString "for") ∧
    (checkName (ofString "for")).isValid = false := by
  have h : ((Block.read keywordInput).toOption.map fun b =>
      (b.kind?, (b.code none).toOption, b.metadata.text? "deepnote_variable_name")) =
      some (some .inputText, some (ofString "for = 'x'"), some (ofString "1for")) := by
    rw [keywordInput]
    repeat rw [ofString_ofList]
    decide +kernel
  obtain ⟨b, hb, hparts⟩ := exists_of_toOption h
  obtain ⟨hk, hparts⟩ := Prod.mk.inj hparts
  obtain ⟨hcode, hstored⟩ := Prod.mk.inj hparts
  obtain ⟨code, hc, rfl⟩ : ∃ code, b.code none = .ok code ∧ ofString "for = 'x'" = code := by
    cases hc : b.code none with
    | error f => rw [hc] at hcode; cases hcode
    | ok code => rw [hc] at hcode; exact ⟨code, rfl, (Option.some_inj.1 hcode).symm⟩
  obtain ⟨name, hname, hassigned, -, -, hvalid⟩ := code_assigns hb hk (.input (by decide)) hc
  obtain rfl : ofString "1for" = name := Option.some_inj.1 (hstored.symm.trans hname)
  have hfor : nameOf (ofString "1for") = "for" := by decide +kernel
  rw [hfor] at hassigned hvalid
  exact ⟨b, _, hb, hk, hc, rfl, hassigned, Bool.eq_false_iff.2 fun h => absurd (hvalid.1 h) (by decide)⟩

end BlockNotebook.Code
