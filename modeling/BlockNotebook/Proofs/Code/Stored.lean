import BlockNotebook.Proofs.Code.Reading
import BlockNotebook.Proofs.Block.Form
/-!
Stored texts stay inside the literals of the code they are compiled to.

Every kind whose code holds stored texts as literals has a few frames, and its
code reads as one of them in one way only. What the literals stand for is what
the block stores, so that nothing of a stored text is read as code: outside of
the literals there is the fixed text of the frame and a name.
-/

namespace BlockNotebook.Code

open Schema Text

/-! ## Frames -/

/-- A name with what it is assigned. -/
def assigned (value : Frame) : Frame := [.name] ++ fixed " = " ++ value

def absent : Frame := fixed "None"

/-- A date that is parsed when the code runs, as one of the versions of date inputs imports the parser. -/
def parsed (isNew : Bool) : Frame :=
  let imported := if isNew then "from dateutil.parser import parse as _deepnote_parse"
    else "import dateutil.parser as _deepnote_dateutil_parser"
  let call := if isNew then "_deepnote_parse" else "_deepnote_dateutil_parser.parse"
  fixed "\n" ++ fixed imported ++ fixed "\n" ++
    assigned (fixed call ++ fixed "(" ++ [.literal] ++ fixed ").date()") ++ fixed "\n"

/-- The code that hands a table state to the formatter. -/
def tableFrame : Frame :=
  fixed "if '_dntk' in globals():\n  _dntk.dataframe_utils.configure_dataframe_formatter(" ++ [.literal] ++
    fixed ")\nelse:\n  _deepnote_current_table_attrs = " ++ [.literal]

/-- The call that runs a query. -/
def callFrame (returnType : String) : Frame :=
  fixed "_dntk.execute_sql(\n  " ++ [.literal] ++ fixed ",\n  " ++ [.literal] ++
    fixed ",\n  audit_sql_comment='',\n  sql_cache_mode='cache_disabled',\n  return_variable_type='" ++
    fixed returnType ++ fixed "'\n)"

/-- The code of a query, with a table state before it or not, and assigned to a name or not. -/
def queryFrame (hasState hasName : Bool) (returnType : String) : Frame :=
  let statement := if hasName then assigned (callFrame returnType) else callFrame returnType
  if hasState then tableFrame ++ fixed "\n\n" ++ statement else statement

/-- The frames of the code of a kind whose literals hold what a block stores. -/
def framesOf : Kind → List Frame
  | .inputText | .inputTextarea => [assigned [.literal]]
  | .inputFile => [assigned [.literal], assigned absent]
  | .inputSelect => [assigned [.literal], assigned absent, assigned [.literals]]
  | .inputDate => [parsed true, parsed false, fixed "\n" ++ assigned absent ++ fixed "\n"]
  | .sql => ["dataframe", "query_preview"].flatMap fun returnType =>
      [queryFrame true true returnType, queryFrame true false returnType, queryFrame false true returnType,
        queryFrame false false returnType]
  | _ => []

theorem framesOf_unambiguous (k : Kind) : Frame.AreUnambiguous (framesOf k) := by
  cases k
  case sql =>
    simp only [framesOf, queryFrame, tableFrame, callFrame, fixed, List.flatMap_cons, List.flatMap_nil]
    repeat rw [ofString_ofList]
    decide +kernel
  all_goals decide +kernel

/-! ## What literals hold -/

/-- What stands at a place, once the escapes of its literals are undone. -/
inductive Content
  | name (t : Text)
  | text (t : Text)
  | texts (ts : List Text)
  deriving DecidableEq, Repr

def Slot.content? : Slot → Option Content
  | .name t => some (.name t)
  | .literal body => (unescape body).map .text
  | .literals bodies => (bodies.mapM unescape).map .texts

/-- The slot in which content is written. -/
def Content.slot : Content → Slot
  | .name t => .name t
  | .text t => .literal (escaped t)
  | .texts ts => .literals (ts.map escaped)

theorem mapM_unescape_escaped (ts : List Text) : (ts.map escaped).mapM unescape = some ts := by
  induction ts with
  | nil => rfl
  | cons t rest ih => simp [unescape_escaped, ih]

theorem content?_slot (c : Content) : c.slot.content? = some c := by
  cases c with
  | name t => rfl
  | text t => simp [Content.slot, Slot.content?, unescape_escaped]
  | texts ts => rw [Content.slot, Slot.content?, mapM_unescape_escaped, Option.map_some]

/-- The JSON text of the table state of a block, if it has a state. -/
inductive StateText (b : Block) : Option Text → Prop
  | none (h : tableState b = none) : StateText b none
  | some {state : Checked} {t : Text} (h : tableState b = some state) (ht : TableState.json (some state) = .ok t) :
      StateText b (some t)

/-- The name to which a query is assigned, if its author gives one. -/
inductive Target (b : Block) : Option Text → Prop
  | none (h : (b.metadata.text? "deepnote_variable_name").getD [] = []) : Target b none
  | some {name : Text} (h : b.metadata.text? "deepnote_variable_name" = some name) (hname : name ≠ []) :
      Target b (some (nameOf name))

/-- The code of a block of a kind is to read as a frame that holds the contents: what the block stores. -/
inductive Shows (b : Block) : Kind → Frame → List Content → Prop
  | typed {k : Kind} {name t : Text} (hk : k = .inputText ∨ k = .inputTextarea)
      (hname : b.Stores "deepnote_variable_name" (.str name)) (ht : b.Stores "deepnote_variable_value" (.str t)) :
      Shows b k (assigned [.literal]) [.name (nameOf name), .text t]
  | file {name t : Text} (hname : b.Stores "deepnote_variable_name" (.str name))
      (ht : b.Stores "deepnote_variable_value" (.str t)) (hne : t ≠ []) :
      Shows b .inputFile (assigned [.literal]) [.name (nameOf name), .text t]
  | noFile {name : Text} (hname : b.Stores "deepnote_variable_name" (.str name))
      (ht : b.Stores "deepnote_variable_value" (.str [])) :
      Shows b .inputFile (assigned absent) [.name (nameOf name)]
  | one {name t : Text} (hname : b.Stores "deepnote_variable_name" (.str name))
      (ht : b.Stores "deepnote_variable_value" (.str t)) (hne : t ≠ [])
      (hmany : b.metadata.isSet "deepnote_allow_multiple_values" = false) :
      Shows b .inputSelect (assigned [.literal]) [.name (nameOf name), .text t]
  | noOne {name : Text} (hname : b.Stores "deepnote_variable_name" (.str name))
      (ht : b.Stores "deepnote_variable_value" (.str []))
      (hmany : b.metadata.isSet "deepnote_allow_multiple_values" = false) :
      Shows b .inputSelect (assigned absent) [.name (nameOf name)]
  | oneOfMany {name t : Text} (hname : b.Stores "deepnote_variable_name" (.str name))
      (ht : b.Stores "deepnote_variable_value" (.str t)) (hne : t ≠ [])
      (hmany : b.metadata.isSet "deepnote_allow_multiple_values") :
      Shows b .inputSelect (assigned [.literals]) [.name (nameOf name), .texts [t]]
  | noneOfMany {name : Text} (hname : b.Stores "deepnote_variable_name" (.str name))
      (ht : b.Stores "deepnote_variable_value" (.str []))
      (hmany : b.metadata.isSet "deepnote_allow_multiple_values") :
      Shows b .inputSelect (assigned [.literals]) [.name (nameOf name), .texts []]
  | several {name : Text} {ts : List Text} (hname : b.Stores "deepnote_variable_name" (.str name))
      (hts : b.Stores "deepnote_variable_value" (.list (ts.map .str))) :
      Shows b .inputSelect (assigned [.literals]) [.name (nameOf name), .texts ts]
  | date {name t : Text} {isNew : Bool} (hname : b.Stores "deepnote_variable_name" (.str name))
      (ht : b.Stores "deepnote_variable_value" (.str t)) (hne : t ≠ [])
      (hnew : isNew ↔ ∃ version : Int, b.Stores "deepnote_input_date_version" (.int version) ∧ 2 ≤ version) :
      Shows b .inputDate (parsed isNew) [.name (nameOf name), .text t]
  | noDate {name : Text} (hname : b.Stores "deepnote_variable_name" (.str name))
      (ht : b.Stores "deepnote_variable_value" (.str [])) :
      Shows b .inputDate (fixed "\n" ++ assigned absent ++ fixed "\n") [.name (nameOf name)]
  | query {state target : Option Text} {returnType : String} (hstate : StateText b state) (htarget : Target b target)
      (htype : (b.metadata.text? "deepnote_return_variable_type").getD "dataframe" = returnType) :
      Shows b .sql (queryFrame state.isSome target.isSome returnType)
        ((state.toList.flatMap fun t => [.text t, .text t]) ++ (target.toList.map .name ++
          [.text b.text, .text (connectionVariable ((b.metadata.text? "sql_integration_id").getD []))]))

/-! ## Code reads as a frame of its contents -/

/-- Code is the frame with the contents written in its places. -/
def Writes (p : Frame) (code : Text) (contents : List Content) : Prop := ReadsAs p code (contents.map Content.slot)

namespace Writes

theorem fixed (s : String) : Writes (Code.fixed s) (ofString s) [] := ReadsAs.fixed s

theorem append {p q : Frame} {t u : Text} {cs ds : List Content} (h : Writes p t cs) (h' : Writes q u ds) :
    Writes (p ++ q) (t ++ u) (cs ++ ds) := by
  unfold Writes
  rw [List.map_append]
  exact ReadsAs.append h h'

theorem absent : Writes Code.absent nothing [] := fixed "None"

theorem name (author : Text) : Writes [.name] (nameOf author) [.name (nameOf author)] := by
  have h := ReadsAs.name (nameOf_identifier author) .done
  rwa [List.append_nil] at h

theorem literal (t : Text) : Writes [.literal] (Code.literal t) [.text t] := by
  have h := ReadsAs.literal (escaped_body t) .done
  rwa [List.append_nil] at h

theorem literals (ts : List Text) : Writes [.literals] (literalList ts) [.texts ts] := by
  have hbodies : ∀ body ∈ ts.map escaped, LiteralBody body := by
    intro body hbody
    obtain ⟨t, -, rfl⟩ := List.mem_map.1 hbody
    exact escaped_body t
  have h := ReadsAs.literals hbodies .done
  rw [List.append_nil] at h
  have hlist : listed (ts.map escaped) = literalList ts := by
    unfold listed literalList
    rw [List.map_map]
    rfl
  rwa [hlist] at h

theorem assigned (author : Text) {p : Frame} {t : Text} {cs : List Content} (h : Writes p t cs) :
    Writes (Code.assigned p) (assign (nameOf author) t) (.name (nameOf author) :: cs) :=
  ((name author).append (fixed " = ")).append h

theorem parsed (isNew : Bool) (author t : Text) :
    Writes (Code.parsed isNew)
      ("\n" ++ (if isNew then dateImport else oldDateImport) ++ "\n" ++
        assign (nameOf author) (parsedDate (if isNew then dateCall else oldDateCall) t) ++ "\n")
      [.name (nameOf author), .text t] := by
  have himport : Writes _ _ [] := ((fixed "\n").append (fixed (if isNew then dateImport else oldDateImport))).append
    (fixed "\n")
  have hcall : Writes _ _ [.text t] := (((fixed (if isNew then dateCall else oldDateCall)).append (fixed "(")).append
    (literal t)).append (fixed ").date()")
  exact (himport.append (assigned author hcall)).append (fixed "\n")

end Writes

/-! ## The compilers of the kinds -/

/-- The code of a block of the kind holds what the block stores. -/
def Holds (b : Block) (k : Kind) (code : Text) : Prop :=
  ∃ frame ∈ framesOf k, ∃ contents, Writes frame code contents ∧ Shows b k frame contents

theorem variableOf_stored {b : Block} {name : Text} (h : b.Stores "deepnote_variable_name" (.str name)) :
    variableOf b = nameOf name := by
  rw [variableOf, h.text?]
  rfl

theorem storedText_stored {b : Block} {t : Text} (h : b.Stores "deepnote_variable_value" (.str t)) :
    storedText b = t := by
  rw [storedText, h.text?]
  rfl

theorem literalOrNothing_nil : literalOrNothing [] = nothing := rfl

theorem literalOrNothing_of_ne_nil {t : Text} (h : t ≠ []) : literalOrNothing t = literal t := by
  cases t with
  | nil => exact absurd rfl h
  | cons c rest => rfl

theorem textInput_holds {b : Block} {k : Kind} (hk : k = .inputText ∨ k = .inputTextarea) {name t : Text}
    (hname : b.Stores "deepnote_variable_name" (.str name)) (ht : b.Stores "deepnote_variable_value" (.str t)) :
    Holds b k (textInput b) := by
  refine ⟨assigned [.literal], ?_, _, ?_, .typed hk hname ht⟩
  · rcases hk with rfl | rfl <;> exact List.mem_singleton_self _
  · rw [textInput, variableOf_stored hname, storedText_stored ht]
    exact .assigned name (.literal t)

theorem file_holds {b : Block} {name t : Text} (hname : b.Stores "deepnote_variable_name" (.str name))
    (ht : b.Stores "deepnote_variable_value" (.str t)) : Holds b .inputFile (file b) := by
  rw [file, variableOf_stored hname, storedText_stored ht]
  by_cases hne : t = []
  · subst hne
    rw [literalOrNothing_nil]
    exact ⟨_, by simp [framesOf], _, .assigned name .absent, .noFile hname ht⟩
  · rw [literalOrNothing_of_ne_nil hne]
    exact ⟨_, by simp [framesOf], _, .assigned name (.literal t), .file hname ht hne⟩

theorem textsOf_map (ts : List Text) : textsOf (ts.map .str) = ts := by
  induction ts with
  | nil => rfl
  | cons t rest ih => rw [textsOf, List.map_cons, List.filterMap_cons]; exact congrArg (t :: ·) ih

theorem select_holds {b : Block} {name : Text} {c : Checked} (hname : b.Stores "deepnote_variable_name" (.str name))
    (hc : b.metadata.field? "deepnote_variable_value" = some c) (hfit : Fits .textOrTexts c) :
    Holds b .inputSelect (select b) := by
  rw [select, variableOf_stored hname]
  cases hfit with
  | oneText t =>
    have ht : b.Stores "deepnote_variable_value" (.str t) := hc
    simp only [ht.data]
    -- A text may stand for a selection of several, and is then a list of one or of none.
    cases hmany : b.metadata.isSet "deepnote_allow_multiple_values" with
    | true =>
      by_cases hne : t = []
      · subst hne
        exact ⟨_, by simp [framesOf], _, .assigned name (.literals []), .noneOfMany hname ht hmany⟩
      · rw [if_pos rfl, if_neg (by simpa using hne)]
        exact ⟨_, by simp [framesOf], _, .assigned name (.literals [t]), .oneOfMany hname ht hne hmany⟩
    | false =>
      by_cases hne : t = []
      · subst hne
        exact ⟨_, by simp [framesOf], _, .assigned name .absent, .noOne hname ht hmany⟩
      · rw [literalOrNothing_of_ne_nil hne]
        exact ⟨_, by simp [framesOf], _, .assigned name (.literal t), .one hname ht hne hmany⟩
  | texts ts =>
    have hts : b.Stores "deepnote_variable_value" (.list (ts.map .str)) := hc
    simp only [hts.data, textsOf_map]
    exact ⟨_, by simp [framesOf], _, .assigned name (.literals ts), .several hname hts⟩

theorem date_holds {b : Block} {name t : Text} {c : Checked}
    (hname : b.Stores "deepnote_variable_name" (.str name)) (ht : b.Stores "deepnote_variable_value" (.str t))
    (hc : b.metadata.field? "deepnote_input_date_version" = some c) (hfit : Fits (.nullable .whole) c) :
    Holds b .inputDate (date b) := by
  rw [date, variableOf_stored hname, storedText_stored ht]
  by_cases hne : t = []
  · subst hne
    exact ⟨_, by simp [framesOf], _, ((Writes.fixed "\n").append (.assigned name .absent)).append (.fixed "\n"),
      .noDate hname ht⟩
  rw [if_neg (by simpa using hne)]
  refine ⟨_, ?_, _, .parsed _ name t, .date hname ht hne ?_⟩
  · cases decide (2 ≤ (b.metadata.whole? "deepnote_input_date_version").getD 1) <;> simp [framesOf]
  · rw [decide_eq_true_iff, Checked.whole?, hc]
    constructor
    · intro hle
      cases hfit with
      | null => exact absurd hle (by decide)
      | given hfit =>
        cases hfit with
        | whole version => exact ⟨version, hc, hle⟩
    · rintro ⟨version, hversion, hle⟩
      cases Option.some_inj.1 (hc.symm.trans hversion)
      exact hle

/-! ## Queries -/

theorem Writes.call (query connection : Text) (returnType : String) :
    Writes (callFrame returnType) (queryCall query connection returnType) [.text query, .text connection] := by
  have hquery : Writes _ _ [.text query] := (fixed "_dntk.execute_sql(\n  ").append (literal query)
  have hconnection : Writes _ _ [.text query, .text connection] :=
    (hquery.append (fixed ",\n  ")).append (literal connection)
  exact ((hconnection.append (fixed _)).append (fixed returnType)).append (fixed "'\n)")

theorem Writes.table (state : Text) :
    Writes tableFrame (TableState.preamble (Code.literal state)) [.text state, .text state] :=
  (((fixed _).append (literal state)).append (fixed _)).append (literal state)

/-- The code of a query without the code of its table. -/
def statement (b : Block) : Text :=
  let call := queryCall b.text (connectionVariable ((b.metadata.text? "sql_integration_id").getD []))
    ((b.metadata.text? "deepnote_return_variable_type").getD "dataframe")
  let name := (b.metadata.text? "deepnote_variable_name").getD []
  if name.isEmpty then call else assign (nameOf name) call

theorem query_eq_ok {b : Block} {code : Text} (h : query b = .ok code) :
    (tableState b = none ∧ code = statement b) ∨
      ∃ state t, tableState b = some state ∧ TableState.json (some state) = .ok t ∧
        code = TableState.preamble (literal t) ++ "\n\n" ++ statement b := by
  unfold query at h
  cases hs : tableState b with
  | none =>
    rw [hs] at h
    exact .inl ⟨rfl, (Except.ok.inj h).symm⟩
  | some state =>
    rw [hs] at h
    cases ht : TableState.json (some state) with
    | error f => simp [TableState.code, ht, Except.map, bind, Except.bind] at h
    | ok t =>
      simp only [TableState.code, ht] at h
      exact .inr ⟨state, t, rfl, ht, (Except.ok.inj h).symm⟩

theorem statement_writes {b : Block} {returnType : String}
    (htype : (b.metadata.text? "deepnote_return_variable_type").getD "dataframe" = returnType) :
    ∃ target, Target b target ∧
      Writes (if target.isSome then assigned (callFrame returnType) else callFrame returnType) (statement b)
        (target.toList.map .name ++
          [.text b.text, .text (connectionVariable ((b.metadata.text? "sql_integration_id").getD []))]) := by
  unfold statement
  rw [htype]
  by_cases hname : (b.metadata.text? "deepnote_variable_name").getD [] = []
  · rw [hname]
    exact ⟨none, .none hname, .call _ _ _⟩
  · cases ht : b.metadata.text? "deepnote_variable_name" with
    | none => rw [ht] at hname; exact absurd rfl hname
    | some name =>
      rw [ht, Option.getD_some] at hname
      simp only [Option.getD_some]
      rw [if_neg (by simpa using hname)]
      exact ⟨some (nameOf name), .some ht hname, .assigned name (.call _ _ _)⟩

theorem query_holds {b : Block} {code : Text} (h : query b = .ok code) {c : Checked}
    (hc : b.metadata.field? "deepnote_return_variable_type" = some c)
    (hfit : Fits (.nullable (.choice ["dataframe", "query_preview"])) c) : Holds b .sql code := by
  obtain ⟨returnType, hmem, htype⟩ : ∃ returnType ∈ ["dataframe", "query_preview"],
      (b.metadata.text? "deepnote_return_variable_type").getD "dataframe" = Text.ofString returnType := by
    rw [Checked.text?, hc]
    cases hfit with
    | null => exact ⟨"dataframe", by simp, rfl⟩
    | given hfit =>
      cases hfit with
      | @choice _ option hoption => exact ⟨option, hoption, rfl⟩
  obtain ⟨target, htarget, hwrites⟩ := statement_writes htype
  have hframe : ∀ hasState hasName, queryFrame hasState hasName returnType ∈ framesOf .sql := by
    intro hasState hasName
    refine List.mem_flatMap.2 ⟨returnType, hmem, ?_⟩
    cases hasState <;> cases hasName <;> simp
  -- With a table state or without, the statement stands at the end.
  rcases query_eq_ok h with ⟨hnone, rfl⟩ | ⟨state, t, hstate, hjson, rfl⟩
  · exact ⟨_, hframe false target.isSome, _, hwrites, .query (.none hnone) htarget htype⟩
  · exact ⟨_, hframe true target.isSome, _, ((Writes.table t).append (.fixed "\n\n")).append hwrites,
      .query (.some hstate hjson) htarget htype⟩

/-! ## Every kind -/

/-- The kinds whose code holds stored texts as literals. -/
def literalKinds : List Kind := [.inputText, .inputTextarea, .inputFile, .inputSelect, .inputDate, .sql]

/-- A block compiles to code only if its kind does and it has the form of its kind. -/
theorem form_of_code {b : Block} (hb : b.IsRead) {k : Kind} (hk : b.kind? = some k) {context : Option Context}
    {code : Text} (hc : b.code context = .ok code) : b.form = some k ∧ b.codeOf context k = .ok code := by
  have hfirst : ∀ k ∈ Kind.all, k.hasCode → (firstField? k).isNone = false := by decide
  unfold Block.code at hc
  rw [hk] at hc
  dsimp only at hc
  split at hc
  · cases hc
  rename_i hcode
  have hcode : k.hasCode := by simpa using hcode
  rw [hasForm, hfirst k (Kind.mem_all k) hcode, Bool.or_false] at hc
  split at hc
  · rename_i hform
    obtain ⟨j, hj⟩ := Option.isSome_iff_exists.1 hform
    obtain rfl := Block.form_eq_kind hb hj hk hcode
    exact ⟨hj, hc⟩
  · cases hc

theorem stores_text {b : Block} (hb : b.IsRead) {k : Kind} (hk : b.form = some k)
    (field : String)
    (hf : (Block.metadataFields k).find? (·.key == field) = some (Block.required field .text)) :
    ∃ t, b.Stores field (.str t) := by
  obtain ⟨c, hc, hfit⟩ := Block.metadata_field hb hk field hf
  cases hfit with
  | text t => exact ⟨t, hc⟩

theorem code_holds {b : Block} (hb : b.IsRead) {k : Kind} (hk : b.kind? = some k)
    (hkind : k ∈ literalKinds) {context : Option Context} {code : Text} (hc : b.code context = .ok code) :
    Holds b k code := by
  obtain ⟨hform, hcode⟩ := form_of_code hb hk hc
  cases k with
  | inputText =>
    obtain ⟨name, hname⟩ := stores_text hb hform "deepnote_variable_name" rfl
    obtain ⟨t, ht⟩ := stores_text hb hform "deepnote_variable_value" rfl
    obtain rfl := Except.ok.inj hcode
    exact textInput_holds (.inl rfl) hname ht
  | inputTextarea =>
    obtain ⟨name, hname⟩ := stores_text hb hform "deepnote_variable_name" rfl
    obtain ⟨t, ht⟩ := stores_text hb hform "deepnote_variable_value" rfl
    obtain rfl := Except.ok.inj hcode
    exact textInput_holds (.inr rfl) hname ht
  | inputFile =>
    obtain ⟨name, hname⟩ := stores_text hb hform "deepnote_variable_name" rfl
    obtain ⟨t, ht⟩ := stores_text hb hform "deepnote_variable_value" rfl
    obtain rfl := Except.ok.inj hcode
    exact file_holds hname ht
  | inputSelect =>
    obtain ⟨name, hname⟩ := stores_text hb hform "deepnote_variable_name" rfl
    obtain ⟨c, hfield, hfit⟩ := Block.metadata_field hb hform "deepnote_variable_value" rfl
    obtain rfl := Except.ok.inj hcode
    exact select_holds hname hfield hfit
  | inputDate =>
    obtain ⟨name, hname⟩ := stores_text hb hform "deepnote_variable_name" rfl
    obtain ⟨t, ht⟩ := stores_text hb hform "deepnote_variable_value" rfl
    obtain ⟨c, hfield, hfit⟩ := Block.metadata_field hb hform "deepnote_input_date_version" rfl
    obtain rfl := Except.ok.inj hcode
    exact date_holds hname ht hfield hfit
  | sql =>
    obtain ⟨c, hfield, hfit⟩ := Block.metadata_field hb hform "deepnote_return_variable_type" rfl
    exact query_holds hcode hfield hfit
  | _ => exact absurd hkind (by decide)

/-- The code of a block reads in exactly one way as a frame of its kind, and what the literals of that reading stand
for is what the block stores: the value, the list of selected values in their order, or the query and its connection
variable. -/
theorem code_reads_as_stored {v : Value} {b : Block} (hb : Block.read v = .ok b) {k : Kind} (hk : b.kind? = some k)
    (hkind : k ∈ literalKinds) {context : Option Context} {code : Text} (hc : b.code context = .ok code) :
    ∃ frame ∈ framesOf k, ∃ slots contents,
      ReadsAs frame code slots ∧ slots.map Slot.content? = contents.map some ∧ Shows b k frame contents ∧
      ∀ other ∈ framesOf k, ∀ slots', ReadsAs other code slots' → other = frame ∧ slots' = slots := by
  obtain ⟨frame, hframe, contents, hwrites, hshows⟩ := code_holds (Block.isRead_of_read hb) hk hkind hc
  refine ⟨frame, hframe, contents.map Content.slot, contents, hwrites, ?_, hshows, ?_⟩
  · rw [List.map_map]
    exact List.map_congr_left fun c _ => content?_slot c
  · intro other hother slots' hreads
    exact hreads.unique_of_unambiguous (framesOf_unambiguous k) hother hframe hwrites

/-- A selection whose items hold what ends literals, separates them and escapes. -/
def tangledSelection : Value := .map [
  (.str "id", .str "a"), (.str "type", .str "input-select"), (.str "sortingKey", .str "0"),
  (.str "metadata", .map [(.str "deepnote_variable_name", .str "my choice"),
    (.str "deepnote_variable_value", .list [.str "a', 'b", .str "\\'\n]", .str ""])])]

theorem tangledSelection_reads_as_stored :
    ∃ b code, Block.read tangledSelection = .ok b ∧ b.kind? = some .inputSelect ∧ b.code none = .ok code ∧
      code = Text.ofString "my_choice = ['a\\', \\'b', '\\\\\\'\\n]', '']" ∧
      ∃ frame ∈ framesOf .inputSelect, ∃ slots contents,
        ReadsAs frame code slots ∧ slots.map Slot.content? = contents.map some ∧
        Shows b .inputSelect frame contents ∧
        ∀ other ∈ framesOf .inputSelect, ∀ slots', ReadsAs other code slots' → other = frame ∧ slots' = slots := by
  have h : ((Block.read tangledSelection).toOption.map fun b => (b.kind?, (b.code none).toOption)) =
      some (some .inputSelect, some (Text.ofString "my_choice = ['a\\', \\'b', '\\\\\\'\\n]', '']")) := by
    rw [tangledSelection]
    repeat rw [ofString_ofList]
    decide +kernel
  cases hb : Block.read tangledSelection with
  | error is => rw [hb] at h; cases h
  | ok b =>
    rw [hb] at h
    obtain ⟨hk, hcode⟩ := Prod.mk.inj (Option.some_inj.1 h)
    cases hc : b.code none with
    | error f => rw [hc] at hcode; cases hcode
    | ok code =>
      rw [hc] at hcode
      exact ⟨b, code, rfl, hk, hc, Option.some_inj.1 hcode, code_reads_as_stored hb hk (by decide) hc⟩

end BlockNotebook.Code
