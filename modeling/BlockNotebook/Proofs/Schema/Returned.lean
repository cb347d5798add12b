import BlockNotebook.Proofs.Document.Apart
import BlockNotebook.Proofs.Schema.WithoutNulls
/-!
Exported data, checked again.

A check of what was exported gives back what was not null (`check_returned`), and data can be exported after
the check just if it could be before (`check_exportsAlike`). Both hold of shapes whose records keep other
entries and whose fields are null when they are left out; the first, of data that gives no field of a record twice.
-/

namespace BlockNotebook.Schema

/-! ## Shapes -/

/-- No check against the shape gives null. -/
def Shape.neverNull : Shape → Bool
  | .text | .flag | .whole | .listOf _ | .record _ _ _ => true
  | _ => false

/-- A field of the shape is null when it is left out; one that must be given is never null. -/
def Shape.isNullWhenAbsent (s : Shape) : Option Value → Bool
  | none => s.neverNull
  | some .null => (s matches .nullable _)
  | some _ => false

mutual

/-- What is exported of data of the shape can be checked again: the records in it keep other entries, no entry gives
two fields, and a field that is left out is null. -/
def Shape.returns : Shape → Bool
  | .any | .text | .flag | .whole => true
  | .nullable s => s.returns
  | .listOf s => s.returns
  | .record _ keepsOthers fields => keepsOthers && fieldsApart fields && fieldsReturn fields
  | _ => false

def fieldsReturn : List (RecordField Shape) → Bool
  | [] => true
  | ⟨_, _, shape, whenAbsent⟩ :: rest => shape.isNullWhenAbsent whenAbsent && shape.returns && fieldsReturn rest

end

mutual

/-- No record in data of the shape gives a field by its key and by its name. -/
def Shape.spelledOnce : Shape → Value → Bool
  | .nullable s, v => s.spelledOnce v
  | .listOf s, .list items => items.all fun x => s.spelledOnce x
  | .record _ _ fields, .map entries => fieldsSpelledOnce fields entries
  | _, _ => true

def fieldsSpelledOnce : List (RecordField Shape) → List (Value × Value) → Bool
  | [], _ => true
  | ⟨name, key, shape, whenAbsent⟩ :: rest, entries =>
    (name == key || (Value.lookup key entries).isNone || (Value.lookup name entries).isNone) &&
      ((RecordField.find ⟨name, key, shape, whenAbsent⟩ entries).all fun e => shape.spelledOnce e.2) &&
      fieldsSpelledOnce rest entries

end

theorem fieldsReturn_mem {fields : List (RecordField Shape)} (h : fieldsReturn fields) {f : RecordField Shape}
    (hf : f ∈ fields) : f.shape.isNullWhenAbsent f.whenAbsent := by
  induction fields with
  | nil => cases hf
  | cons g rest ih =>
    simp only [fieldsReturn, Bool.and_eq_true] at h
    rcases List.mem_cons.1 hf with rfl | hf
    · exact h.1.1
    · exact ih h.2 hf

theorem fieldsSpelledOnce_mem {fields : List (RecordField Shape)} {entries : List (Value × Value)}
    (h : fieldsSpelledOnce fields entries) {f : RecordField Shape} (hf : f ∈ fields) :
    (f.name = f.key ∨ Value.lookup f.key entries = none ∨ Value.lookup f.name entries = none) ∧
      ∀ used x, f.find entries = some (used, x) → f.shape.spelledOnce x := by
  induction fields with
  | nil => cases hf
  | cons g rest ih =>
    simp only [fieldsSpelledOnce, Bool.and_eq_true, Bool.or_eq_true, beq_iff_eq, Option.isNone_iff_eq_none] at h
    rcases List.mem_cons.1 hf with rfl | hf
    · refine ⟨or_assoc.1 h.1.1, ?_⟩
      intro used x hfind
      have hall := h.1.2
      rw [show RecordField.find ⟨f.name, f.key, f.shape, f.whenAbsent⟩ entries = some (used, x) from hfind] at hall
      exact hall
    · exact ih h.2 hf

theorem ne_null_of_neverNull {s : Shape} (hs : s.neverNull) {v : Value} {c : Checked} (h : check s v = .ok c) :
    c ≠ .plain .null := by
  intro hnull
  subst hnull
  cases check_fits s h <;> cases hs

/-- A field that is null in checked data may be left out. -/
theorem absent_of_null {f : RecordField Shape} (hf : f.shape.isNullWhenAbsent f.whenAbsent) {x : Value}
    (h : check f.shape x = .ok (.plain .null)) : f.whenAbsent = some .null ∧ check f.shape .null = .ok (.plain .null) := by
  unfold Shape.isNullWhenAbsent at hf
  split at hf
  · exact absurd rfl (ne_null_of_neverNull hf h)
  · refine ⟨by assumption, ?_⟩
    split at hf
    · next hshape =>
      rw [hshape]
      rfl
    · cases hf
  · cases hf

/-! ## Other entries -/

/-- No other entry of a record could give a field. -/
theorem others_ne_spelled {fields : List (RecordField Shape)} {entries : List (Value × Value)}
    (hspelled : fieldsSpelledOnce fields entries) {e : Value × Value}
    (he : e ∈ othersOf true (usedKeys fields entries) entries) {f : RecordField Shape} (hf : f ∈ fields) {name : String}
    (hname : f.isSpelled name) : e.1 ≠ .str name := by
  intro hkey
  obtain ⟨hmem, hunused⟩ := List.mem_filter.1 he
  have hnot : name ∉ usedKeys fields entries := by
    intro hused
    rw [isUsed_iff.2 ⟨name, hused, hkey⟩] at hunused
    cases hunused
  simp only [RecordField.isSpelled, Bool.or_eq_true, beq_iff_eq] at hname
  rcases hname with rfl | rfl
  · exact hnot (key_mem_usedKeys hf hmem hkey)
  · rcases (fieldsSpelledOnce_mem hspelled hf).1 with hsame | hnone | hnone
    · exact hnot (hsame ▸ key_mem_usedKeys hf hmem (hsame ▸ hkey))
    · -- the name gives the field, since the key does not
      obtain ⟨x, hx⟩ := Option.ne_none_iff_exists'.1 (lookup_ne_none hmem hkey)
      refine hnot (List.mem_filterMap.2 ⟨f, hf, ?_⟩)
      rw [RecordField.find, hnone, hx]
      rfl
    · exact lookup_ne_none hmem hkey hnone

/-! ## Exported data, checked again -/

/-- Checked data is exported as a tree, which is checked to what was not null. -/
structure Returned (s : Shape) (c : Checked) (w : Value) : Prop where
  exported : c.exported = .ok w
  tree : Json.Tree w
  null : w = .null → c = .plain .null
  again : check s w = .ok c.withoutNulls

theorem tree_isPlain {v : Value} (h : Json.Tree v) : v.IsPlain := by
  induction h with
  | null => exact .null
  | bool b => exact .bool b
  | @int i _ => exact .int i
  | str t => exact .str t
  | list _ ih => exact .list ih
  | map hkeys _ _ ih => exact .map hkeys ih

theorem entries?_tree {entries : List (Value × Value)} (h : Json.Tree (.map entries)) :
    (Value.map entries).entries? = some entries := by
  cases h with
  | map _ _ h => exact Value.entries?_map fun e he => (tree_isPlain (h e he)).isClosed

theorem spelledOnce_null : ∀ s : Shape, s.spelledOnce .null = true
  | .nullable s => by rw [Shape.spelledOnce]; exact spelledOnce_null s
  | .any | .text | .flag | .whole | .number | .choice _ | .textOrTexts | .textOrPair | .listOf _ | .openMapping
  | .record _ _ _ | .tagged _ _ _ => rfl

section Record

variable {fields : List (RecordField Shape)} {fs : List (String × Checked)} {others : List (Value × Value)}

/-- The data for a field stands in the record, under a name that the field is found by, or is null. -/
theorem source_cases {f : RecordField Shape} (hf : f ∈ fields) (hreturn : fieldsReturn fields)
    {entries : List (Value × Value)} {x : Value} (h : f.source? entries = some x) :
    (∃ used, f.find entries = some (used, x) ∧ (.str used, x) ∈ entries) ∨ x = .null := by
  unfold RecordField.source? at h
  rcases find_cases f entries with ⟨used, y, hfind, -, hy⟩ | ⟨hnone, -⟩
  · rw [hfind] at h
    cases h
    exact .inl ⟨used, hfind, Value.mem_of_lookup hy⟩
  · have hnull := fieldsReturn_mem hreturn hf
    rw [hnone] at h
    rw [show f.whenAbsent = some x from h] at hnull
    cases x <;> first | exact .inr rfl | cases hnull

theorem tree_of_source {f : RecordField Shape} (hf : f ∈ fields) (hreturn : fieldsReturn fields)
    {entries : List (Value × Value)} (htrees : ∀ e ∈ entries, Json.Tree e.2) {x : Value}
    (h : f.source? entries = some x) : Json.Tree x := by
  rcases source_cases hf hreturn h with ⟨used, -, hmem⟩ | rfl
  · exact htrees _ hmem
  · exact .null

theorem spelledOnce_of_source {f : RecordField Shape} (hf : f ∈ fields) (hreturn : fieldsReturn fields)
    {entries : List (Value × Value)} (hspelled : fieldsSpelledOnce fields entries) {x : Value}
    (h : f.source? entries = some x) : f.shape.spelledOnce x := by
  rcases source_cases hf hreturn h with ⟨used, hfind, -⟩ | rfl
  · exact (fieldsSpelledOnce_mem hspelled hf).2 used x hfind
  · exact spelledOnce_null _

theorem isSpelled_key (f : RecordField Shape) : f.isSpelled f.key := by simp [RecordField.isSpelled]

theorem isSpelled_name (f : RecordField Shape) : f.isSpelled f.name := by simp [RecordField.isSpelled]

/-- An entry gives one field at most. -/
theorem eq_of_spelled (h : fieldsApart fields) {f g : RecordField Shape} (hf : f ∈ fields) (hg : g ∈ fields)
    {name : String} (hfn : f.isSpelled name) (hgn : g.isSpelled name) : f = g := by
  induction fields with
  | nil => cases hf
  | cons e rest ih =>
    obtain ⟨he, hrest⟩ := Bool.and_eq_true_iff.1 h
    have hne := List.all_eq_true.1 he
    rcases List.mem_cons.1 hf with rfl | hfr
    · rcases List.mem_cons.1 hg with rfl | hgr
      · rfl
      · exact absurd rfl (spelled_ne (hne g hgr) hfn hgn)
    · rcases List.mem_cons.1 hg with rfl | hgr
      · exact absurd rfl (spelled_ne (hne f hfr) hgn hfn)
      · exact ih hrest hfr hgr

theorem find?_key (h : fieldsApart fields) {f : RecordField Shape} (hf : f ∈ fields) :
    fields.find? (·.key == f.key) = some f := by
  cases hfind : fields.find? (·.key == f.key) with
  | none => simpa using List.find?_eq_none.1 hfind f hf
  | some g =>
    have hkey : g.key = f.key := by simpa using List.find?_some hfind
    rw [eq_of_spelled h (List.mem_of_find?_eq_some hfind) hf (isSpelled_key g) (hkey ▸ isSpelled_key f)]

theorem keys_of_verdicts {v : Value} {entries : List (Value × Value)}
    (h : fields.map (fieldVerdict · v entries) = fs.map .ok) : fs.map (·.1) = fields.map (·.key) := by
  induction fields generalizing fs with
  | nil => rw [List.map_eq_nil_iff.1 h.symm]; rfl
  | cons f rest ih =>
    obtain ⟨e, es, rfl, he, hes⟩ := List.map_eq_cons_iff.1 h.symm
    rw [List.map_cons, List.map_cons, ih hes.symm, (source_of_fieldVerdict he.symm).1]

/-- A record made of trees has been checked: what it holds, and the verdicts on its fields. -/
structure OfTrees (fields : List (RecordField Shape)) (entries : List (Value × Value)) (fs : List (String × Checked)) :
    Prop where
  texts : ∀ e ∈ entries, ∃ k, e.1 = .str k
  distinct : Value.KeysDistinct entries
  trees : ∀ e ∈ entries, Json.Tree e.2
  unbroken : ∀ e ∈ entries, isBrokenKey e.1 = false
  verdicts : fields.map (fieldVerdict · (.map entries) entries) = fs.map .ok

theorem ofTrees_of_check {title : String} {v : Value} (hv : Json.Tree v) {c : Checked}
    (h : check (.record title true fields) v = .ok c) :
    ∃ entries fs, v = .map entries ∧ c = .record fs (othersOf true (usedKeys fields entries) entries) ∧
      OfTrees fields entries fs := by
  obtain ⟨entries, fs, others, hentries, rfl, hverdicts⟩ := fields_of_record h
  obtain ⟨rfl, htexts, -⟩ := (tree_isPlain hv).of_entries? hentries
  rw [check, hentries] at h
  obtain ⟨hunbroken, _, -, heq⟩ := (recordVerdict_of_texts htexts).1 h
  cases hv with
  | map _ hdistinct htrees =>
    exact ⟨entries, fs, rfl, by rw [(Checked.record.inj heq).2], htexts, hdistinct, htrees, hunbroken rfl, hverdicts⟩

/-- Each field of the record is checked from a tree. -/
theorem OfTrees.field {entries : List (Value × Value)} (h : OfTrees fields entries fs) (hapart : fieldsApart fields)
    (hreturn : fieldsReturn fields) {f : RecordField Shape} (hf : f ∈ fields) : ∃ d x, fs.lookup f.key = some d ∧
      (f.key, d) ∈ fs ∧ fieldVerdict f (.map entries) entries = .ok (f.key, d) ∧ f.source? entries = some x ∧
      Json.Tree x ∧ check f.shape x = .ok d := by
  obtain ⟨d, hd, hverdict⟩ := lookup_of_verdicts h.verdicts (find?_key hapart hf)
  obtain ⟨l, r, hsplit, -⟩ := List.lookup_eq_some_iff.1 hd
  obtain ⟨-, x, hx, hcheck⟩ := source?_of_fieldVerdict hverdict
  exact ⟨d, x, hd, by rw [hsplit]; simp, hverdict, hx, tree_of_source hf hreturn h.trees hx, hcheck⟩

/-- What was checked for a field was checked from a tree. -/
theorem OfTrees.mem {entries : List (Value × Value)} (h : OfTrees fields entries fs) (hreturn : fieldsReturn fields)
    {e : String × Checked} (he : e ∈ fs) :
    ∃ f ∈ fields, ∃ x, f.source? entries = some x ∧ Json.Tree x ∧ check f.shape x = .ok e.2 := by
  obtain ⟨f, hf, hfe⟩ := mem_of_verdicts h.verdicts he
  obtain ⟨-, x, hx, hcheck⟩ := source?_of_fieldVerdict hfe
  exact ⟨f, hf, x, hx, tree_of_source hf hreturn h.trees hx, hcheck⟩

/-- The fields of a record keep apart from each other, and from all else that the record holds. -/
structure KeepApart (fields : List (RecordField Shape)) (fs : List (String × Checked)) (others : List (Value × Value)) :
    Prop where
  apart : fieldsApart fields
  keys : fs.map (·.1) = fields.map (·.key)
  others : ∀ e ∈ others, ∀ f ∈ fields, ∀ {name : String}, f.isSpelled name → e.1 ≠ .str name

theorem KeepApart.distinct (h : KeepApart fields fs others) : fs.Pairwise fun e f => e.1 ≠ f.1 := by
  rw [← List.pairwise_map (f := Prod.fst) (R := (· ≠ ·)), h.keys, List.pairwise_map]
  exact (pairwise_of_fieldsApart h.apart).imp fun hne => hne _ _ (isSpelled_key _) (isSpelled_key _)

theorem KeepApart.lookup (h : KeepApart fields fs others) {f : RecordField Shape} (hf : f ∈ fields) {name : String}
    (hname : f.isSpelled name) : Value.lookup name (givenFields fs ++ others) = (fs.lookup name).bind Checked.given? := by
  rw [lookup_append, lookup_givenFields h.distinct, lookup_eq_none fun e he => h.others e he f hf hname, Option.or_none]

/-- In exported data a field is found by its key, unless it is null. -/
theorem KeepApart.find (h : KeepApart fields fs others) {f : RecordField Shape} (hf : f ∈ fields) {d : Checked}
    (hd : fs.lookup f.key = some d) : f.find (givenFields fs ++ others) = d.given?.map fun x => (f.key, x) := by
  unfold RecordField.find
  rw [h.lookup hf (isSpelled_key f), hd, Option.bind_some]
  cases hgiven : d.given? with
  | some x => rfl
  | none =>
    dsimp only
    rw [h.lookup hf (isSpelled_name f)]
    cases hc : fs.lookup f.name with
    | none => rfl
    | some c =>
      -- only the field itself has its name for a key
      have hmem : f.name ∈ fields.map (·.key) := by
        rw [← h.keys]
        obtain ⟨l, r, hfs, -⟩ := List.lookup_eq_some_iff.1 hc
        rw [hfs]
        simp
      obtain ⟨g, hg, hkey⟩ := List.mem_map.1 hmem
      obtain rfl := eq_of_spelled h.apart hg hf (isSpelled_key g) (hkey ▸ isSpelled_name f)
      have hkey : g.key = g.name := hkey
      rw [← hkey, hd] at hc
      rw [← Option.some_inj.1 hc, Option.bind_some, hgiven]
      rfl

/-- A field that was exported, or left out since it is null, is given back. -/
theorem KeepApart.fieldVerdict (h : KeepApart fields fs others) {f : RecordField Shape} (hf : f ∈ fields)
    (hnull : f.shape.isNullWhenAbsent f.whenAbsent) {d : Checked} (hd : fs.lookup f.key = some d) {x : Value}
    (hx : check f.shape x = .ok d) {w : Value} (hw : Returned f.shape d w) (v : Value) :
    fieldVerdict f v (givenFields fs ++ others) = .ok (f.key, d.withoutNulls) := by
  unfold Schema.fieldVerdict
  rw [h.find hf hd]
  by_cases hplain : d = .plain .null
  · subst hplain
    obtain ⟨habsent, hcheck⟩ := absent_of_null hnull hx
    simp only [Checked.given?, Option.map_none, habsent, hcheck]
    rfl
  · rw [given?_of_ne_null hplain, hw.exported]
    simp only [Except.toOption, Option.map_some, hw.again]
    rfl

/-- Entries that stand apart from exported fields are once more the other entries. -/
theorem KeepApart.othersOf (h : KeepApart fields fs others) :
    othersOf true (usedKeys fields (givenFields fs ++ others)) (givenFields fs ++ others) = others := by
  have hgiven : ∀ e ∈ givenFields fs, ¬ (!isUsed (usedKeys fields (givenFields fs ++ others)) e.1) = true := by
    intro e he
    obtain ⟨d, hd, hkey, -⟩ := mem_givenFields he
    obtain ⟨f, hf, hfkey⟩ := List.mem_map.1 (h.keys ▸ List.mem_map_of_mem hd : d.1 ∈ fields.map (·.key))
    have hkey : e.1 = .str f.key := hfkey ▸ hkey
    simpa using isUsed_iff.2 ⟨f.key, key_mem_usedKeys hf (List.mem_append_left _ he) hkey, hkey⟩
  have hothers : ∀ e ∈ others, (!isUsed (usedKeys fields (givenFields fs ++ others)) e.1) = true := by
    intro e he
    rw [Bool.not_eq_true', Bool.eq_false_iff]
    intro hused
    obtain ⟨name, hname, hkey⟩ := isUsed_iff.1 hused
    obtain ⟨f, hf, hused⟩ := List.mem_filterMap.1 hname
    obtain ⟨⟨used, x⟩, hfind, rfl⟩ := Option.map_eq_some_iff.1 hused
    exact h.others e he f hf (isSpelled_of_find hfind) hkey
  unfold Schema.othersOf
  rw [if_pos rfl, List.filter_append, List.filter_eq_nil_iff.2 hgiven, List.nil_append, List.filter_eq_self.2 hothers]

/-- Exported fields and entries apart from them make a tree. -/
theorem KeepApart.tree (h : KeepApart fields fs others) (hfields : ∀ e ∈ fs, ∃ s w, Returned s e.2 w)
    (htexts : ∀ e ∈ others, ∃ k, e.1 = .str k) (hdistinct : Value.KeysDistinct others)
    (htrees : ∀ e ∈ others, Json.Tree e.2) : Json.Tree (.map (givenFields fs ++ others)) := by
  refine .map ?_ ?_ ?_
  · intro e he
    rcases List.mem_append.1 he with he | he
    · obtain ⟨f, -, hkey, -⟩ := mem_givenFields he
      exact ⟨_, hkey⟩
    · exact htexts e he
  · refine List.pairwise_append.2 ⟨keysDistinct_givenFields h.distinct, hdistinct, ?_⟩
    intro e he e' he'
    obtain ⟨d, hd, hkey, -⟩ := mem_givenFields he
    obtain ⟨f, hf, hfkey⟩ := List.mem_map.1 (h.keys ▸ List.mem_map_of_mem hd : d.1 ∈ fields.map (·.key))
    obtain ⟨k, hk⟩ := htexts e' he'
    have hne := h.others e' he' f hf (isSpelled_key f)
    rw [hkey, hk]
    show (Text.ofString d.1 == k) = false
    rw [beq_eq_false_iff_ne]
    rintro rfl
    exact hne (hfkey ▸ hk)
  · intro e he
    rcases List.mem_append.1 he with he | he
    · obtain ⟨d, hd, -, hgiven⟩ := mem_givenFields he
      obtain ⟨s, w, hw⟩ := hfields d hd
      unfold Checked.given? at hgiven
      split at hgiven
      · cases hgiven
      · rw [hw.exported] at hgiven
        cases hgiven
        exact hw.tree
    · exact htrees e he

/-- What can be exported of checked data is exported, and checked again to what was not null. -/
def Returns (s : Shape) : Prop :=
  ∀ ⦃v : Value⦄ ⦃c : Checked⦄, Json.Tree v → s.spelledOnce v → check s v = .ok c → c.Exportable → ∃ w, Returned s c w

/-- A record that was exported is checked to what was not null, if its fields are. -/
theorem KeepApart.check (h : KeepApart fields fs others) {entries : List (Value × Value)}
    (hverdicts : fields.map (Schema.fieldVerdict · (.map entries) entries) = fs.map .ok)
    (hfields : ∀ f ∈ fields, ∀ v, ∃ d, Schema.fieldVerdict f (.map entries) entries = .ok (f.key, d) ∧
      Schema.fieldVerdict f v (givenFields fs ++ others) = .ok (f.key, d.withoutNulls))
    (htree : Json.Tree (.map (givenFields fs ++ others))) (hunbroken : ∀ e ∈ others, isBrokenKey e.1 = false)
    (title : String) : Schema.check (.record title true fields) (.map (givenFields fs ++ others)) =
      .ok (.record (fieldsWithoutNulls fs) others) := by
  have htexts : ∀ e ∈ givenFields fs ++ others, ∃ k, e.1 = .str k := by
    cases htree with
    | map hkeys _ _ => exact hkeys
  have hunbroken : ∀ e ∈ givenFields fs ++ others, isBrokenKey e.1 = false := by
    intro e he
    rcases List.mem_append.1 he with he | he
    · obtain ⟨d, -, hkey, -⟩ := mem_givenFields he
      rw [hkey]
      exact Text.any_isSurrogate_ofChars _
    · exact hunbroken e he
  have hagain (v : Value) : ∀ f ∈ fields, Schema.fieldVerdict f v (givenFields fs ++ others) =
      (Schema.fieldVerdict f (.map entries) entries).map fun e => (e.1, e.2.withoutNulls) := by
    intro f hf
    obtain ⟨d, hd, hd'⟩ := hfields f hf v
    rw [hd, hd']
    rfl
  have hverdicts (v : Value) : fields.map (Schema.fieldVerdict · v (givenFields fs ++ others)) =
      (fieldsWithoutNulls fs).map .ok := calc
    _ = (fields.map (Schema.fieldVerdict · (.map entries) entries)).map (·.map fun e => (e.1, e.2.withoutNulls)) := by
      rw [List.map_map]
      exact List.map_congr_left (hagain v)
    _ = (fieldsWithoutNulls fs).map .ok := by
      rw [hverdicts, fieldsWithoutNulls_eq_map, List.map_map, List.map_map]
      rfl
  rw [Schema.check, entries?_tree htree]
  refine (recordVerdict_of_texts htexts).2 ⟨fun _ => hunbroken, fieldsWithoutNulls fs, ?_, by rw [h.othersOf]⟩
  rw [checkFields_eq_map, hverdicts, collect_map_ok]

/-- A record returns if its fields do. -/
theorem record_returns {title : String} (hapart : fieldsApart fields) (hreturn : fieldsReturn fields)
    (hfields : ∀ f ∈ fields, Returns f.shape) : Returns (.record title true fields) := by
  intro v c hv hspelled h hc
  obtain ⟨entries, fs, rfl, rfl, hrecord⟩ := ofTrees_of_check hv h
  cases hc with
  | record hfs hos =>
  have hfield {f : RecordField Shape} (hf : f ∈ fields) {x : Value} (hx : f.source? entries = some x)
      (htree : Json.Tree x) {d : Checked} (hd : check f.shape x = .ok d) (hexport : d.Exportable) :
      ∃ w, Returned f.shape d w :=
    hfields f hf htree (spelledOnce_of_source hf hreturn hspelled hx) hd hexport
  -- The other entries that are not null.
  generalize hothers : othersOf true (usedKeys fields entries) entries = others at hos
  have hmem : ∀ e ∈ others, e ∈ entries := fun e he => othersOf_subset (hothers ▸ he)
  have hsub : ∀ e ∈ others.filter isGiven, e ∈ entries := fun e he => hmem e (List.mem_filter.1 he).1
  have hkeep : KeepApart fields fs (others.filter isGiven) :=
    ⟨hapart, keys_of_verdicts hrecord.verdicts, fun e he f hf _ hname =>
      others_ne_spelled hspelled (hothers ▸ (List.mem_filter.1 he).1) hf hname⟩
  have hdistinct : Value.KeysDistinct (others.filter isGiven) := by
    rw [← hothers, othersOf, if_pos rfl]
    exact (hrecord.distinct.filter _).filter _
  have htree : Json.Tree (.map (givenFields fs ++ others.filter isGiven)) := by
    refine hkeep.tree ?_ (fun e he => hrecord.texts e (hsub e he)) hdistinct fun e he => hrecord.trees e (hsub e he)
    intro e he
    obtain ⟨f, hf, x, hx, hxtree, hd⟩ := hrecord.mem hreturn he
    exact ⟨f.shape, hfield hf hx hxtree hd (hfs e he)⟩
  refine ⟨.map (givenFields fs ++ others.filter isGiven), ?_, htree, fun hnull => (by cases hnull), ?_⟩
  · have hfixed : ∀ e ∈ others, exportValue e.2 = .ok e.2 := fun e he =>
      exportValue_tree (hrecord.trees e (hmem e he)) (hos e he)
    rw [Checked.exported, exportFields_of_isOk fun e he => (isOk_exported e.2).2 (hfs e he), exportOthers_of_fixed hfixed]
    rfl
  · refine hkeep.check hrecord.verdicts ?_ htree (fun e he => hrecord.unbroken e (hsub e he)) title
    intro f hf v
    obtain ⟨d, x, hd, hmem, hverdict, hx, hxtree, hcheck⟩ := hrecord.field hapart hreturn hf
    obtain ⟨w, hw⟩ := hfield hf hx hxtree hcheck (hfs _ hmem)
    exact ⟨d, hverdict, hkeep.fieldVerdict hf (fieldsReturn_mem hreturn hf) hd hcheck hw v⟩

end Record

/-! ## Whole numbers -/

theorem digitsValue_lt {cs : List Char} (h : ∀ c ∈ cs, Text.isAsciiDigit c) : Number.digitsValue cs < 10 ^ cs.length := by
  have hfold (n : Nat) : cs.foldl (fun n c => n * 10 + (c.toNat - 48)) n < (n + 1) * 10 ^ cs.length := by
    induction cs generalizing n with
    | nil => simp
    | cons c rest ih =>
      obtain ⟨hc, hrest⟩ := List.forall_mem_cons.1 h
      have hdigit : c.toNat - 48 ≤ 9 := by
        simp only [Text.isAsciiDigit, Bool.and_eq_true, decide_eq_true_eq, Char.le_def, UInt32.le_iff_toNat_le] at hc
        have hle : c.toNat ≤ 57 := hc.2
        omega
      calc (c :: rest).foldl (fun n c => n * 10 + (c.toNat - 48)) n
        _ < (n * 10 + (c.toNat - 48) + 1) * 10 ^ rest.length := ih hrest _
        _ ≤ ((n + 1) * 10) * 10 ^ rest.length := Nat.mul_le_mul_right _ (by omega)
        _ = (n + 1) * 10 ^ (c :: rest).length := by rw [List.length_cons, Nat.pow_succ', Nat.mul_assoc]
  simpa [Number.digitsValue] using hfold 0

theorem natAbs_withSign (negative : Bool) (n : Nat) : (Number.withSign negative n).natAbs = n := by
  unfold Number.withSign
  split <;> simp

theorem isShort_of_le_one {i : Int} (h : i.natAbs ≤ 1) : Json.IsShort i :=
  Nat.lt_of_le_of_lt h (Nat.one_lt_pow (by decide) (by decide))

/-- A whole number that a text spells has no more digits than the text. -/
theorem isShort_of_readPlainWhole {cs : List Char} {i : Int} (h : readPlainWhole cs = .ok i) : Json.IsShort i := by
  unfold readPlainWhole at h
  dsimp only at h
  split at h
  · cases h
    exact isShort_of_le_one (by decide)
  split at h
  · cases h
  split at h
  · cases h
  next hfew =>
  split at h
  · cases h
    have hdigits : ∀ c ∈ (splitMinus cs).2.takeWhile Text.isAsciiDigit, Text.isAsciiDigit c := fun c hc =>
      List.mem_takeWhile_imp hc
    unfold Json.IsShort
    rw [natAbs_withSign]
    exact Nat.lt_of_lt_of_le (digitsValue_lt hdigits) (Nat.pow_le_pow_right (by decide) (Nat.le_of_not_lt hfew))
  · cases h

theorem isShort_of_readWholeText {cs : List Char} {i : Int} (h : readWholeText cs = .ok i) : Json.IsShort i := by
  unfold readWholeText at h
  split at h
  · split at h
    · cases h
    · next ds _ =>
      cases hds : readPlainWhole ds with
      | error e =>
        rw [hds] at h
        cases h
      | ok j =>
        rw [hds] at h
        cases h
        exact isShort_of_readPlainWhole hds
  · exact isShort_of_readPlainWhole h

theorem isShort_of_readWhole {v : Value} (hv : Json.Tree v) {i : Int} (h : readWhole v = .ok i) : Json.IsShort i := by
  cases hv with
  | bool b =>
    cases h
    exact isShort_of_le_one (by cases b <;> decide)
  | int hi =>
    cases h
    exact hi
  | str t =>
    cases ht : readable t with
    | error e =>
      rw [readWhole, ht] at h
      cases h
    | ok cs =>
      rw [readWhole, ht] at h
      exact isShort_of_readWholeText h
  | _ => cases h

/-! ## Every shape -/

/-- Texts, truth values and whole numbers are checked to what is given back. -/
theorem plain_returned {s : Shape} {v : Value} (hv : Json.Tree v) (hnull : v ≠ .null) (hexport : exportValue v = .ok v)
    (hagain : check s v = .ok (.plain v)) : ∃ w, Returned s (.plain v) w :=
  ⟨v, hexport, hv, fun h => absurd h hnull, hagain⟩

theorem items_of_listOf {s : Shape} {items : List Value} (hitems : ∀ v ∈ items, v.IsClosed) {c : Checked}
    (h : check (.listOf s) (.list items) = .ok c) :
    ∃ cs, c = .list cs ∧ (∀ d ∈ cs, ∃ x ∈ items, check s x = .ok d) ∧ ∀ x ∈ items, ∃ d ∈ cs, check s x = .ok d := by
  rw [check, Value.items?_list hitems] at h
  obtain ⟨cs, hcs, rfl⟩ := map_eq_ok h
  have hmap := collect_eq_ok hcs
  refine ⟨cs, rfl, ?_, ?_⟩
  · intro d hd
    have hmem := List.mem_map_of_mem (f := (Except.ok : _ → Verdict Checked)) hd
    rw [← hmap] at hmem
    obtain ⟨i, hi, hdi⟩ := List.mem_mapIdx.1 hmem
    exact ⟨_, List.getElem_mem hi, under_eq_ok hdi⟩
  · intro x hx
    obtain ⟨i, hi, rfl⟩ := List.getElem_of_mem hx
    have hmem : under (.index i) (check s items[i]) ∈ cs.map .ok := hmap ▸ List.mem_mapIdx.2 ⟨i, hi, rfl⟩
    obtain ⟨d, hd, hdi⟩ := List.mem_map.1 hmem
    exact ⟨d, hd, under_eq_ok hdi.symm⟩

/-- Items that return are exported and checked again one by one. -/
theorem items_returned {s : Shape} {cs : List Checked} (h : ∀ c ∈ cs, ∃ w, Returned s c w) :
    ∃ ws, exportItems cs = .ok ws ∧ (∀ w ∈ ws, Json.Tree w) ∧
      ∀ place : Nat → Segment, (ws.mapIdx fun i x => under (place i) (check s x)) = (itemsWithoutNulls cs).map .ok := by
  induction cs with
  | nil => exact ⟨[], rfl, List.forall_mem_nil _, fun _ => rfl⟩
  | cons c rest ih =>
    obtain ⟨⟨w, hw⟩, hrest⟩ := List.forall_mem_cons.1 h
    obtain ⟨ws, hexported, htrees, hagain⟩ := ih hrest
    refine ⟨w :: ws, ?_, List.forall_mem_cons.2 ⟨hw.tree, htrees⟩, ?_⟩
    · rw [exportItems, hw.exported, hexported]
      rfl
    · intro place
      rw [List.mapIdx_cons, hw.again, hagain fun i => place (i + 1)]
      rfl

theorem listOf_returns {s : Shape} (hs : Returns s) : Returns (.listOf s) := by
  intro v c hv hspelled h hc
  cases hv with
  | @list items htrees =>
    obtain ⟨cs, rfl, hcs, -⟩ := items_of_listOf (fun v hv => (tree_isPlain (htrees v hv)).isClosed) h
    cases hc with
    | list hexport =>
    have hitems : ∀ d ∈ cs, ∃ w, Returned s d w := by
      intro d hd
      obtain ⟨x, hx, hxd⟩ := hcs d hd
      exact hs (htrees x hx) (List.all_eq_true.1 hspelled x hx) hxd (hexport d hd)
    obtain ⟨ws, hexported, hwtrees, hagain⟩ := items_returned hitems
    refine ⟨.list ws, ?_, .list hwtrees, fun hnull => (by cases hnull), ?_⟩
    · rw [Checked.exported, hexported]
      rfl
    · rw [check, Value.items?_list fun w hw => (tree_isPlain (hwtrees w hw)).isClosed]
      dsimp only
      rw [hagain fun i => .index i, collect_map_ok]
      rfl
  | _ => cases h

theorem nullable_returns {s : Shape} (hs : Returns s) : Returns (.nullable s) := by
  intro v c hv hspelled h hc
  by_cases hnull : v = .null
  · subst hnull
    cases h
    exact ⟨.null, rfl, .null, fun _ => rfl, rfl⟩
  · rw [check_nullable hnull] at h
    rw [Shape.spelledOnce] at hspelled
    obtain ⟨w, hw⟩ := hs hv hspelled h hc
    refine ⟨w, hw.exported, hw.tree, hw.null, ?_⟩
    by_cases hwnull : w = .null
    · rw [hw.null hwnull, hwnull]
      rfl
    · rw [check_nullable hwnull]
      exact hw.again

mutual

/-- What is exported of checked data is checked to the data without its nulls. -/
theorem check_returned : ∀ s : Shape, s.returns → Returns s
  | .any, _ => by
    intro v c hv _ h hc
    cases h
    cases hc with
    | plain hc => exact ⟨v, exportValue_tree hv hc, hv, fun hnull => hnull ▸ rfl, rfl⟩
  | .text, _ => by
    intro v c hv _ h _
    cases check_fits .text h with
    | text t => exact plain_returned (.str t) nofun rfl rfl
  | .flag, _ => by
    intro v c hv _ h _
    cases check_fits .flag h with
    | flag b => exact plain_returned (.bool b) nofun rfl rfl
  | .whole, _ => by
    intro v c hv _ h _
    rw [check, scalar] at h
    split at h
    · next i hi =>
      cases h
      exact plain_returned (.int (isShort_of_readWhole hv hi)) nofun rfl rfl
    · cases h
  | .nullable s, hs => nullable_returns (check_returned s hs)
  | .listOf s, hs => listOf_returns (check_returned s hs)
  | .record title keepsOthers fields, hs => by
    simp only [Shape.returns, Bool.and_eq_true] at hs
    obtain ⟨⟨rfl, hapart⟩, hreturn⟩ := hs
    exact record_returns hapart hreturn (fields_returned fields hreturn)

theorem fields_returned : ∀ fields : List (RecordField Shape), fieldsReturn fields → ∀ f ∈ fields, Returns f.shape
  | [], _, _, hf => by cases hf
  | ⟨name, key, shape, whenAbsent⟩ :: rest, h, f, hf => by
    simp only [fieldsReturn, Bool.and_eq_true] at h
    obtain ⟨⟨-, hshape⟩, hrest⟩ := h
    rcases List.mem_cons.1 hf with rfl | hf
    · exact check_returned shape hshape
    · exact fields_returned rest hrest f hf

end

/-! ## Which checked data can be exported -/

/-- What the check of a tree gives can be exported just if the tree can. -/
def ExportsAlike (s : Shape) : Prop :=
  ∀ ⦃v : Value⦄ ⦃c : Checked⦄, Json.Tree v → check s v = .ok c → (c.Exportable ↔ Exportable v)

/-- An entry of a record gives a field, or is among the others. -/
theorem used_or_other (fields : List (RecordField Shape)) {entries : List (Value × Value)}
    (hdistinct : Value.KeysDistinct entries) {e : Value × Value} (he : e ∈ entries) :
    (∃ f ∈ fields, ∃ used, f.find entries = some (used, e.2)) ∨ e ∈ othersOf true (usedKeys fields entries) entries := by
  cases hused : isUsed (usedKeys fields entries) e.1 with
  | false => exact .inr (List.mem_filter.2 ⟨he, by rw [hused]; rfl⟩)
  | true =>
    obtain ⟨name, hname, hkey⟩ := isUsed_iff.1 hused
    obtain ⟨f, hf, hused⟩ := List.mem_filterMap.1 hname
    obtain ⟨⟨used, x⟩, hfind, rfl⟩ := Option.map_eq_some_iff.1 hused
    refine .inl ⟨f, hf, used, ?_⟩
    rcases find_cases f entries with ⟨u, y, hfind', -, hy⟩ | ⟨hnone, -⟩
    · cases hfind.symm.trans hfind'
      rw [hfind, Option.some_inj.1 (hy.symm.trans (lookup_of_mem hdistinct he hkey))]
    · cases hfind.symm.trans hnone

theorem record_exportsAlike {title : String} {fields : List (RecordField Shape)} (hapart : fieldsApart fields)
    (hreturn : fieldsReturn fields) (hfields : ∀ f ∈ fields, ExportsAlike f.shape) :
    ExportsAlike (.record title true fields) := by
  intro v c hv h
  obtain ⟨entries, fs, rfl, rfl, hrecord⟩ := ofTrees_of_check hv h
  constructor
  · intro hc
    cases hc with
    | record hfs hos =>
    refine .map ?_ ?_
    · intro e he
      obtain ⟨t, ht⟩ := hrecord.texts e he
      have hbroken := hrecord.unbroken e he
      rw [ht] at hbroken ⊢
      exact (keyExportable_str t).2 hbroken
    · intro e he
      rcases used_or_other fields hrecord.distinct he with ⟨f, hf, used, hfind⟩ | hother
      · obtain ⟨d, x, -, hmem, -, hx, htree, hcheck⟩ := hrecord.field hapart hreturn hf
        obtain rfl : e.2 = x := by
          rw [RecordField.source?, hfind] at hx
          exact Option.some_inj.1 hx
        exact (hfields f hf htree hcheck).1 (hfs _ hmem)
      · exact hos e hother
  · intro hv
    cases hv with
    | map _ hexport =>
    refine .record ?_ fun e he => hexport e (othersOf_subset he)
    intro e he
    obtain ⟨f, hf, x, hx, htree, hcheck⟩ := hrecord.mem hreturn he
    refine (hfields f hf htree hcheck).2 ?_
    rcases source_cases hf hreturn hx with ⟨used, -, hmem⟩ | rfl
    · exact hexport _ hmem
    · exact .null

theorem listOf_exportsAlike {s : Shape} (hs : ExportsAlike s) : ExportsAlike (.listOf s) := by
  intro v c hv h
  cases hv with
  | list htrees =>
    obtain ⟨cs, rfl, hcs, hitems⟩ := items_of_listOf (fun v hv => (tree_isPlain (htrees v hv)).isClosed) h
    constructor
    · intro hc
      cases hc with
      | list hexport =>
      refine .list fun x hx => ?_
      obtain ⟨d, hd, hxd⟩ := hitems x hx
      exact (hs (htrees x hx) hxd).1 (hexport d hd)
    · intro hv
      cases hv with
      | list hexport =>
      refine .list fun d hd => ?_
      obtain ⟨x, hx, hxd⟩ := hcs d hd
      exact (hs (htrees x hx) hxd).2 (hexport x hx)
  | _ => cases h

theorem nullable_exportsAlike {s : Shape} (hs : ExportsAlike s) : ExportsAlike (.nullable s) := by
  intro v c hv h
  by_cases hnull : v = .null
  · subst hnull
    cases h
    exact ⟨fun _ => .null, fun _ => .plain .null⟩
  · rw [check_nullable hnull] at h
    exact hs hv h

/-- Scalars can be exported. -/
theorem scalar_exportsAlike {α : Type} {read : Value → Except Cause α} {write : α → Value}
    (hwrite : ∀ a, Exportable (write a)) (hlist : ∀ items, ∃ e, read (.list items) = .error e)
    (hmap : ∀ entries, ∃ e, read (.map entries) = .error e) {v : Value} {c : Checked} (hv : Json.Tree v)
    (h : scalar read write v = .ok c) : c.Exportable ↔ Exportable v := by
  unfold scalar at h
  split at h
  · next a ha =>
    cases h
    refine ⟨fun _ => ?_, fun _ => .plain (hwrite a)⟩
    cases hv with
    | null => exact .null
    | bool b => exact .bool b
    | int _ => exact .int _
    | str t => exact .str t
    | @list items _ =>
      obtain ⟨e, he⟩ := hlist items
      cases he.symm.trans ha
    | @map entries _ _ _ =>
      obtain ⟨e, he⟩ := hmap entries
      cases he.symm.trans ha
  · cases h

mutual

theorem check_exportsAlike : ∀ s : Shape, s.returns → ExportsAlike s
  | .any, _ => by
    intro v c _ h
    cases h
    exact ⟨fun hc => by cases hc; assumption, .plain⟩
  | .text, _ => fun _ _ hv h => scalar_exportsAlike .str (fun _ => ⟨_, rfl⟩) (fun _ => ⟨_, rfl⟩) hv h
  | .flag, _ => fun _ _ hv h => scalar_exportsAlike .bool (fun _ => ⟨_, rfl⟩) (fun _ => ⟨_, rfl⟩) hv h
  | .whole, _ => fun _ _ hv h => scalar_exportsAlike .int (fun _ => ⟨_, rfl⟩) (fun _ => ⟨_, rfl⟩) hv h
  | .nullable s, hs => nullable_exportsAlike (check_exportsAlike s hs)
  | .listOf s, hs => listOf_exportsAlike (check_exportsAlike s hs)
  | .record title keepsOthers fields, hs => by
    simp only [Shape.returns, Bool.and_eq_true] at hs
    obtain ⟨⟨rfl, hapart⟩, hreturn⟩ := hs
    exact record_exportsAlike hapart hreturn (fields_exportAlike fields hreturn)

theorem fields_exportAlike : ∀ fields : List (RecordField Shape), fieldsReturn fields →
    ∀ f ∈ fields, ExportsAlike f.shape
  | [], _, _, hf => by cases hf
  | ⟨name, key, shape, whenAbsent⟩ :: rest, h, f, hf => by
    simp only [fieldsReturn, Bool.and_eq_true] at h
    obtain ⟨⟨-, hshape⟩, hrest⟩ := h
    rcases List.mem_cons.1 hf with rfl | hf
    · exact check_exportsAlike shape hshape
    · exact fields_exportAlike rest hrest f hf

end

end BlockNotebook.Schema
