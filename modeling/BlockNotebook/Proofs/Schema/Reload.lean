import BlockNotebook.Proofs.Schema.Below
import BlockNotebook.Proofs.Value.Closed
/-!
Checked data, checked again.

What a check makes of plain data is written back with the fields under their keys,
with the data of defaults, and with scalars of the kind that the shape wants. It
need not be what was read. But it is `Settled`: a further check changes nothing
any more. `check_settles` shows this for every shape in which the data of a
tagged arm still names the arm.
-/

namespace BlockNotebook.Schema

/-- What a check gave back passes the check again, and is given back once more. -/
structure Settled (s : Shape) (c : Checked) : Prop where
  closed : c.toValue.IsClosed
  again : check s c.toValue = .ok c

/-! ## Scalars -/

theorem settled_str {s : Shape} {t : Text} (h : check s (.str t) = .ok (.plain (.str t))) : Settled s (.plain (.str t)) :=
  ⟨Value.isClosed_str t, h⟩

theorem readTexts_map_str (ts : List Text) : readTexts (ts.map .str) = some (ts.map .str) := by
  induction ts with
  | nil => rfl
  | cons t rest ih =>
    unfold readTexts at ih ⊢
    rw [List.map_cons, List.mapM_cons, ih]
    rfl

theorem settled_choice {options : List String} {o : String} (ho : o ∈ options) :
    Settled (.choice options) (.plain (.str o)) := by
  have hany : (options.any fun p => (o : Text) == p) = true :=
    List.any_eq_true.2 ⟨o, ho, beq_self_eq_true _⟩
  refine settled_str ?_
  rw [check, checkChoice, if_pos hany]

theorem settled_texts (ts : List Text) : Settled .textOrTexts (.plain (.list (ts.map .str))) := by
  have hclosed : ∀ x ∈ ts.map Value.str, x.IsClosed := fun x hx => by
    obtain ⟨t, -, rfl⟩ := List.mem_map.1 hx
    exact Value.isClosed_str t
  refine ⟨Value.isClosed_list hclosed, ?_⟩
  unfold Checked.toValue check checkTextOrTexts
  rw [Value.items?_list hclosed, Option.bind_some, readTexts_map_str]
  rfl

theorem settled_pair (s t : Text) : Settled .textOrPair (.plain (.pair (.str s) (.str t))) :=
  ⟨Value.isClosed_pair (Value.isClosed_str s) (Value.isClosed_str t), rfl⟩

theorem settled_of_textOrTexts {c : Checked} (h : Fits .textOrTexts c) : Settled .textOrTexts c := by
  cases h with
  | oneText t => exact settled_str rfl
  | texts ts => exact settled_texts ts

theorem settled_of_textOrPair {c : Checked} (h : Fits .textOrPair c) : Settled .textOrPair c := by
  cases h with
  | notPair t => exact settled_str rfl
  | pair s t => exact settled_pair s t

/-! ## Open mappings -/

theorem collect_map_ok {α : Type} (as : List α) : collect (as.map .ok) = .ok as := by
  induction as with
  | nil => rfl
  | cons a as ih =>
    rw [List.map_cons]
    unfold collect
    rw [ih]

/-- Of entries under texts an open mapping takes all; of those with one key the last one gives the value. -/
theorem checkOpenMapping_of_texts {v : Value} {entries : List (Value × Value)} (hv : v.entries? = some entries)
    (hkeys : ∀ e ∈ entries, ∃ k, e.1 = .str k) :
    checkOpenMapping v = .ok (.plain (.map (Value.gather [] entries))) := by
  have hparts : checkOpenMapping v =
      (collect (entries.map .ok)).map fun es => .plain (.map (Value.gather [] es)) := by
    unfold checkOpenMapping
    rw [hv]
    refine congrArg (fun rs => (collect rs).map fun es => Checked.plain (.map (Value.gather [] es)))
      (List.map_congr_left fun e he => ?_)
    obtain ⟨k, hk⟩ := hkeys e he
    obtain ⟨key, x⟩ := e
    subst hk
    rfl
  rw [hparts, collect_map_ok]
  rfl

theorem checkOpenMapping_settles {v : Value} (hv : v.IsPlain) {c : Checked} (h : checkOpenMapping v = .ok c) :
    Settled .openMapping c := by
  cases hentries : v.entries? with
  | none =>
    rw [checkOpenMapping, hentries] at h
    cases h
  | some entries =>
    obtain ⟨-, hkeys, hplain⟩ := hv.of_entries? hentries
    obtain rfl := Except.ok.inj (h.symm.trans (checkOpenMapping_of_texts hentries hkeys))
    have hgathered : ∀ e ∈ Value.gather [] entries, (∃ t, e.1 = .str t) ∧ e.2.IsPlain :=
      Value.forall_mem_gather (P := fun k => ∃ t, k = .str t) (List.forall_mem_nil _) fun e he => ⟨hkeys e he, hplain e he⟩
    have hclosed : ∀ e ∈ Value.gather [] entries, e.2.IsClosed := fun e he => (hgathered e he).2.isClosed
    have hkept : Value.gather [] (Value.gather [] entries) = Value.gather [] entries :=
      @Value.gather_of_keysDistinct [] _ (Value.KeysDistinct.gather .nil entries)
    refine ⟨Value.isClosed_map hclosed, ?_⟩
    rw [Checked.toValue, check, checkOpenMapping_of_texts (Value.entries?_map hclosed) fun e he => (hgathered e he).1,
      hkept]

/-! ## Fields -/

/-- Null, or a mapping without entries. -/
def isBlank : Value → Bool
  | .null => true
  | .map [] => true
  | _ => false

theorem isPlain_of_isBlank {v : Value} (h : isBlank v) : v.IsPlain := by
  unfold isBlank at h
  split at h
  · exact .null
  · exact .map (List.forall_mem_nil _) (List.forall_mem_nil _)
  · cases h

/-- A field that was given back is what the check makes of some data: of what gives the field, or else of what stands
for it. -/
theorem source_of_fieldVerdict {f : RecordField Shape} {v : Value} {entries : List (Value × Value)} {e : String × Checked}
    (h : fieldVerdict f v entries = .ok e) :
    e.1 = f.key ∧ ∃ x, check f.shape x = .ok e.2 ∧
      ((∃ used, f.find entries = some (used, x)) ∨ (f.find entries = none ∧ f.whenAbsent = some x)) := by
  unfold fieldVerdict at h
  obtain ⟨c, hc, rfl⟩ := map_eq_ok h
  refine ⟨rfl, ?_⟩
  split at hc
  · rename_i used x hfind
    exact ⟨x, under_eq_ok hc, .inl ⟨used, hfind⟩⟩
  · rename_i hfind
    split at hc
    · rename_i x hx
      exact ⟨x, hc, .inr ⟨hfind, hx⟩⟩
    · cases hc

/-- Every field of a record has checked data. -/
theorem exists_of_verdicts {fields : List (RecordField Shape)} {v : Value} {entries : List (Value × Value)}
    {fs : List (String × Checked)} (h : fields.map (fieldVerdict · v entries) = fs.map .ok) {f : RecordField Shape}
    (hf : f ∈ fields) : ∃ e ∈ fs, e.1 = f.key := by
  have hmem := List.mem_map_of_mem (f := (fieldVerdict · v entries)) hf
  rw [h] at hmem
  obtain ⟨e, he, hverdict⟩ := List.mem_map.1 hmem
  exact ⟨e, he, (source_of_fieldVerdict hverdict.symm).1⟩

theorem isPlain_of_source {f : RecordField Shape} (hblank : f.whenAbsent.all isBlank) {entries : List (Value × Value)}
    (hplain : ∀ e ∈ entries, e.2.IsPlain) {x : Value}
    (h : (∃ used, f.find entries = some (used, x)) ∨ (f.find entries = none ∧ f.whenAbsent = some x)) : x.IsPlain := by
  rcases h with ⟨used, hfind⟩ | ⟨-, hx⟩
  · rcases find_cases f entries with ⟨u, y, hfind', -, hy⟩ | ⟨hnone, -⟩
    · cases hfind.symm.trans hfind'
      exact hplain _ (Value.mem_of_lookup hy)
    · cases hfind.symm.trans hnone
  · rw [hx] at hblank
    exact isPlain_of_isBlank hblank

theorem lookup_fieldsToEntries {fs : List (String × Checked)} {name : String} {d : Checked}
    (h : fs.lookup name = some d) (others : List (Value × Value)) :
    Value.lookup name (fieldsToEntries fs ++ others) = some d.toValue := by
  induction fs with
  | nil => cases h
  | cons e rest ih =>
    rw [fieldsToEntries, List.cons_append, Value.lookup, Text.ofString_beq]
    rw [List.lookup_cons, Bool.beq_comm] at h
    split at h
    · rename_i hname
      cases h
      rw [if_pos hname]
    · rename_i hname
      rw [if_neg (Bool.eq_false_iff.1 hname)]
      exact ih h

theorem mem_fieldsToEntries {fs : List (String × Checked)} {e : Value × Value} (h : e ∈ fieldsToEntries fs) :
    ∃ f ∈ fs, e = (.str f.1, f.2.toValue) := by
  induction fs with
  | nil => cases h
  | cons f rest ih =>
    rcases List.mem_cons.1 h with rfl | h
    · exact ⟨f, List.mem_cons_self, rfl⟩
    · obtain ⟨g, hg, he⟩ := ih h
      exact ⟨g, List.mem_cons_of_mem _ hg, he⟩

/-! ## Other entries -/

/-- The key of an entry is one of those that give fields. -/
def isUsed (used : List String) : Value → Bool
  | .str k => used.any (k == ·)
  | _ => false

theorem isUsed_iff {used : List String} {key : Value} : isUsed used key ↔ ∃ k ∈ used, key = .str k := by
  cases key with
  | str k => simp [isUsed]
  | _ => simp [isUsed]

theorem checkOthers_of_texts {used : List String} {entries : List (Value × Value)}
    (hkeys : ∀ e ∈ entries, ∃ k, e.1 = .str k) :
    checkOthers used entries = .ok (entries.filter fun e => !isUsed used e.1) := by
  have hparts : checkOthers used entries =
      (collect ((entries.map fun e => if isUsed used e.1 then none else some e).map .ok)).map (·.filterMap id) := by
    unfold checkOthers
    rw [List.map_map]
    refine congrArg (fun rs => (collect rs).map (·.filterMap id)) (List.map_congr_left fun e he => ?_)
    obtain ⟨k, hk⟩ := hkeys e he
    obtain ⟨key, x⟩ := e
    subst hk
    rfl
  rw [hparts, collect_map_ok]
  refine congrArg Except.ok (List.filterMap_map.trans ?_)
  rw [← List.filterMap_eq_filter]
  refine congrArg (List.filterMap · entries) (funext fun e => ?_)
  cases hused : isUsed used e.1 <;> simp [hused, Option.guard]

/-- What a record with certain entries gives back besides its fields. -/
def othersOf (keepsOthers : Bool) (used : List String) (entries : List (Value × Value)) : List (Value × Value) :=
  if keepsOthers then entries.filter fun e => !isUsed used e.1 else []

theorem recordVerdict_of_texts {keepsOthers : Bool} {used : List String} {entries : List (Value × Value)}
    (hkeys : ∀ e ∈ entries, ∃ k, e.1 = .str k) {fields : Verdict (List (String × Checked))} {c : Checked} :
    recordVerdict keepsOthers used entries fields = .ok c ↔
      (keepsOthers → ∀ e ∈ entries, isBrokenKey e.1 = false) ∧
        ∃ fs, fields = .ok fs ∧ c = .record fs (othersOf keepsOthers used entries) := by
  unfold recordVerdict othersOf
  cases keepsOthers with
  | false =>
    cases fields with
    | ok fs => simp [@eq_comm _ c]
    | error is => simp
  | true =>
    simp only [if_true, checkOthers_of_texts hkeys]
    cases hbroken : (entries.map (·.1)).find? isBrokenKey with
    | some key =>
      have hmem := List.mem_of_find?_eq_some hbroken
      have hkey := List.find?_some hbroken
      obtain ⟨e, he, rfl⟩ := List.mem_map.1 hmem
      refine ⟨by rintro ⟨⟩, fun h => ?_⟩
      rw [h.1 trivial e he] at hkey
      cases hkey
    | none =>
      have hall : ∀ e ∈ entries, isBrokenKey e.1 = false := fun e he =>
        Bool.eq_false_iff.2 (List.find?_eq_none.1 hbroken _ (List.mem_map_of_mem he))
      cases fields with
      | ok fs => simp [@eq_comm _ c]; exact fun _ e x he => hall (e, x) he
      | error is => simp

theorem lookup_ne_none {entries : List (Value × Value)} {e : Value × Value} (he : e ∈ entries) {key : Text}
    (hkey : e.1 = .str key) : Value.lookup key entries ≠ none := by
  induction entries with
  | nil => cases he
  | cons d rest ih =>
    obtain ⟨k, x⟩ := d
    unfold Value.lookup
    split
    · rename_i h; cases h
    · rename_i h
      cases h
      split
      · exact Option.some_ne_none _
      · rename_i hne
        rcases List.mem_cons.1 he with rfl | he
        · cases hkey; exact absurd (beq_self_eq_true _) hne
        · exact ih he
    · rename_i hne h
      cases h
      rcases List.mem_cons.1 he with rfl | he
      · exact (hne key x (Prod.ext hkey rfl)).elim
      · exact ih he

/-- The key of a field always gives the field. -/
theorem key_mem_usedKeys {fields : List (RecordField Shape)} {f : RecordField Shape} (hf : f ∈ fields)
    {entries : List (Value × Value)} {e : Value × Value} (he : e ∈ entries) (hkey : e.1 = .str f.key) :
    f.key ∈ usedKeys fields entries := by
  refine List.mem_filterMap.2 ⟨f, hf, ?_⟩
  rw [RecordField.find]
  cases hx : Value.lookup f.key entries with
  | some x => rfl
  | none => exact absurd hx (lookup_ne_none he hkey)

theorem othersOf_subset {keepsOthers : Bool} {used : List String} {entries : List (Value × Value)} {e : Value × Value}
    (h : e ∈ othersOf keepsOthers used entries) : e ∈ entries := by
  unfold othersOf at h
  split at h
  · exact (List.mem_filter.1 h).1
  · cases h

/-- When the fields are written by their keys, the other entries are the same as before. -/
theorem othersOf_again (keepsOthers : Bool) {fields : List (RecordField Shape)} {fs : List (String × Checked)}
    (hkeys : ∀ e ∈ fs, e.1 ∈ fields.map (·.key)) (entries : List (Value × Value)) :
    othersOf keepsOthers (fields.map (·.key))
        (fieldsToEntries fs ++ othersOf keepsOthers (usedKeys fields entries) entries) =
      othersOf keepsOthers (usedKeys fields entries) entries := by
  cases keepsOthers with
  | false => rfl
  | true =>
    have hfields : ∀ e ∈ fieldsToEntries fs, ¬ (!isUsed (fields.map (·.key)) e.1) := fun e he => by
      obtain ⟨f, hf, rfl⟩ := mem_fieldsToEntries he
      simpa using isUsed_iff.2 ⟨f.1, hkeys f hf, rfl⟩
    have hothers : ∀ e ∈ entries.filter (fun e => !isUsed (usedKeys fields entries) e.1),
        (!isUsed (fields.map (·.key)) e.1) := fun e he => by
      obtain ⟨hmem, hunused⟩ := List.mem_filter.1 he
      refine Bool.not_eq_true' _ ▸ Bool.eq_false_iff.2 fun hused => ?_
      obtain ⟨k, hk, hkey⟩ := isUsed_iff.1 hused
      obtain ⟨f, hf, rfl⟩ := List.mem_map.1 hk
      rw [isUsed_iff.2 ⟨f.key, key_mem_usedKeys hf hmem hkey, hkey⟩] at hunused
      cases hunused
    simp only [othersOf, if_true]
    rw [List.filter_append, List.filter_eq_nil_iff.2 hfields, List.nil_append, List.filter_eq_self.2 hothers]

/-! ## Shapes -/

/-- Plain data of the shape is kept as it is given. -/
def Shape.keeps : Shape → Bool
  | .any | .text | .choice _ => true
  | .nullable s => s.keeps
  | _ => false

/-- The field at a key keeps what it is given there, and is null when it is left out. -/
def Shape.keepsAt (key : String) : Shape → Bool
  | .record _ _ fields =>
    match fields.find? (·.key == key) with
    | some f => f.name == key && f.shape.keeps && f.whenAbsent.all (· matches .null)
    | none => false
  | _ => false

mutual

/-- What a check makes of data of the shape can be written and checked again: no two fields of a record have one key,
what stands for a field that is left out is blank, and the data of an arm names the arm. -/
def Shape.settles : Shape → Bool
  | .nullable s => s.settles
  | .listOf s => s.settles
  | .record _ _ fields => fieldsSettle fields
  | .tagged key otherwise arms => arms.any (·.1 == otherwise) && armsSettle key arms
  | _ => true

def fieldsSettle : List (RecordField Shape) → Bool
  | [] => true
  | ⟨_, key, shape, whenAbsent⟩ :: rest =>
    whenAbsent.all isBlank && rest.all (·.key != key) && shape.settles && fieldsSettle rest

def armsSettle (key : String) : List (String × Shape) → Bool
  | [] => true
  | (_, shape) :: rest => shape.keepsAt key && shape.settles && armsSettle key rest

end

theorem eq_plain_of_keeps : ∀ (s : Shape), s.keeps → ∀ {v : Value} {c : Checked}, v.IsPlain → check s v = .ok c →
    c = .plain v
  | .any, _, v, c, _, h => by cases h; rfl
  | .text, _, v, c, hv, h => by
    rw [check, scalar] at h
    cases hv <;> cases h
    rfl
  | .choice options, _, v, c, _, h => by
    unfold check checkChoice at h
    split at h
    · split at h
      · cases h; rfl
      · cases h
    · cases h
  | .nullable s, hs, v, c, hv, h => by
    unfold check at h
    split at h
    · cases h; rfl
    · exact eq_plain_of_keeps s hs hv h

/-! ## Records -/

theorem fieldsSettle_mem {fields : List (RecordField Shape)} (hs : fieldsSettle fields) {f : RecordField Shape}
    (hf : f ∈ fields) : f.whenAbsent.all isBlank ∧ fields.find? (·.key == f.key) = some f := by
  induction fields with
  | nil => cases hf
  | cons g rest ih =>
    simp only [fieldsSettle, Bool.and_eq_true] at hs
    obtain ⟨⟨⟨hblank, hnew⟩, -⟩, hrest⟩ := hs
    rcases List.mem_cons.1 hf with rfl | hf
    · exact ⟨hblank, by rw [List.find?_cons, beq_self_eq_true]⟩
    · obtain ⟨hfblank, hfind⟩ := ih hrest hf
      have hne : (g.key == f.key) = false := by
        have h := List.all_eq_true.1 hnew f hf
        rw [beq_eq_false_iff_ne]
        exact fun he => bne_iff_ne.1 h he.symm
      exact ⟨hfblank, by rw [List.find?_cons, hne]; exact hfind⟩

/-- A field that is found by its key again is given back again. -/
theorem fieldVerdict_again {f : RecordField Shape} {d : Checked} (hd : Settled f.shape d) {entries : List (Value × Value)}
    (hlookup : Value.lookup f.key entries = some d.toValue) (v : Value) : fieldVerdict f v entries = .ok (f.key, d) := by
  have hfind : f.find entries = some (f.key, d.toValue) := by rw [RecordField.find, hlookup]
  unfold fieldVerdict
  rw [hfind]
  dsimp only
  rw [hd.again]
  rfl

theorem usedKeys_of_lookup {fields : List (RecordField Shape)} {entries : List (Value × Value)}
    (h : ∀ f ∈ fields, ∃ x, Value.lookup f.key entries = some x) : usedKeys fields entries = fields.map (·.key) := by
  unfold usedKeys
  induction fields with
  | nil => rfl
  | cons f rest ih =>
    obtain ⟨⟨x, hx⟩, hrest⟩ := List.forall_mem_cons.1 h
    have hfind : (f.find entries).map (·.1) = some f.key := by rw [RecordField.find, hx]; rfl
    rw [List.filterMap_cons_some (f := fun f : RecordField Shape => (f.find entries).map (·.1)) hfind, ih hrest,
      List.map_cons]

/-- A record settles when its fields do. -/
theorem record_settles {title : String} {keepsOthers : Bool} {fields : List (RecordField Shape)}
    (hs : fieldsSettle fields)
    (hsettle : ∀ f ∈ fields, ∀ {x : Value} {d : Checked}, x.IsPlain → check f.shape x = .ok d → Settled f.shape d)
    {v : Value} {c : Checked} (hv : v.IsPlain) (h : check (.record title keepsOthers fields) v = .ok c) :
    Settled (.record title keepsOthers fields) c := by
  cases hentries : v.entries? with
  | none =>
    rw [check, hentries] at h
    cases h
  | some entries =>
    obtain ⟨-, hkeys, hplain⟩ := hv.of_entries? hentries
    rw [check, hentries] at h
    obtain ⟨hunbroken, fs, hfs, rfl⟩ := (recordVerdict_of_texts hkeys).1 h
    have hverdicts : fields.map (fieldVerdict · v entries) = fs.map .ok := by
      rw [← checkFields_eq_map]
      exact collect_eq_ok hfs
    have hsource {f : RecordField Shape} (hf : f ∈ fields) {e : String × Checked}
        (he : fieldVerdict f v entries = .ok e) : e.1 = f.key ∧ Settled f.shape e.2 := by
      obtain ⟨hkey, x, hx, hgiven⟩ := source_of_fieldVerdict he
      exact ⟨hkey, hsettle f hf (isPlain_of_source (fieldsSettle_mem hs hf).1 hplain hgiven) hx⟩
    have hfield : ∀ e ∈ fs, ∃ f ∈ fields, e.1 = f.key ∧ Settled f.shape e.2 := fun e he => by
      obtain ⟨f, hf, hfe⟩ := mem_of_verdicts hverdicts he
      exact ⟨f, hf, hsource hf hfe⟩
    -- The record as data: the fields by their keys, then the other entries.
    generalize hothers : othersOf keepsOthers (usedKeys fields entries) entries = others
    have hothersmem : ∀ e ∈ others, e ∈ entries := fun e he => othersOf_subset (hothers ▸ he)
    have hlookup : ∀ f ∈ fields, ∃ d, fieldVerdict f v entries = .ok (f.key, d) ∧ Settled f.shape d ∧
        Value.lookup f.key (fieldsToEntries fs ++ others) = some d.toValue := fun f hf => by
      obtain ⟨d, hd, hfd⟩ := lookup_of_verdicts hverdicts (fieldsSettle_mem hs hf).2
      exact ⟨d, hfd, (hsource hf hfd).2, lookup_fieldsToEntries hd others⟩
    have hclosed : ∀ e ∈ fieldsToEntries fs ++ others, e.2.IsClosed := fun e he => by
      rcases List.mem_append.1 he with he | he
      · obtain ⟨g, hg, rfl⟩ := mem_fieldsToEntries he
        obtain ⟨f, -, -, hset⟩ := hfield g hg
        exact hset.closed
      · exact (hplain e (hothersmem e he)).isClosed
    have htexts : ∀ e ∈ fieldsToEntries fs ++ others, ∃ k, e.1 = .str k := fun e he => by
      rcases List.mem_append.1 he with he | he
      · obtain ⟨g, -, rfl⟩ := mem_fieldsToEntries he
        exact ⟨_, rfl⟩
      · exact hkeys e (hothersmem e he)
    have hunbroken' : keepsOthers → ∀ e ∈ fieldsToEntries fs ++ others, isBrokenKey e.1 = false := fun hk e he => by
      rcases List.mem_append.1 he with he | he
      · obtain ⟨g, -, rfl⟩ := mem_fieldsToEntries he
        exact Text.any_isSurrogate_ofChars _
      · exact hunbroken hk e (hothersmem e he)
    refine ⟨Value.isClosed_map hclosed, ?_⟩
    rw [Checked.toValue, check, Value.entries?_map hclosed]
    refine (recordVerdict_of_texts htexts).2 ⟨hunbroken', fs, ?_, ?_⟩
    · have hagain : fields.map (fieldVerdict · (.map (fieldsToEntries fs ++ others)) (fieldsToEntries fs ++ others)) =
          fs.map .ok := by
        rw [← hverdicts]
        refine List.map_congr_left fun f hf => ?_
        obtain ⟨d, hfd, hset, hx⟩ := hlookup f hf
        rw [hfd]
        exact fieldVerdict_again hset hx _
      rw [checkFields_eq_map, hagain, collect_map_ok]
    · have hused : usedKeys fields (fieldsToEntries fs ++ others) = fields.map (·.key) :=
        usedKeys_of_lookup fun f hf => by
          obtain ⟨d, -, -, hx⟩ := hlookup f hf
          exact ⟨_, hx⟩
      have hnames : ∀ e ∈ fs, e.1 ∈ fields.map (·.key) := fun e he => by
        obtain ⟨f, hf, hkey, -⟩ := hfield e he
        exact hkey ▸ List.mem_map_of_mem hf
      rw [hused, ← hothers, othersOf_again keepsOthers hnames]

/-! ## Items -/

theorem listToValues_eq_map (cs : List Checked) : listToValues cs = cs.map Checked.toValue := by
  induction cs with
  | nil => rfl
  | cons c rest ih => rw [listToValues, ih, List.map_cons]

theorem mapIdx_again {s : Shape} {cs : List Checked} (h : ∀ c ∈ cs, Settled s c) (place : Nat → Segment) :
    ((listToValues cs).mapIdx fun i x => under (place i) (check s x)) = cs.map .ok := by
  induction cs generalizing place with
  | nil => rfl
  | cons c rest ih =>
    obtain ⟨hc, hrest⟩ := List.forall_mem_cons.1 h
    rw [listToValues, List.mapIdx_cons, hc.again, ih hrest fun i => place (i + 1)]
    rfl

/-- A list settles when its items do. -/
theorem listOf_settles {s : Shape}
    (hsettle : ∀ {x : Value} {d : Checked}, x.IsPlain → check s x = .ok d → Settled s d) {v : Value} {c : Checked}
    (hv : v.IsPlain) (h : check (.listOf s) v = .ok c) : Settled (.listOf s) c := by
  cases hitems : v.items? with
  | none =>
    rw [check, hitems] at h
    cases h
  | some items =>
    obtain ⟨-, hplain⟩ := hv.of_items? hitems
    rw [check, hitems] at h
    obtain ⟨cs, hcs, rfl⟩ := map_eq_ok h
    have hset : ∀ d ∈ cs, Settled s d := fun d hd => by
      have hmem := List.mem_map_of_mem (f := (Except.ok : _ → Verdict Checked)) hd
      rw [← collect_eq_ok hcs] at hmem
      obtain ⟨i, hi, hdi⟩ := List.mem_mapIdx.1 hmem
      exact hsettle (hplain _ (List.getElem_mem hi)) (under_eq_ok hdi)
    have hclosed : ∀ x ∈ listToValues cs, x.IsClosed := fun x hx => by
      rw [listToValues_eq_map] at hx
      obtain ⟨d, hd, rfl⟩ := List.mem_map.1 hx
      exact (hset d hd).closed
    refine ⟨Value.isClosed_list hclosed, ?_⟩
    rw [Checked.toValue, check, Value.items?_list hclosed]
    dsimp only
    rw [mapIdx_again hset fun i => .index i, collect_map_ok]
    rfl

/-! ## Arms -/

theorem chosenArm_of_null {α : Type} {key : String} (otherwise : String) (arms : List (String × α)) {v : Value}
    (h : v.get? key = some .null) : chosenArm key otherwise arms v = otherwise := by rw [chosenArm, h]

theorem chosenArm_of_none {α : Type} {key : String} (otherwise : String) (arms : List (String × α)) {v : Value}
    (h : v.get? key = none) : chosenArm key otherwise arms v = otherwise := by rw [chosenArm, h]

theorem chosenArm_congr {α : Type} {key : String} (otherwise : String) (arms : List (String × α)) {v w : Value}
    (h : v.get? key = w.get? key) : chosenArm key otherwise arms v = chosenArm key otherwise arms w := by
  rw [chosenArm, chosenArm, h]

theorem chosenArm_known {α : Type} {key otherwise : String} {arms : List (String × α)}
    (h : arms.any (·.1 == otherwise)) (v : Value) : chosenArm key otherwise arms v ∈ arms.map (·.1) := by
  rcases List.mem_cons.1 (chosenArm_mem key otherwise arms v) with he | hmem
  · obtain ⟨arm, harm, hname⟩ := List.any_eq_true.1 h
    rw [he, ← eq_of_beq hname]
    exact List.mem_map_of_mem harm
  · exact hmem

theorem keepsAt_cases {key : String} {s : Shape} (h : s.keepsAt key) : ∃ title keepsOthers fields f,
    s = .record title keepsOthers fields ∧ fields.find? (·.key == key) = some f ∧ f.key = key ∧ f.name = key ∧
      f.shape.keeps ∧ ∀ x, f.whenAbsent = some x → x = .null := by
  unfold Shape.keepsAt at h
  split at h
  · rename_i title keepsOthers fields
    split at h
    · rename_i f hf
      simp only [Bool.and_eq_true, beq_iff_eq] at h
      obtain ⟨⟨hname, hkeeps⟩, hnull⟩ := h
      have hkey : f.key = key := by simpa using List.find?_some hf
      refine ⟨title, keepsOthers, fields, f, rfl, hf, hkey, hname, hkeeps, fun x hx => ?_⟩
      rw [hx] at hnull
      cases x <;> first | rfl | cases hnull
    · cases h
  · cases h

/-- What comes of an arm that keeps its tag chooses the arm that was chosen. -/
theorem chosenArm_toValue {α : Type} {key : String} (otherwise : String) (arms : List (String × α)) {s : Shape}
    (hs : s.keepsAt key) {v : Value} {c : Checked} (hv : v.IsPlain) (h : check s v = .ok c) :
    chosenArm key otherwise arms c.toValue = chosenArm key otherwise arms v := by
  obtain ⟨title, keepsOthers, fields, f, rfl, hf, hkey, hname, hkeeps, hnull⟩ := keepsAt_cases hs
  cases hentries : v.entries? with
  | none =>
    rw [check, hentries] at h
    cases h
  | some entries =>
    obtain ⟨-, -, hplain⟩ := hv.of_entries? hentries
    rw [check, hentries] at h
    obtain ⟨fs, others, hfs, rfl⟩ := recordVerdict_eq_ok h
    have hverdicts := collect_eq_ok hfs
    rw [checkFields_eq_map] at hverdicts
    have hget : v.get? key = Value.lookup key entries := by rw [Value.get?, hentries, Option.bind_some]
    obtain ⟨d, hd, hfield⟩ := lookup_of_verdicts hverdicts hf
    obtain ⟨-, x, hx, hgiven⟩ := source_of_fieldVerdict hfield
    have hagain (hplain : x.IsPlain) : (Checked.record fs others).toValue.get? key = some x := by
      obtain rfl := eq_plain_of_keeps f.shape hkeeps hplain hx
      exact Value.get?_map (lookup_fieldsToEntries hd others) hplain.isClosed
    rcases find_cases f entries with ⟨used, y, hfind, hused, hy⟩ | ⟨hfind, hnone⟩
    · -- The tag is given, and kept.
      obtain rfl : used = key := hused.elim (·.trans hkey) (·.trans hname)
      rcases hgiven with ⟨u, hu⟩ | ⟨hnone, -⟩
      · cases hfind.symm.trans hu
        exact chosenArm_congr otherwise arms ((hagain (hplain _ (Value.mem_of_lookup hy))).trans (hget.trans hy).symm)
      · cases hfind.symm.trans hnone
    · -- The tag is left out, and null is put in its place; neither names an arm.
      rcases hgiven with ⟨u, hu⟩ | ⟨-, habsent⟩
      · cases hfind.symm.trans hu
      · cases hnull x habsent
        rw [chosenArm_of_null otherwise arms (hagain .null),
          chosenArm_of_none otherwise arms (hget.trans (hkey ▸ hnone))]

/-! ## Every shape -/

mutual

/-- Only null is checked to null. -/
theorem toValue_ne_null : ∀ (s : Shape) {v : Value} {c : Checked}, v ≠ .null → check s v = .ok c → c.toValue ≠ .null
  | .any, v, c, hv, h => by cases h; exact hv
  | .text, v, c, _, h => by cases check_fits .text h; nofun
  | .flag, v, c, _, h => by cases check_fits .flag h; nofun
  | .whole, v, c, _, h => by cases check_fits .whole h; nofun
  | .number, v, c, _, h => by cases check_fits .number h; nofun
  | .choice options, v, c, _, h => by cases check_fits (.choice options) h; nofun
  | .textOrTexts, v, c, _, h => by cases check_fits .textOrTexts h <;> nofun
  | .textOrPair, v, c, _, h => by cases check_fits .textOrPair h <;> nofun
  | .openMapping, v, c, _, h => by cases check_fits .openMapping h; nofun
  | .nullable s, v, c, hv, h => by
    unfold check at h
    split at h
    · exact absurd rfl hv
    · exact toValue_ne_null s hv h
  | .listOf s, v, c, _, h => by cases check_fits (.listOf s) h; nofun
  | .record title keepsOthers fields, v, c, _, h => by cases check_fits (.record title keepsOthers fields) h; nofun
  | .tagged key otherwise arms, v, c, hv, h => by
    rw [check] at h
    obtain ⟨d, hd, rfl⟩ := map_eq_ok h
    rw [Checked.toValue]
    exact checkArm_ne_null arms hv (under_eq_ok hd)

theorem checkArm_ne_null : ∀ (arms : List (String × Shape)) {tag : String} {v : Value} {c : Checked}, v ≠ .null →
    checkArm arms tag v = .ok c → c.toValue ≠ .null
  | [], tag, v, c, hv, h => by cases h; exact hv
  | (name, shape) :: rest, tag, v, c, hv, h => by
    rw [checkArm] at h
    split at h
    · exact toValue_ne_null shape hv h
    · exact checkArm_ne_null rest hv h

end

mutual

/-- What a check makes of plain data is left as it is by a further check. -/
theorem check_settles : ∀ (s : Shape), s.settles → ∀ {v : Value} {c : Checked}, v.IsPlain → check s v = .ok c →
    Settled s c
  | .any, _, v, c, hv, h => by cases h; exact ⟨hv.isClosed, rfl⟩
  | .text, _, v, c, _, h => by cases check_fits .text h; exact settled_str rfl
  | .flag, _, v, c, _, h => by cases check_fits .flag h; exact ⟨fun _ _ => rfl, rfl⟩
  | .whole, _, v, c, _, h => by cases check_fits .whole h; exact ⟨fun _ _ => rfl, rfl⟩
  | .number, _, v, c, _, h => by cases check_fits .number h; exact ⟨fun _ _ => rfl, rfl⟩
  | .choice options, _, v, c, _, h => by
    cases check_fits (.choice options) h with
    | choice ho => exact settled_choice ho
  | .textOrTexts, _, v, c, _, h => settled_of_textOrTexts (check_fits .textOrTexts h)
  | .textOrPair, _, v, c, _, h => settled_of_textOrPair (check_fits .textOrPair h)
  | .openMapping, _, v, c, hv, h => checkOpenMapping_settles hv h
  | .nullable s, hs, v, c, hv, h => by
    unfold check at h
    split at h
    · cases h; exact ⟨fun _ _ => rfl, rfl⟩
    · rename_i hnull
      have hset := check_settles s hs hv h
      refine ⟨hset.closed, ?_⟩
      unfold check
      split
      · rename_i hc
        exact absurd hc (toValue_ne_null s hnull h)
      · exact hset.again
  | .listOf s, hs, v, c, hv, h => listOf_settles (fun hx => check_settles s hs hx) hv h
  | .record title keepsOthers fields, hs, v, c, hv, h =>
    record_settles hs (fun f hf => fields_settle fields hs f hf) hv h
  | .tagged key otherwise arms, hs, v, c, hv, h => by
    rw [check] at h
    obtain ⟨d, hd, rfl⟩ := map_eq_ok h
    obtain ⟨hother, hs⟩ := Bool.and_eq_true_iff.1 hs
    obtain ⟨s, hkeeps, hcheck, hset, hall⟩ := checkArm_settles arms hs (chosenArm_known hother v) hv (under_eq_ok hd)
    refine ⟨hset.closed, ?_⟩
    rw [Checked.toValue, check, chosenArm_toValue otherwise arms hkeeps hv hcheck, hall, hset.again]
    rfl

theorem fields_settle : ∀ (fields : List (RecordField Shape)), fieldsSettle fields → ∀ f ∈ fields,
    ∀ {v : Value} {c : Checked}, v.IsPlain → check f.shape v = .ok c → Settled f.shape c
  | [], _, _, hf, _, _, _, _ => by cases hf
  | ⟨name, key, shape, whenAbsent⟩ :: rest, hs, f, hf, v, c, hv, h => by
    simp only [fieldsSettle, Bool.and_eq_true] at hs
    obtain ⟨⟨-, hshape⟩, hrest⟩ := hs
    rcases List.mem_cons.1 hf with rfl | hf
    · exact check_settles shape hshape hv h
    · exact fields_settle rest hrest f hf hv h

theorem checkArm_settles : ∀ (arms : List (String × Shape)) {key : String}, armsSettle key arms →
    ∀ {tag : String}, tag ∈ arms.map (·.1) → ∀ {v : Value} {c : Checked}, v.IsPlain → checkArm arms tag v = .ok c →
    ∃ s : Shape, s.keepsAt key ∧ check s v = .ok c ∧ Settled s c ∧ ∀ w, checkArm arms tag w = check s w
  | [], _, _, _, htag, _, _, _, _ => by cases htag
  | (name, shape) :: rest, key, hs, tag, htag, v, c, hv, h => by
    simp only [armsSettle, Bool.and_eq_true] at hs
    obtain ⟨⟨hkeeps, hshape⟩, hrest⟩ := hs
    rw [checkArm] at h
    split at h
    · rename_i hname
      exact ⟨shape, hkeeps, h, check_settles shape hshape hv h, fun w => by rw [checkArm, if_pos hname]⟩
    · rename_i hname
      have htag : tag ∈ rest.map (·.1) := (List.mem_cons.1 htag).resolve_left fun he =>
        hname (he ▸ beq_self_eq_true _)
      obtain ⟨s, hs, hcheck, hset, hall⟩ := checkArm_settles rest hrest htag hv h
      exact ⟨s, hs, hcheck, hset, fun w => by rw [checkArm, if_neg hname, hall]⟩

end

end BlockNotebook.Schema
