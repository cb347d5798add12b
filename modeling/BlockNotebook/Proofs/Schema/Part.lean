import BlockNotebook.Proofs.Schema.Reload
/-!
Parts of data, and what a check makes of them.

`Part` follows data along its shape: through the items of lists and the fields of
records, to a part that has a shape of its own. A field that is left out has its
default for a part. `Part.checked` shows that a check works part by part: what it
gives back holds, at the place of a part, what the check of this part alone gives
back. `source_of_check` is the other direction for mappings: one that is written
back is such a record, or stands inside data that is taken as it is.
-/

namespace BlockNotebook.Schema

/-! ## What holds of all records of a shape -/

mutual

/-- A property of all records inside a shape, of whether they keep other entries and of their fields. -/
def Shape.allRecords (P : Bool → List (RecordField Shape) → Bool) : Shape → Bool
  | .nullable s => s.allRecords P
  | .listOf s => s.allRecords P
  | .record _ keepsOthers fields => P keepsOthers fields && fieldsAllRecords P fields
  | .tagged _ _ arms => armsAllRecords P arms
  | _ => true

def fieldsAllRecords (P : Bool → List (RecordField Shape) → Bool) : List (RecordField Shape) → Bool
  | [] => true
  | ⟨_, _, shape, _⟩ :: rest => shape.allRecords P && fieldsAllRecords P rest

def armsAllRecords (P : Bool → List (RecordField Shape) → Bool) : List (String × Shape) → Bool
  | [] => true
  | (_, shape) :: rest => shape.allRecords P && armsAllRecords P rest

end

section AllRecords

variable {P : Bool → List (RecordField Shape) → Bool}

theorem fieldsAllRecords_mem {fields : List (RecordField Shape)} (h : fieldsAllRecords P fields) {f : RecordField Shape}
    (hf : f ∈ fields) : f.shape.allRecords P := by
  induction fields with
  | nil => cases hf
  | cons g rest ih =>
    obtain ⟨hg, hrest⟩ := Bool.and_eq_true_iff.1 h
    rcases List.mem_cons.1 hf with rfl | hf
    · exact hg
    · exact ih hrest hf

theorem armsAllRecords_lookup {arms : List (String × Shape)} (h : armsAllRecords P arms) {tag : String} {s : Shape}
    (hs : arms.lookup tag = some s) : s.allRecords P := by
  induction arms with
  | nil => cases hs
  | cons a rest ih =>
    obtain ⟨ha, hrest⟩ := Bool.and_eq_true_iff.1 h
    rw [List.lookup_cons] at hs
    split at hs
    · cases hs
      exact ha
    · exact ih hrest hs

end AllRecords

/-! ## Parts -/

/-- The data for a field: what the entries give for it, or else what stands for it. -/
def RecordField.source? {α : Type} (f : RecordField α) (entries : List (Value × Value)) : Option Value :=
  match f.find entries with
  | some (_, x) => some x
  | none => f.whenAbsent

/-- The data of a shape has a part of a shape at a place. A step to a field goes by its key, also where the data gives
the field by its name or leaves it out. -/
inductive Part : Shape → Value → Path → Shape → Value → Prop
  | whole (s : Shape) (v : Value) : Part s v [] s v
  | nullable {s t : Shape} {v x : Value} {p : Path} (hv : v ≠ .null) (h : Part s v p t x) : Part (.nullable s) v p t x
  | item {s t : Shape} {v x y : Value} {items : List Value} {i : Nat} {p : Path} (hv : v.items? = some items)
      (hy : items[i]? = some y) (h : Part s y p t x) : Part (.listOf s) v (.index i :: p) t x
  | field {title : String} {keepsOthers : Bool} {fields : List (RecordField Shape)} {f : RecordField Shape}
      {t : Shape} {v x y : Value} {entries : List (Value × Value)} {p : Path} (hf : f ∈ fields)
      (hv : v.entries? = some entries) (hy : f.source? entries = some y) (h : Part f.shape y p t x) :
      Part (.record title keepsOthers fields) v (.key f.key :: p) t x
  | arm {key otherwise : String} {arms : List (String × Shape)} {s t : Shape} {v x : Value} {p : Path}
      (hs : arms.lookup (chosenArm key otherwise arms v) = some s) (h : Part s v p t x) :
      Part (.tagged key otherwise arms) v p t x

theorem Part.allRecords {P : Bool → List (RecordField Shape) → Bool} {s t : Shape} {v x : Value} {p : Path}
    (h : Part s v p t x) (hs : s.allRecords P) : t.allRecords P := by
  induction h with
  | whole => exact hs
  | nullable _ _ ih => exact ih hs
  | item _ _ _ ih => exact ih hs
  | field hf _ _ _ ih => exact ih (fieldsAllRecords_mem (Bool.and_eq_true_iff.1 hs).2 hf)
  | arm hlookup _ ih => exact ih (armsAllRecords_lookup hs hlookup)

/-! ## Shapes that settle -/

theorem settles_of_mem {fields : List (RecordField Shape)} (h : fieldsSettle fields) {f : RecordField Shape}
    (hf : f ∈ fields) : f.shape.settles := by
  induction fields with
  | nil => cases hf
  | cons g rest ih =>
    simp only [fieldsSettle, Bool.and_eq_true] at h
    rcases List.mem_cons.1 hf with rfl | hf
    · exact h.1.2
    · exact ih h.2 hf

theorem settles_of_lookup {key : String} {arms : List (String × Shape)} (h : armsSettle key arms) {tag : String}
    {s : Shape} (hs : arms.lookup tag = some s) : s.settles := by
  induction arms with
  | nil => cases hs
  | cons a rest ih =>
    simp only [armsSettle, Bool.and_eq_true] at h
    rw [List.lookup_cons] at hs
    split at hs
    · cases hs
      exact h.1.2
    · exact ih h.2 hs

/-! ## A check works part by part -/

/-- A checked record has entries, and each of its fields is what the check of the data for the field gives back. -/
theorem fields_of_record {title : String} {keepsOthers : Bool} {fields : List (RecordField Shape)} {v : Value}
    {c : Checked} (h : check (.record title keepsOthers fields) v = .ok c) :
    ∃ entries fs others, v.entries? = some entries ∧ c = .record fs others ∧
      fields.map (fieldVerdict · v entries) = fs.map .ok := by
  rw [check] at h
  split at h
  · cases h
  · rename_i entries hentries
    obtain ⟨fs, others, hfs, rfl⟩ := recordVerdict_eq_ok h
    refine ⟨entries, fs, others, hentries, rfl, ?_⟩
    rw [← checkFields_eq_map]
    exact collect_eq_ok hfs

theorem source?_of_fieldVerdict {f : RecordField Shape} {v : Value} {entries : List (Value × Value)}
    {e : String × Checked} (h : fieldVerdict f v entries = .ok e) :
    e.1 = f.key ∧ ∃ x, f.source? entries = some x ∧ check f.shape x = .ok e.2 := by
  obtain ⟨hkey, x, hx, hsource⟩ := source_of_fieldVerdict h
  refine ⟨hkey, x, ?_, hx⟩
  unfold RecordField.source?
  rcases hsource with ⟨used, hfind⟩ | ⟨hfind, habsent⟩
  · rw [hfind]
  · rw [hfind, habsent]

/-- A field with one name that must be given is there, and what is read of it is what gives it. -/
theorem given_of_record {title : String} {keepsOthers : Bool} {fields : List (RecordField Shape)} {v : Value}
    {c : Checked} (h : check (.record title keepsOthers fields) v = .ok c) {f : RecordField Shape}
    (hf : fields.find? (·.key == f.key) = some f) (hname : f.name = f.key) (hgiven : f.whenAbsent = none) :
    ∃ x d, v.get? f.key = some x ∧ check f.shape x = .ok d ∧ c.field? f.key = some d := by
  obtain ⟨entries, fs, others, hentries, rfl, hverdicts⟩ := fields_of_record h
  obtain ⟨d, hd, hverdict⟩ := lookup_of_verdicts hverdicts hf
  obtain ⟨-, x, hx, hcheck⟩ := source?_of_fieldVerdict hverdict
  refine ⟨x, d, ?_, hcheck, hd⟩
  unfold RecordField.source? at hx
  split at hx
  · rename_i hfind
    cases hx
    exact (get?_of_find hname hentries hfind).2
  · rw [hgiven] at hx
    cases hx

theorem checkArm_of_lookup {arms : List (String × Shape)} {tag : String} {s : Shape} (h : arms.lookup tag = some s)
    (v : Value) : checkArm arms tag v = check s v := by
  induction arms with
  | nil => cases h
  | cons a rest ih =>
    obtain ⟨name, shape⟩ := a
    rw [List.lookup_cons, Bool.beq_comm] at h
    rw [checkArm]
    split at h
    · rename_i hname
      cases h
      rw [if_pos hname]
    · rename_i hname
      rw [if_neg (by simp [hname])]
      exact ih h

theorem check_nullable {s : Shape} {v : Value} (hv : v ≠ .null) : check (.nullable s) v = check s v := by
  rw [check]
  exact fun he => absurd he hv

/-- Where data has a part, the data written back has what the check of the part gives back. -/
theorem Part.checked {s t : Shape} {v x : Value} {p : Path} (h : Part s v p t x) (hs : s.settles) {c : Checked}
    (hc : check s v = .ok c) : ∃ d, check t x = .ok d ∧ c.toValue.at? p = some d.toValue := by
  -- Along the part: each of its steps is one in the data that is written back.
  induction h generalizing c with
  | whole s v => exact ⟨c, hc, rfl⟩
  | nullable hv _ ih =>
    rw [check_nullable hv] at hc
    exact ih hs hc
  | @item s t v x y items i p hv hy _ ih =>
    obtain ⟨cs, d, rfl, hd, hcheck⟩ := item_of_listOf hc hv hy
    obtain ⟨e, he, hplace⟩ := ih hs hcheck
    have hstep : (Checked.list cs).toValue.step (.index i) = some d.toValue := by
      rw [Checked.toValue, listToValues_eq_map]
      simp [Value.step, hd]
    exact ⟨e, he, (Value.at?_cons hstep p).trans hplace⟩
  | @field title keepsOthers fields f t v x y entries p hf hv hy _ ih =>
    obtain ⟨entries', fs, others, hv', rfl, hverdicts⟩ := fields_of_record hc
    obtain rfl : entries = entries' := Option.some_inj.1 (hv.symm.trans hv')
    obtain ⟨d, hd, hverdict⟩ := lookup_of_verdicts hverdicts (fieldsSettle_mem hs hf).2
    obtain ⟨-, x', hx', hcheck⟩ := source?_of_fieldVerdict hverdict
    obtain rfl : y = x' := Option.some_inj.1 (hy.symm.trans hx')
    obtain ⟨e, he, hplace⟩ := ih (settles_of_mem hs hf) hcheck
    have hstep : (Checked.record fs others).toValue.step (.key f.key) = some d.toValue := by
      rw [Checked.toValue]
      exact lookup_fieldsToEntries hd others
    exact ⟨e, he, (Value.at?_cons hstep p).trans hplace⟩
  | @arm key otherwise arms s t v x p hlookup _ ih =>
    obtain ⟨-, harms⟩ := Bool.and_eq_true_iff.1 hs
    rw [check] at hc
    obtain ⟨d, hd, rfl⟩ := map_eq_ok hc
    have hcheck := under_eq_ok hd
    rw [checkArm_of_lookup hlookup] at hcheck
    obtain ⟨e, he, hplace⟩ := ih (settles_of_lookup harms hlookup) hcheck
    exact ⟨e, he, hplace⟩

/-! ## Where mappings come from -/

/-- A mapping at a place of data written back comes from a record there, or it stands inside data that is taken as it
is: any data, an open mapping, or an entry of a record that is none of its fields. -/
inductive Source (s : Shape) (v : Value) : Path → Prop
  | record {title : String} {keepsOthers : Bool} {fields : List (RecordField Shape)} {x : Value} {p : Path}
      (h : Part s v p (.record title keepsOthers fields) x) : Source s v p
  | entry {title : String} {keepsOthers : Bool} {fields : List (RecordField Shape)} {x : Value} {p : Path} {key : Text}
      (h : Part s v p (.record title keepsOthers fields) x) (hkey : ∀ f ∈ fields, key ≠ Text.ofString f.key)
      (rest : Path) : Source s v (p ++ .key key :: rest)
  | taken {t : Shape} {x : Value} {p : Path} (h : Part s v p t x) (ht : t = .any ∨ t = .openMapping) (rest : Path) :
      Source s v (p ++ rest)

/-- What comes from a part comes from the whole. -/
theorem Source.outward {s t : Shape} {v x : Value} {p : Path} (h : Source t x p) (outer : Path)
    (hpart : ∀ {q u y}, Part t x q u y → Part s v (outer ++ q) u y) : Source s v (outer ++ p) := by
  cases h with
  | record h => exact .record (hpart h)
  | entry h hkey rest =>
    rw [← List.append_assoc]
    exact .entry (hpart h) hkey rest
  | taken h ht rest =>
    rw [← List.append_assoc]
    exact .taken (hpart h) ht rest

/-- Data without parts holds no mapping. -/
theorem at?_ne_map {w : Value} (hw : ∀ entries, w ≠ .map entries) (hstep : ∀ s, w.step s = none) (p : Path)
    (entries : List (Value × Value)) : w.at? p ≠ some (.map entries) := by
  cases p with
  | nil => exact fun h => hw entries (Option.some_inj.1 h)
  | cons s rest =>
    rw [Value.at?, hstep]
    rintro ⟨⟩

theorem at?_texts_ne_map (ts : List Text) (p : Path) (entries : List (Value × Value)) :
    (Value.list (ts.map .str)).at? p ≠ some (.map entries) := by
  intro h
  cases p with
  | nil => cases h
  | cons s rest =>
    obtain ⟨x, hx, hrest⟩ := Option.bind_eq_some_iff.1 h
    obtain ⟨t, rfl⟩ : ∃ t, x = .str t := by
      cases s with
      | index i =>
        rw [Value.step] at hx
        split at hx
        · rw [List.getElem?_map] at hx
          obtain ⟨t, -, rfl⟩ := Option.map_eq_some_iff.1 hx
          exact ⟨t, rfl⟩
        · cases hx
      | _ => cases hx
    refine @at?_ne_map (.str t) ?_ (fun _ => rfl) rest entries hrest
    rintro _ ⟨⟩

/-- Texts, numbers, truth values, and texts side by side. -/
def Shape.isScalar : Shape → Bool
  | .text | .flag | .whole | .number | .choice _ | .textOrTexts | .textOrPair => true
  | _ => false

theorem at?_ne_map_of_isScalar {s : Shape} (hs : s.isScalar) {c : Checked} (h : Fits s c) (p : Path)
    (entries : List (Value × Value)) : c.toValue.at? p ≠ some (.map entries) := by
  cases h with
  | texts ts => exact at?_texts_ne_map ts p entries
  | text | flag | whole | number | choice | oneText | notPair | pair =>
    exact at?_ne_map (by nofun) (fun _ => rfl) p entries
  | _ => cases hs

theorem lookup_cases {fs : List (String × Checked)} {others : List (Value × Value)} {key : Text} {y : Value}
    (h : Value.lookup key (fieldsToEntries fs ++ others) = some y) :
    (∃ e ∈ fs, key = Text.ofString e.1 ∧ y = e.2.toValue) ∨ (∀ e ∈ fs, key ≠ Text.ofString e.1) := by
  induction fs with
  | nil => exact .inr (List.forall_mem_nil _)
  | cons e rest ih =>
    rw [fieldsToEntries, List.cons_append, Value.lookup] at h
    split at h
    · rename_i hkey
      cases h
      exact .inl ⟨e, List.mem_cons_self, (eq_of_beq hkey).symm, rfl⟩
    · rename_i hne
      rcases ih h with ⟨d, hd, hkey, hy⟩ | hnone
      · exact .inl ⟨d, List.mem_cons_of_mem _ hd, hkey, hy⟩
      · exact .inr (List.forall_mem_cons.2 ⟨fun he => hne (he ▸ beq_self_eq_true _), hnone⟩)

section Sources

variable {s : Shape} {v : Value} {c : Checked} {p : Path} {ds : List (Value × Value)}

theorem source_of_listOf
    (hitem : ∀ {x : Value} {d : Checked} {q : Path}, check s x = .ok d → d.toValue.at? q = some (.map ds) → Source s x q)
    (h : check (.listOf s) v = .ok c) (hp : c.toValue.at? p = some (.map ds)) : Source (.listOf s) v p := by
  rw [check] at h
  split at h
  · cases h
  · rename_i items hitems
    obtain ⟨cs, hcs, rfl⟩ := map_eq_ok h
    rw [Checked.toValue, listToValues_eq_map] at hp
    cases p with
    | nil => cases hp
    | cons seg rest =>
      obtain ⟨y, hy, hrest⟩ := Option.bind_eq_some_iff.1 hp
      cases seg with
      | index i =>
        rw [Value.step] at hy
        split at hy
        · rename_i hi
          rw [List.getElem?_map] at hy
          obtain ⟨d, hd, rfl⟩ := Option.map_eq_some_iff.1 hy
          obtain ⟨n, rfl⟩ := Int.eq_ofNat_of_zero_le hi
          rw [Int.toNat_natCast] at hd
          have hverdict : (items.mapIdx fun i x => under (.index i) (check s x))[n]? = some (.ok d) := by
            rw [collect_eq_ok hcs, List.getElem?_map, hd]
            rfl
          rw [List.getElem?_mapIdx] at hverdict
          obtain ⟨x, hx, hcheck⟩ := Option.map_eq_some_iff.1 hverdict
          exact (hitem (under_eq_ok hcheck) hrest).outward [.index n] fun h => .item hitems hx h
        · cases hy
      | _ => cases hy

theorem source_of_record {title : String} {keepsOthers : Bool} {fields : List (RecordField Shape)}
    (hfield : ∀ f ∈ fields, ∀ {x : Value} {d : Checked} {q : Path}, check f.shape x = .ok d →
      d.toValue.at? q = some (.map ds) → Source f.shape x q)
    (h : check (.record title keepsOthers fields) v = .ok c) (hp : c.toValue.at? p = some (.map ds)) :
    Source (.record title keepsOthers fields) v p := by
  obtain ⟨entries, fs, others, hentries, rfl, hverdicts⟩ := fields_of_record h
  rw [Checked.toValue] at hp
  cases p with
  | nil => exact .record (.whole _ _)
  | cons seg rest =>
    obtain ⟨y, hy, hrest⟩ := Option.bind_eq_some_iff.1 hp
    cases seg with
    | key key =>
      -- The key is that of a field, and the path goes on inside the field, or no field has the key.
      rcases lookup_cases hy with ⟨e, he, rfl, rfl⟩ | hnone
      · obtain ⟨f, hf, hverdict⟩ := mem_of_verdicts hverdicts he
        obtain ⟨hkey, x, hx, hcheck⟩ := source?_of_fieldVerdict hverdict
        rw [hkey]
        exact (hfield f hf hcheck hrest).outward [.key f.key] fun h => .field hf hentries hx h
      · refine .entry (.whole _ _) (fun f hf => ?_) rest
        obtain ⟨e, he, hkey⟩ := exists_of_verdicts hverdicts hf
        exact hkey ▸ hnone e he
    | _ => cases hy

end Sources

mutual

/-- Every mapping that is written back comes from somewhere. -/
theorem source_of_check : ∀ (s : Shape), s.settles → ∀ {v : Value} {c : Checked} {p : Path} {ds : List (Value × Value)},
    check s v = .ok c → c.toValue.at? p = some (.map ds) → Source s v p
  | .any, _, v, _, p, _, _, _ => .taken (.whole .any v) (.inl rfl) p
  | .openMapping, _, v, _, p, _, _, _ => .taken (.whole .openMapping v) (.inr rfl) p
  | .text, _, _, _, p, ds, h, hp => absurd hp (at?_ne_map_of_isScalar rfl (check_fits .text h) p ds)
  | .flag, _, _, _, p, ds, h, hp => absurd hp (at?_ne_map_of_isScalar rfl (check_fits .flag h) p ds)
  | .whole, _, _, _, p, ds, h, hp => absurd hp (at?_ne_map_of_isScalar rfl (check_fits .whole h) p ds)
  | .number, _, _, _, p, ds, h, hp => absurd hp (at?_ne_map_of_isScalar rfl (check_fits .number h) p ds)
  | .choice options, _, _, _, p, ds, h, hp => absurd hp (at?_ne_map_of_isScalar rfl (check_fits (.choice options) h) p ds)
  | .textOrTexts, _, _, _, p, ds, h, hp => absurd hp (at?_ne_map_of_isScalar rfl (check_fits .textOrTexts h) p ds)
  | .textOrPair, _, _, _, p, ds, h, hp => absurd hp (at?_ne_map_of_isScalar rfl (check_fits .textOrPair h) p ds)
  | .nullable s, hs, v, c, p, _, h, hp => by
    by_cases hv : v = .null
    · subst hv
      cases h
      exact absurd hp (at?_ne_map (by nofun) (fun _ => rfl) p _)
    · rw [check_nullable hv] at h
      exact (source_of_check s hs h hp).outward [] fun hpart => .nullable hv hpart
  | .listOf s, hs, _, _, _, _, h, hp => source_of_listOf (fun hx hq => source_of_check s hs hx hq) h hp
  | .record _ _ fields, hs, _, _, _, _, h, hp =>
    source_of_record (fun f hf _ _ _ hx hq => source_of_field fields hs f hf hx hq) h hp
  | .tagged key otherwise arms, hs, v, c, p, _, h, hp => by
    obtain ⟨hother, harms⟩ := Bool.and_eq_true_iff.1 hs
    rw [check] at h
    obtain ⟨d, hd, rfl⟩ := map_eq_ok h
    obtain ⟨s, hlookup, hsource⟩ :=
      source_of_arm arms harms (chosenArm_known hother v) (under_eq_ok hd) hp
    exact hsource.outward [] fun hpart => .arm hlookup hpart

theorem source_of_field : ∀ (fields : List (RecordField Shape)), fieldsSettle fields → ∀ f ∈ fields,
    ∀ {v : Value} {c : Checked} {p : Path} {ds : List (Value × Value)}, check f.shape v = .ok c →
    c.toValue.at? p = some (.map ds) → Source f.shape v p
  | [], _, _, hf, _, _, _, _, _, _ => by cases hf
  | ⟨name, key, shape, whenAbsent⟩ :: rest, hs, f, hf, _, _, _, _, h, hp => by
    simp only [fieldsSettle, Bool.and_eq_true] at hs
    rcases List.mem_cons.1 hf with rfl | hf
    · exact source_of_check shape hs.1.2 h hp
    · exact source_of_field rest hs.2 f hf h hp

theorem source_of_arm : ∀ (arms : List (String × Shape)) {key : String}, armsSettle key arms →
    ∀ {tag : String}, tag ∈ arms.map (·.1) → ∀ {v : Value} {c : Checked} {p : Path} {ds : List (Value × Value)},
    checkArm arms tag v = .ok c → c.toValue.at? p = some (.map ds) → ∃ s, arms.lookup tag = some s ∧ Source s v p
  | [], _, _, _, htag, _, _, _, _, _, _ => by cases htag
  | (name, shape) :: rest, key, hs, tag, htag, v, c, p, ds, h, hp => by
    simp only [armsSettle, Bool.and_eq_true] at hs
    rw [checkArm] at h
    rw [List.lookup_cons, Bool.beq_comm]
    split at h
    · rename_i hname
      rw [hname]
      exact ⟨shape, rfl, source_of_check shape hs.1.2 h hp⟩
    · rename_i hname
      rw [Bool.eq_false_iff.2 hname]
      have htag : tag ∈ rest.map (·.1) := (List.mem_cons.1 htag).resolve_left fun he =>
        hname (he ▸ beq_self_eq_true _)
      exact source_of_arm rest hs.2 htag h hp

end

end BlockNotebook.Schema
