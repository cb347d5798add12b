import BlockNotebook.Proofs.Success
import BlockNotebook.Schema.Shape
/-!
What a check gives back.

`Fits` says what data of a shape looks like once it is checked, without saying
what it was read from. `check_fits` is the one place where the checker is
opened for this; what later proofs know about a field of checked data comes from
`FieldsFit.lookup`.
-/

namespace BlockNotebook.Schema

mutual

/-- Checked data has a shape. -/
inductive Fits : Shape → Checked → Prop
  | any (v : Value) : Fits .any (.plain v)
  | text (t : Text) : Fits .text (.plain (.str t))
  | flag (b : Bool) : Fits .flag (.plain (.bool b))
  | whole (i : Int) : Fits .whole (.plain (.int i))
  | number (x : Binary64) : Fits .number (.plain (.float x))
  | choice {options : List String} {o : String} (h : o ∈ options) : Fits (.choice options) (.plain (.str o))
  | oneText (t : Text) : Fits .textOrTexts (.plain (.str t))
  | texts (ts : List Text) : Fits .textOrTexts (.plain (.list (ts.map .str)))
  | notPair (t : Text) : Fits .textOrPair (.plain (.str t))
  | pair (s t : Text) : Fits .textOrPair (.plain (.pair (.str s) (.str t)))
  | null (s : Shape) : Fits (.nullable s) (.plain .null)
  | given {s : Shape} {c : Checked} (h : Fits s c) : Fits (.nullable s) c
  | list {s : Shape} {cs : List Checked} (h : ∀ c ∈ cs, Fits s c) : Fits (.listOf s) (.list cs)
  | openMapping (entries : List (Value × Value)) : Fits .openMapping (.plain (.map entries))
  | record {title : String} {keepsOthers : Bool} {fields : List (RecordField Shape)} {fs : List (String × Checked)}
      {others : List (Value × Value)} (h : FieldsFit fields fs) :
      Fits (.record title keepsOthers fields) (.record fs others)
  | arm {key otherwise name : String} {arms : List (String × Shape)} {s : Shape} {c : Checked}
      (hs : (name, s) ∈ arms) (h : Fits s c) : Fits (.tagged key otherwise arms) (.arm name c)
  /-- Data may choose an arm that is not there. -/
  | noArm {key otherwise name : String} {arms : List (String × Shape)} {v : Value}
      (h : ∀ s, (name, s) ∉ arms) : Fits (.tagged key otherwise arms) (.arm name (.plain v))

/-- The fields of checked data have the shapes of the fields of a record. -/
inductive FieldsFit : List (RecordField Shape) → List (String × Checked) → Prop
  | nil : FieldsFit [] []
  | cons {f : RecordField Shape} {c : Checked} {fields : List (RecordField Shape)} {fs : List (String × Checked)}
      (h : Fits f.shape c) (hs : FieldsFit fields fs) : FieldsFit (f :: fields) ((f.key, c) :: fs)

end

/-! ## Verdicts on several parts -/

theorem collect_eq_ok {α : Type} {rs : List (Verdict α)} {as : List α} (h : collect rs = .ok as) :
    rs = as.map .ok := by
  induction rs generalizing as with
  | nil => cases h; rfl
  | cons r rs ih =>
    unfold collect at h
    split at h
    · rename_i a bs hbs
      cases h
      rw [List.map_cons, ih hbs]
    all_goals cases h

theorem under_eq_ok {α : Type} {s : Segment} {r : Verdict α} {a : α} (h : under s r = .ok a) : r = .ok a := by
  cases r with
  | error is => cases h
  | ok b => cases h; rfl

/-! ## Scalars -/

theorem scalar_eq_ok {α : Type} {read : Value → Except Cause α} {write : α → Value} {v : Value} {c : Checked}
    (h : scalar read write v = .ok c) : ∃ a, c = .plain (write a) := by
  unfold scalar at h
  split at h
  · cases h; exact ⟨_, rfl⟩
  · cases h

theorem checkChoice_fits {options : List String} {v : Value} {c : Checked} (h : checkChoice options v = .ok c) :
    Fits (.choice options) c := by
  unfold checkChoice at h
  split at h
  · split at h
    · rename_i t hany
      cases h
      obtain ⟨o, ho, ht⟩ := List.any_eq_true.1 hany
      rw [eq_of_beq ht]
      exact .choice ho
    · cases h
  · cases h

theorem readTexts_eq_some {items texts : List Value} (h : readTexts items = some texts) :
    ∃ ts : List Text, texts = ts.map .str := by
  induction items generalizing texts with
  | nil => cases h; exact ⟨[], rfl⟩
  | cons v rest ih =>
    simp only [readTexts, List.mapM_cons, Option.bind_eq_bind, Option.pure_def, Option.bind_eq_some_iff,
      Option.map_eq_some_iff, Option.some.injEq] at h
    obtain ⟨_, ⟨t, -, rfl⟩, others, hothers, rfl⟩ := h
    obtain ⟨ts, rfl⟩ := ih hothers
    exact ⟨t :: ts, rfl⟩

theorem checkTextOrTexts_fits {v : Value} {c : Checked} (h : checkTextOrTexts v = .ok c) : Fits .textOrTexts c := by
  unfold checkTextOrTexts at h
  split at h
  · cases h; exact .oneText _
  · split at h
    · rename_i texts htexts
      cases h
      obtain ⟨items, -, hitems⟩ := Option.bind_eq_some_iff.1 htexts
      obtain ⟨ts, rfl⟩ := readTexts_eq_some hitems
      exact .texts ts
    · cases h

theorem checkTextOrPair_fits {v : Value} {c : Checked} (h : checkTextOrPair v = .ok c) : Fits .textOrPair c := by
  unfold checkTextOrPair at h
  split at h
  · cases h; exact .notPair _
  · split at h
    · rename_i a b hab
      cases h
      obtain ⟨items, -, hitems⟩ := Option.bind_eq_some_iff.1 hab
      obtain ⟨ts, hts⟩ := readTexts_eq_some hitems
      obtain ⟨s, _, rfl, rfl, hrest⟩ := List.map_eq_cons_iff.1 hts.symm
      obtain ⟨t, _, rfl, rfl, hnil⟩ := List.map_eq_cons_iff.1 hrest
      exact .pair s t
    · cases h

/-! ## Every shape -/

theorem recordVerdict_eq_ok {keepsOthers : Bool} {used : List String} {entries : List (Value × Value)}
    {fields : Verdict (List (String × Checked))} {c : Checked}
    (h : recordVerdict keepsOthers used entries fields = .ok c) :
    ∃ fs others, fields = .ok fs ∧ c = .record fs others := by
  unfold recordVerdict at h
  split at h
  · cases h
  · split at h
    · cases h; exact ⟨_, _, rfl, rfl⟩
    all_goals cases h

mutual

/-- What a check gives back has the shape. -/
theorem check_fits : ∀ (s : Shape) {v : Value} {c : Checked}, check s v = .ok c → Fits s c
  | .any, v, c, h => by cases h; exact .any v
  | .text, v, c, h => by obtain ⟨t, rfl⟩ := scalar_eq_ok h; exact .text t
  | .flag, v, c, h => by obtain ⟨b, rfl⟩ := scalar_eq_ok h; exact .flag b
  | .whole, v, c, h => by obtain ⟨i, rfl⟩ := scalar_eq_ok h; exact .whole i
  | .number, v, c, h => by obtain ⟨x, rfl⟩ := scalar_eq_ok h; exact .number x
  | .choice _, v, c, h => checkChoice_fits h
  | .textOrTexts, v, c, h => checkTextOrTexts_fits h
  | .textOrPair, v, c, h => checkTextOrPair_fits h
  | .nullable s, v, c, h => by
    unfold check at h
    split at h
    · cases h; exact .null s
    · exact .given (check_fits s h)
  | .listOf s, v, c, h => by
    rw [check] at h
    split at h
    · cases h
    · rename_i items hitems
      obtain ⟨cs, hcs, rfl⟩ := map_eq_ok h
      refine .list fun c hc => ?_
      have hmem : Except.ok c ∈ items.mapIdx fun i x => under (.index i) (check s x) := by
        rw [collect_eq_ok hcs]
        exact List.mem_map_of_mem hc
      obtain ⟨i, hi, he⟩ := List.mem_mapIdx.1 hmem
      exact check_fits s (under_eq_ok he)
  | .openMapping, v, c, h => by
    rw [check, checkOpenMapping] at h
    split at h
    · cases h
    · obtain ⟨es, -, rfl⟩ := map_eq_ok h
      exact .openMapping _
  | .record title keepsOthers fields, v, c, h => by
    rw [check] at h
    split at h
    · cases h
    · obtain ⟨fs, others, hfs, rfl⟩ := recordVerdict_eq_ok h
      exact .record (checkFields_fits fields (collect_eq_ok hfs))
  | .tagged key otherwise arms, v, c, h => by
    rw [check] at h
    obtain ⟨c, hc, rfl⟩ := map_eq_ok h
    rcases checkArm_fits arms (under_eq_ok hc) with ⟨s, hs, hfit⟩ | ⟨hnone, rfl⟩
    · exact .arm hs hfit
    · exact .noArm hnone

theorem checkFields_fits : ∀ (fields : List (RecordField Shape)) {v : Value} {entries : List (Value × Value)}
    {fs : List (String × Checked)}, checkFields fields v entries = fs.map .ok → FieldsFit fields fs
  | [], v, entries, fs, h => by
    rw [checkFields] at h
    rw [List.map_eq_nil_iff.1 h.symm]
    exact .nil
  | ⟨name, key, shape, whenAbsent⟩ :: rest, v, entries, fs, h => by
    unfold checkFields at h
    obtain ⟨⟨k, c⟩, fs, rfl, hc, hrest⟩ := List.map_eq_cons_iff.1 h.symm
    obtain ⟨c, hc, he⟩ := map_eq_ok hc.symm
    cases he
    refine .cons (f := ⟨name, key, shape, whenAbsent⟩) ?_ (checkFields_fits rest hrest.symm)
    -- The field is given, or something stands for it and is checked as well; else it is missing.
    split at hc
    · exact check_fits shape (under_eq_ok hc)
    · split at hc
      · exact check_fits shape hc
      · cases hc

theorem checkArm_fits : ∀ (arms : List (String × Shape)) {tag : String} {v : Value} {c : Checked},
    checkArm arms tag v = .ok c →
      (∃ s, (tag, s) ∈ arms ∧ Fits s c) ∨ ((∀ s, (tag, s) ∉ arms) ∧ c = .plain v)
  | [], tag, v, c, h => by
    rw [checkArm] at h
    cases h
    exact .inr ⟨fun _ hs => (List.not_mem_nil hs), rfl⟩
  | (name, shape) :: rest, tag, v, c, h => by
    rw [checkArm] at h
    split at h
    · rename_i hname
      rw [← eq_of_beq hname]
      exact .inl ⟨shape, List.mem_cons_self, check_fits shape h⟩
    · rename_i hname
      rcases checkArm_fits rest h with ⟨s, hs, hfit⟩ | ⟨hnone, rfl⟩
      · exact .inl ⟨s, List.mem_cons_of_mem _ hs, hfit⟩
      · refine .inr ⟨fun s hs => ?_, rfl⟩
        rcases List.mem_cons.1 hs with he | hs
        · cases he; exact hname (beq_self_eq_true _)
        · exact hnone s hs

end

/-! ## Fields by name -/

/-- The first field of a name is there, and has its shape. -/
theorem FieldsFit.lookup {fields : List (RecordField Shape)} {fs : List (String × Checked)} (h : FieldsFit fields fs)
    (name : String) {f : RecordField Shape} (hf : fields.find? (·.key == name) = some f) :
    ∃ c, fs.lookup name = some c ∧ Fits f.shape c := by
  induction fields generalizing fs with
  | nil => cases hf
  | cons g rest ih =>
    cases h with
    | cons hg hrest =>
      rw [List.find?_cons] at hf
      rw [List.lookup_cons]
      split at hf
      · rename_i hkey
        cases hf
        rw [← eq_of_beq hkey, beq_self_eq_true]
        exact ⟨_, rfl, hg⟩
      · rename_i hkey
        rw [show (name == g.key) = false by rw [← hkey, Bool.beq_comm]]
        exact ih hrest hf

end BlockNotebook.Schema
