import BlockNotebook.Proofs.Schema.Route
import BlockNotebook.Block.Basic
/-!
What a check finds at a place of the data.

`issuesBelow p` are the issues at and below the place that the path `p` leads to,
seen from there. In a record they are those of the check of one field, and in a
list those of the check of one item: the other fields and items neither add to
them nor take from them (`issuesBelow_record`, `issuesBelow_listOf`). When
nothing is wrong, what the check gives back at the place is what the check of the
data there gives (`field_of_record`, `item_of_listOf`).
-/

namespace BlockNotebook.Schema

/-! ## Issues below a place -/

/-- All issues that a verdict has. -/
def issuesOf {α : Type} : Verdict α → List Issue
  | .ok _ => []
  | .error is => is

/-- The issue, seen from the place that a path leads to, if it lies there or below. -/
def Issue.from? : Path → Issue → Option Issue
  | [], i => some i
  | s :: p, ⟨t :: rest, cause, found⟩ => if t = s then Issue.from? p ⟨rest, cause, found⟩ else none
  | _ :: _, ⟨[], _, _⟩ => none

/-- The issues at a place and below, seen from there. -/
def issuesBelow {α : Type} (p : Path) (r : Verdict α) : List Issue := (issuesOf r).filterMap (Issue.from? p)

/-- The issue, seen from the root; the path leads to the place from which it is seen. -/
def Issue.above (p : Path) (i : Issue) : Issue := { i with path := p ++ i.path }

@[simp] theorem issuesBelow_nil {α : Type} (r : Verdict α) : issuesBelow [] r = issuesOf r := List.filterMap_some

theorem from?_eq_some {p : Path} {i j : Issue} : i.from? p = some j ↔ i = j.above p := by
  induction p generalizing i with
  | nil => exact Option.some_inj
  | cons s p ih =>
    obtain ⟨path, cause, found⟩ := i
    cases path with
    | nil => exact ⟨nofun, fun h => absurd (congrArg Issue.path h) (by simp [Issue.above])⟩
    | cons t rest =>
      rw [Issue.from?]
      split
      · rename_i hs
        rw [ih, hs]
        simp [Issue.above, Issue.mk.injEq]
      · rename_i hs
        refine ⟨nofun, fun h => absurd (congrArg Issue.path h) ?_⟩
        simp [Issue.above, hs]

/-- The issues at a place and below are those whose paths begin with that of the place. -/
theorem filter_path (p : Path) (is : List Issue) :
    is.filter (fun i => decide (p <+: i.path)) = (is.filterMap (Issue.from? p)).map (Issue.above p) := by
  induction is with
  | nil => rfl
  | cons i rest ih =>
    cases hi : i.from? p with
    | some j =>
      obtain rfl := from?_eq_some.1 hi
      have hprefix : p <+: (j.above p).path := List.prefix_append _ _
      rw [List.filter_cons_of_pos (by simpa using hprefix), List.filterMap_cons_some hi, List.map_cons, ih]
    | none =>
      have hnone : ¬ p <+: i.path := by
        rintro ⟨rest, hrest⟩
        have hj : i.from? p = some { i with path := rest } :=
          from?_eq_some.2 (by rw [Issue.above, hrest])
        cases hi.symm.trans hj
      rw [List.filter_cons_of_neg (by simpa using hnone), List.filterMap_cons_none hi, ih]

theorem issuesOf_of_isOk {α : Type} {r : Verdict α} (h : r.isOk) : issuesOf r = [] := by
  cases r with
  | ok a => rfl
  | error is => cases h

/-! ## Verdicts on several parts -/

@[simp] theorem issuesOf_map {α β : Type} (f : α → β) (r : Verdict α) : issuesOf (r.map f) = issuesOf r := by
  cases r <;> rfl

theorem issuesOf_under {α : Type} (s : Segment) (r : Verdict α) :
    issuesOf (under s r) = (issuesOf r).map (Issue.under s) := by
  cases r <;> rfl

/-- No issue of a part is lost. -/
theorem issuesOf_collect {α : Type} (rs : List (Verdict α)) : issuesOf (collect rs) = rs.flatMap issuesOf := by
  induction rs with
  | nil => rfl
  | cons r rs ih =>
    rw [List.flatMap_cons, ← ih]
    cases r <;> cases hrs : collect rs <;> simp [collect, hrs, issuesOf]

theorem issuesBelow_map {α β : Type} (p : Path) (f : α → β) (r : Verdict α) :
    issuesBelow p (r.map f) = issuesBelow p r := by
  rw [issuesBelow, issuesOf_map, issuesBelow]

theorem issuesBelow_collect {α : Type} (p : Path) (rs : List (Verdict α)) :
    issuesBelow p (collect rs) = rs.flatMap (issuesBelow p) := by
  rw [issuesBelow, issuesOf_collect, List.filterMap_flatMap]
  rfl

theorem issuesBelow_under {α : Type} (s : Segment) (p : Path) (r : Verdict α) :
    issuesBelow (s :: p) (under s r) = issuesBelow p r := by
  rw [issuesBelow, issuesOf_under, List.filterMap_map]
  refine congrArg (List.filterMap · _) (funext fun i => ?_)
  exact if_pos rfl

theorem issuesBelow_under_of_ne {α : Type} {s t : Segment} (h : t ≠ s) (p : Path) (r : Verdict α) :
    issuesBelow (s :: p) (under t r) = [] := by
  rw [issuesBelow, issuesOf_under, List.filterMap_map]
  exact List.filterMap_eq_nil_iff.2 fun i _ => if_neg h

/-! ## Fields of a record -/

/-- The verdict on a field of a record. -/
def fieldVerdict (f : RecordField Shape) (v : Value) (entries : List (Value × Value)) : Verdict (String × Checked) :=
  (match f.find entries with
    | some (used, x) => under (.key used) (check f.shape x)
    | none =>
      match f.whenAbsent with
      | some x => check f.shape x
      | none => under (.key f.key) (issue .missing v)).map (f.key, ·)

theorem checkFields_eq_map (fields : List (RecordField Shape)) (v : Value) (entries : List (Value × Value)) :
    checkFields fields v entries = fields.map (fieldVerdict · v entries) := by
  induction fields with
  | nil => rfl
  | cons f rest ih => rw [List.map_cons, ← ih]; rfl

/-- The entry of a name may give the field. -/
def RecordField.isSpelled (name : String) (f : RecordField Shape) : Bool := f.key == name || f.name == name

theorem fieldsPass_mem {fields : List (RecordField Shape)} (h : fieldsPass fields) {f : RecordField Shape}
    (hf : f ∈ fields) {x : Value} (hx : f.whenAbsent = some x) : (check f.shape x).isOk := by
  induction fields with
  | nil => cases hf
  | cons g rest ih =>
    obtain ⟨hg, hrest⟩ := Bool.and_eq_true_iff.1 h
    rcases List.mem_cons.1 hf with rfl | hf
    · have hdefault := (Bool.and_eq_true_iff.1 hg).1
      rw [hx] at hdefault
      exact hdefault
    · exact ih hrest hf

/-- What gives a field is spelled as its key or its name. -/
theorem isSpelled_of_find {f : RecordField Shape} {entries : List (Value × Value)} {used : String} {x : Value}
    (h : f.find entries = some (used, x)) : f.isSpelled used := by
  rcases find_cases f entries with ⟨u, y, hfind, hused, -⟩ | ⟨hfind, -⟩
  · rw [hfind] at h
    cases h
    rcases hused with rfl | rfl <;> simp [RecordField.isSpelled]
  · rw [hfind] at h
    cases h

/-- A field with one name is given by what the data has under it. -/
theorem get?_of_find {f : RecordField Shape} (hname : f.name = f.key) {v : Value} {entries : List (Value × Value)}
    (hv : v.entries? = some entries) {used : String} {x : Value} (h : f.find entries = some (used, x)) :
    used = f.key ∧ v.get? f.key = some x := by
  rcases find_cases f entries with ⟨u, y, hfind, hused, hy⟩ | ⟨hnone, -⟩
  · cases h.symm.trans hfind
    obtain rfl : used = f.key := hused.elim id fun he => he.trans hname
    exact ⟨rfl, by rw [Value.get?, hv]; exact hy⟩
  · cases h.symm.trans hnone

/-- An issue of a field is that it is missing, or one of what gives it. -/
theorem issue_of_field {f : RecordField Shape} (hd : ∀ x, f.whenAbsent = some x → (check f.shape x).isOk) {v : Value}
    {entries : List (Value × Value)} {i : Issue} (hi : i ∈ issuesOf (fieldVerdict f v entries)) :
    i.path = [.key f.key] ∨ ∃ (used : String) (x : Value) (j : Issue), f.find entries = some (used, x) ∧
      j ∈ issuesOf (check f.shape x) ∧ i = j.under (.key used) := by
  unfold fieldVerdict at hi
  rw [issuesOf_map] at hi
  split at hi
  · rename_i used x hfind
    rw [issuesOf_under] at hi
    obtain ⟨j, hj, rfl⟩ := List.mem_map.1 hi
    exact .inr ⟨used, x, j, hfind, hj, rfl⟩
  · split at hi
    · rename_i x hx
      rw [issuesOf_of_isOk (hd x hx)] at hi
      cases hi
    · cases List.mem_singleton.1 hi
      exact .inl rfl

/-- A field has no issue at an entry that cannot give it. -/
theorem issuesBelow_fieldVerdict_nil {f : RecordField Shape} (hd : ∀ x, f.whenAbsent = some x → (check f.shape x).isOk)
    {name : String} (hname : f.isSpelled name = false) (p : Path) (v : Value) (entries : List (Value × Value)) :
    issuesBelow (.key name :: p) (fieldVerdict f v entries) = [] := by
  have hother {used : String} (hused : f.isSpelled used) : Segment.key used ≠ .key name := by
    intro h
    rw [Text.ofString_inj.1 (Segment.key.inj h), hname] at hused
    cases hused
  unfold fieldVerdict
  rw [issuesBelow_map]
  cases hfind : f.find entries with
  | some e => exact issuesBelow_under_of_ne (hother (isSpelled_of_find hfind)) p _
  | none =>
    cases hx : f.whenAbsent with
    | none => exact issuesBelow_under_of_ne (hother (by simp [RecordField.isSpelled])) p _
    | some x =>
      -- What stands for the field passes its check.
      dsimp only
      rw [issuesBelow, issuesOf_of_isOk (hd x hx)]
      rfl

theorem issuesBelow_fieldVerdict {f : RecordField Shape} {entries : List (Value × Value)} {used : String} {x : Value}
    (hfind : f.find entries = some (used, x)) (p : Path) (v : Value) :
    issuesBelow (.key used :: p) (fieldVerdict f v entries) = issuesBelow p (check f.shape x) := by
  unfold fieldVerdict
  rw [issuesBelow_map, hfind]
  exact issuesBelow_under _ p _

theorem flatMap_filter_of_nil {α β : Type} {q : α → Bool} {g : α → List β} {l : List α}
    (h : ∀ a ∈ l, q a = false → g a = []) : l.flatMap g = (l.filter q).flatMap g := by
  induction l with
  | nil => rfl
  | cons a l ih =>
    have hl := ih fun b hb => h b (List.mem_cons_of_mem _ hb)
    cases ha : q a with
    | true => rw [List.filter_cons_of_pos ha, List.flatMap_cons, List.flatMap_cons, hl]
    | false => rw [List.filter_cons_of_neg (by simp [ha]), List.flatMap_cons, h a List.mem_cons_self ha, hl]; rfl

/-- The issues below a field of a record are those of the check of the data that gives the field. -/
theorem issuesBelow_record {title : String} {fields : List (RecordField Shape)} (hd : fieldsPass fields)
    {f : RecordField Shape} {used : String} (hf : fields.filter (·.isSpelled used) = [f]) {v x : Value}
    {entries : List (Value × Value)} (hv : v.entries? = some entries) (hfind : f.find entries = some (used, x))
    (p : Path) :
    issuesBelow (.key used :: p) (check (.record title false fields) v) = issuesBelow p (check f.shape x) := by
  have hverdict : issuesOf (check (.record title false fields) v) = issuesOf (collect (checkFields fields v entries)) := by
    rw [check, hv]
    dsimp only [recordVerdict]
    cases collect (checkFields fields v entries) <;> rfl
  have hother : ∀ g ∈ fields, g.isSpelled used = false →
      issuesBelow (.key used :: p) (fieldVerdict g v entries) = [] := fun g hg hspelled =>
    issuesBelow_fieldVerdict_nil (fun _ hx => fieldsPass_mem hd hg hx) hspelled p v entries
  rw [issuesBelow, hverdict, ← issuesBelow, issuesBelow_collect, checkFields_eq_map, List.flatMap_map,
    flatMap_filter_of_nil hother, hf, List.flatMap_singleton, issuesBelow_fieldVerdict hfind]

/-! ## Items of a list -/

theorem flatMap_mapIdx_of_nil {α β γ : Type} {g : Nat → α → β} {k : β → List γ} {n : Nat}
    (h : ∀ i, i ≠ n → ∀ a, k (g i a) = []) {items : List α} {a : α} (ha : items[n]? = some a) :
    (items.mapIdx g).flatMap k = k (g n a) := by
  induction items generalizing g n with
  | nil => cases ha
  | cons b rest ih =>
    rw [List.mapIdx_cons, List.flatMap_cons]
    cases n with
    | zero =>
      cases ha
      have hrest : (rest.mapIdx fun i => g (i + 1)).flatMap k = [] := by
        refine List.flatMap_eq_nil_iff.2 fun c hc => ?_
        obtain ⟨i, hi, rfl⟩ := List.mem_mapIdx.1 hc
        exact h (i + 1) (Nat.succ_ne_zero i) _
      rw [hrest, List.append_nil]
    | succ n =>
      rw [h 0 (Nat.succ_ne_zero n).symm, List.nil_append]
      exact ih (fun i hi => h (i + 1) (fun he => hi (Nat.succ_inj.1 he))) ha

/-- The issues below an item of a list are those of the check of the item. -/
theorem issuesBelow_listOf {s : Shape} {v x : Value} {items : List Value} (hv : v.items? = some items) {n : Nat}
    (hx : items[n]? = some x) (p : Path) :
    issuesBelow (.index n :: p) (check (.listOf s) v) = issuesBelow p (check s x) := by
  have hother : ∀ i : Nat, i ≠ n → ∀ a, issuesBelow (.index n :: p) (under (.index i) (check s a)) = [] :=
    fun i hi a => issuesBelow_under_of_ne (fun he => hi (Int.ofNat_inj.1 (Segment.index.inj he))) p _
  rw [check, hv]
  dsimp only
  rw [issuesBelow_map, issuesBelow_collect, flatMap_mapIdx_of_nil hother hx, issuesBelow_under]

/-! ## Arms -/

/-- The arm that data chooses is one of those there are. -/
theorem chosenArm_mem {α : Type} (key otherwise : String) (arms : List (String × α)) (v : Value) :
    chosenArm key otherwise arms v ∈ otherwise :: arms.map (·.1) := by
  unfold chosenArm
  split
  · rename_i t _
    cases hfind : (arms.map (·.1)).find? fun (name : String) => t == name with
    | none => exact List.mem_cons_self
    | some name => exact List.mem_cons_of_mem _ (List.mem_of_find?_eq_some hfind)
  · exact List.mem_cons_self

/-! ## What is there when nothing is wrong -/

/-- The fields of a checked record are what the verdicts on them give. -/
theorem lookup_of_verdicts {fields : List (RecordField Shape)} {v : Value} {entries : List (Value × Value)}
    {fs : List (String × Checked)} (h : fields.map (fieldVerdict · v entries) = fs.map .ok) {name : String}
    {f : RecordField Shape} (hf : fields.find? (·.key == name) = some f) :
    ∃ d, fs.lookup name = some d ∧ fieldVerdict f v entries = .ok (f.key, d) := by
  induction fields generalizing fs with
  | nil => cases hf
  | cons g rest ih =>
    obtain ⟨⟨k, d⟩, ds, rfl, hg, hrest⟩ := List.map_eq_cons_iff.1 h.symm
    obtain ⟨_, -, hk⟩ := map_eq_ok hg.symm
    cases hk
    rw [List.find?_cons] at hf
    rw [List.lookup_cons]
    split at hf
    · rename_i hkey
      cases hf
      rw [← eq_of_beq hkey, beq_self_eq_true]
      exact ⟨d, rfl, hg.symm⟩
    · rename_i hkey
      rw [show (name == g.key) = false by rw [← hkey, Bool.beq_comm]]
      exact ih hrest.symm hf

/-- The fields of a checked record are all checked data of fields. -/
theorem mem_of_verdicts {fields : List (RecordField Shape)} {v : Value} {entries : List (Value × Value)}
    {fs : List (String × Checked)} (h : fields.map (fieldVerdict · v entries) = fs.map .ok) {e : String × Checked}
    (he : e ∈ fs) : ∃ f ∈ fields, fieldVerdict f v entries = .ok e := by
  have hmem := List.mem_map_of_mem (f := (Except.ok : _ → Verdict (String × Checked))) he
  rw [← h] at hmem
  exact List.mem_map.1 hmem

/-- A field of a checked record is what the check of the data that gives it gives back. -/
theorem field_of_record {title : String} {keepsOthers : Bool} {fields : List (RecordField Shape)} {v x : Value}
    {entries : List (Value × Value)} {c : Checked} (h : check (.record title keepsOthers fields) v = .ok c)
    (hv : v.entries? = some entries) {name used : String} {f : RecordField Shape}
    (hf : fields.find? (·.key == name) = some f) (hfind : f.find entries = some (used, x)) :
    ∃ d, c.field? name = some d ∧ check f.shape x = .ok d := by
  rw [check, hv] at h
  obtain ⟨fs, others, hfs, rfl⟩ := recordVerdict_eq_ok h
  have hverdicts := collect_eq_ok hfs
  rw [checkFields_eq_map] at hverdicts
  obtain ⟨d, hd, hfield⟩ := lookup_of_verdicts hverdicts hf
  unfold fieldVerdict at hfield
  rw [hfind] at hfield
  obtain ⟨e, he, hk⟩ := map_eq_ok hfield
  cases hk
  exact ⟨d, hd, under_eq_ok he⟩

/-- An item of a checked list is what the check of the item gives back. -/
theorem item_of_listOf {s : Shape} {v x : Value} {items : List Value} {c : Checked}
    (h : check (.listOf s) v = .ok c) (hv : v.items? = some items) {n : Nat} (hx : items[n]? = some x) :
    ∃ cs d, c = .list cs ∧ cs[n]? = some d ∧ check s x = .ok d := by
  rw [check, hv] at h
  obtain ⟨cs, hcs, rfl⟩ := map_eq_ok h
  have hitem : (cs.map Except.ok)[n]? = some (under (.index n) (check s x)) := by
    rw [← collect_eq_ok hcs, List.getElem?_mapIdx, hx]
    rfl
  rw [List.getElem?_map] at hitem
  obtain ⟨d, hd, he⟩ := Option.map_eq_some_iff.1 hitem
  exact ⟨cs, d, rfl, hd, under_eq_ok he.symm⟩

end BlockNotebook.Schema
