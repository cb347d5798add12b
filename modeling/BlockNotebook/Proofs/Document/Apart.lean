import BlockNotebook.Proofs.Document.Finding
import BlockNotebook.Proofs.Schema.Part
import BlockNotebook.Proofs.Value.Keyed
/-!
One finding for each faulty place.

The issues of a check lie in different places: their paths part at a field or at
an item (`check_forks`). No name of an arm stands there, so what is left of the
paths parts there as well, and of the findings of a document none lies at or
below another (`findings_apart`).
-/

namespace BlockNotebook

open Schema

namespace Schema

/-! ## Paths that part -/

/-- Neither path leads through the place of the other. -/
def Apart (p q : Path) : Prop := ¬ p <+: q ∧ ¬ q <+: p

/-- Two paths part somewhere, and neither goes on with the name of an arm there. The two segments before them are
given. -/
inductive Forks : Option Segment → Option Segment → Path → Path → Prop
  | here {list index : Option Segment} {s t : Segment} (hne : s ≠ t) (hs : Path.isArm list index s = false)
      (ht : Path.isArm list index t = false) (p q : Path) : Forks list index (s :: p) (t :: q)
  | step {list index : Option Segment} {s : Segment} {p q : Path} (h : Forks index (some s) p q) :
      Forks list index (s :: p) (s :: q)

theorem apart_cons {s : Segment} {p q : Path} : Apart (s :: p) (s :: q) ↔ Apart p q := by
  simp [Apart, List.cons_prefix_cons]

theorem apart_of_ne {s t : Segment} (h : s ≠ t) (p q : Path) : Apart (s :: p) (t :: q) := by
  simp [Apart, List.cons_prefix_cons, h, h.symm]

/-- What is left of paths that part, parts. -/
theorem Forks.apart {list index : Option Segment} {p q : Path} (h : Forks list index p q) :
    Apart (Path.withoutArmsAfter list index p) (Path.withoutArmsAfter list index q) := by
  induction h with
  | here hne hs ht p q =>
    rw [Path.withoutArmsAfter, Path.withoutArmsAfter, hs, ht]
    exact apart_of_ne hne _ _
  | @step list index s p q _ ih =>
    rw [Path.withoutArmsAfter, Path.withoutArmsAfter]
    by_cases hs : Path.isArm list index s = true
    · rw [if_pos hs, if_pos hs]
      exact ih
    · rw [if_neg hs, if_neg hs]
      exact apart_cons.2 ih

/-- All issues of a verdict part from each other. -/
def IssuesFork {α : Type} (list index : Option Segment) (r : Verdict α) : Prop :=
  (issuesOf r).Pairwise fun i j => Forks list index i.path j.path

theorem IssuesFork.map {α β : Type} {list index : Option Segment} {r : Verdict α} (h : IssuesFork list index r)
    (f : α → β) : IssuesFork list index (r.map f) := by
  unfold IssuesFork
  rw [issuesOf_map]
  exact h

/-- Issues that part still do so one level further out. -/
theorem IssuesFork.under {α : Type} {list index : Option Segment} {s : Segment} {r : Verdict α}
    (h : IssuesFork index (some s) r) : IssuesFork list index (under s r) := by
  unfold IssuesFork
  rw [issuesOf_under, List.pairwise_map]
  exact h.imp fun hfork => .step hfork

theorem issuesFork_of_length_le {α : Type} {r : Verdict α} (h : (issuesOf r).length ≤ 1) (list index : Option Segment) :
    IssuesFork list index r := by
  unfold IssuesFork
  match hr : issuesOf r with
  | [] => exact .nil
  | [i] => exact List.pairwise_singleton _ i
  | _ :: _ :: _ => simp [hr] at h

/-! ## Scalars have one issue -/

theorem length_issuesOf_scalar {α : Type} (read : Value → Except Cause α) (write : α → Value) (v : Value) :
    (issuesOf (scalar read write v)).length ≤ 1 := by
  unfold scalar
  split <;> simp [issuesOf, issue]

theorem length_issuesOf_checkChoice (options : List String) (v : Value) :
    (issuesOf (checkChoice options v)).length ≤ 1 := by
  unfold checkChoice
  split
  · split <;> simp [issuesOf, issue]
  · simp [issuesOf, issue]

theorem length_issuesOf_checkTextOrTexts (v : Value) : (issuesOf (checkTextOrTexts v)).length ≤ 1 := by
  unfold checkTextOrTexts
  split
  · simp [issuesOf]
  · split <;> simp [issuesOf, issue]

theorem length_issuesOf_checkTextOrPair (v : Value) : (issuesOf (checkTextOrPair v)).length ≤ 1 := by
  unfold checkTextOrPair
  split
  · simp [issuesOf]
  · split <;> simp [issuesOf, issue]

theorem length_issuesOf_checkOpenMapping {v : Value} (hv : v.hasTextKeys) :
    (issuesOf (checkOpenMapping v)).length ≤ 1 := by
  cases hentries : v.entries? with
  | none => simp [checkOpenMapping, hentries, issuesOf, issue]
  | some entries =>
    rw [checkOpenMapping_of_texts hentries fun e he => (Value.hasTextKeys_entries hv hentries e he).1]
    simp [issuesOf]

/-! ## Shapes in their places -/

/-- After the two segments, no arm is dropped but where the shape has arms: neither at the data itself, nor at the
items of it. -/
structure Shape.Suits (s : Shape) (list index : Option Segment) : Prop where
  here : s.arms? = none → ∀ t, Path.isArm list index t = false
  items : s.itemArms? = none → ∀ i t, Path.isArm index (some (.index i)) t = false

theorem suits_start (s : Shape) : s.Suits none none := ⟨fun _ _ => rfl, fun _ _ _ => rfl⟩

theorem Shape.Suits.item {s : Shape} {list index : Option Segment} (h : (Shape.listOf s).Suits list index) (i : Int) :
    s.Suits index (some (.index i)) :=
  ⟨fun harms t => h.items harms i t, fun _ _ _ => by cases index <;> rfl⟩

theorem suits_of_isKnownList {s : Shape} {key : String} (hkey : isKnownList key s.itemArms?)
    (index : Option Segment) : s.Suits index (some (.key key)) := by
  refine ⟨fun _ t => isArm_after_key index _ t, fun hitems i t => ?_⟩
  rw [hitems] at hkey
  simp only [isKnownList, Bool.and_eq_true, Bool.not_eq_true'] at hkey
  exact isArm_of_not_isArmed hkey.1 i t

theorem suits_of_arm {arms : List (String × Shape)} (h : armsKnownIn arms) {tag : String} {s : Shape}
    (hs : (tag, s) ∈ arms) (index : Option Segment) : s.Suits index (some (.key tag)) :=
  ⟨fun _ t => isArm_after_key index _ t, fun _ i t => isArm_of_not_isArmed (armsKnownIn_mem h hs).1 i t⟩

/-! ## Fields -/

/-- No entry gives two fields: the keys and the names of different fields differ. -/
def fieldsApart : List (RecordField Shape) → Bool
  | [] => true
  | f :: rest => rest.all (fun g => !(g.isSpelled f.key || g.isSpelled f.name)) && fieldsApart rest

theorem spelled_ne {f g : RecordField Shape} (h : (!(g.isSpelled f.key || g.isSpelled f.name)) = true) {u w : String}
    (hu : f.isSpelled u) (hw : g.isSpelled w) : u ≠ w := by
  rintro rfl
  simp only [RecordField.isSpelled, Bool.or_eq_true, beq_iff_eq] at hu
  rcases hu with rfl | rfl <;> simp [hw] at h

theorem pairwise_of_fieldsApart {fields : List (RecordField Shape)} (h : fieldsApart fields) :
    fields.Pairwise fun f g => ∀ u w, f.isSpelled u → g.isSpelled w → u ≠ w := by
  induction fields with
  | nil => exact .nil
  | cons f rest ih =>
    obtain ⟨hf, hrest⟩ := Bool.and_eq_true_iff.1 h
    exact .cons (fun g hg _ _ => spelled_ne (List.all_eq_true.1 hf g hg)) (ih hrest)

/-- The issues of a field lie at an entry that may give it. -/
theorem spelled_of_issue {f : RecordField Shape} (hd : ∀ x, f.whenAbsent = some x → (check f.shape x).isOk) {v : Value}
    {entries : List (Value × Value)} {i : Issue} (hi : i ∈ issuesOf (fieldVerdict f v entries)) :
    ∃ used rest, f.isSpelled used ∧ i.path = .key used :: rest := by
  rcases issue_of_field hd hi with hpath | ⟨used, x, j, hfind, -, rfl⟩
  · exact ⟨f.key, [], by simp [RecordField.isSpelled], hpath⟩
  · exact ⟨used, j.path, isSpelled_of_find hfind, rfl⟩

/-- The issues of a record with texts for keys are a broken key, or those of its fields. -/
theorem issuesOf_record {title : String} {keepsOthers : Bool} {fields : List (RecordField Shape)} {v : Value}
    {entries : List (Value × Value)} (hv : v.entries? = some entries) (hkeys : ∀ e ∈ entries, ∃ k, e.1 = .str k) :
    (issuesOf (check (.record title keepsOthers fields) v)).length ≤ 1 ∨
      issuesOf (check (.record title keepsOthers fields) v) =
        fields.flatMap fun f => issuesOf (fieldVerdict f v entries) := by
  have hfields : issuesOf (collect (checkFields fields v entries)) =
      fields.flatMap fun f => issuesOf (fieldVerdict f v entries) := by
    rw [issuesOf_collect, checkFields_eq_map, List.flatMap_map]
  rw [check, hv, ← hfields]
  dsimp only [recordVerdict]
  split
  · exact .inl (Nat.le_refl 1)
  · refine .inr ?_
    have hothers : ∃ os, (if keepsOthers then checkOthers (usedKeys fields entries) entries else .ok []) = .ok os := by
      rw [checkOthers_of_texts hkeys]
      cases keepsOthers <;> exact ⟨_, rfl⟩
    obtain ⟨os, hos⟩ := hothers
    rw [hos]
    cases collect (checkFields fields v entries) <;> rfl

section Parts

variable {list index : Option Segment} {v : Value}

theorem issuesFork_fieldVerdict {f : RecordField Shape} (hd : ∀ x, f.whenAbsent = some x → (check f.shape x).isOk)
    {entries : List (Value × Value)}
    (hgiven : ∀ used x, f.find entries = some (used, x) → IssuesFork index (some (.key used)) (check f.shape x)) :
    IssuesFork list index (fieldVerdict f v entries) := by
  unfold fieldVerdict
  refine IssuesFork.map ?_ _
  split
  · exact (hgiven _ _ (by assumption)).under
  · split
    · rename_i x hx
      unfold IssuesFork
      rw [issuesOf_of_isOk (hd x hx)]
      exact .nil
    · exact List.pairwise_singleton _ _

/-- The issues of a record part at its fields. -/
theorem issuesFork_record {title : String} {keepsOthers : Bool} {fields : List (RecordField Shape)}
    (hd : fieldsPass fields) (hapart : fieldsApart fields) (hs : (Shape.record title keepsOthers fields).Suits list index)
    {entries : List (Value × Value)} (hv : v.entries? = some entries) (hkeys : ∀ e ∈ entries, ∃ k, e.1 = .str k)
    (hfields : ∀ f ∈ fields, IssuesFork list index (fieldVerdict f v entries)) :
    IssuesFork list index (check (.record title keepsOthers fields) v) := by
  rcases @issuesOf_record title keepsOthers fields v entries hv hkeys with hone | hissues
  · exact issuesFork_of_length_le hone list index
  · unfold IssuesFork
    rw [hissues]
    -- Issues of one field part inside it, and those of two fields at the entries that give them.
    refine List.pairwise_flatMap.2 ⟨hfields, ?_⟩
    refine (pairwise_of_fieldsApart hapart).imp_of_mem fun {f g} hf hg hne i hi j hj => ?_
    obtain ⟨u, p, hu, hp⟩ := spelled_of_issue (fun _ hx => fieldsPass_mem hd hf hx) hi
    obtain ⟨w, q, hw, hq⟩ := spelled_of_issue (fun _ hx => fieldsPass_mem hd hg hx) hj
    have hkey : Segment.key u ≠ .key w := fun he => hne u w hu hw (Text.ofString_inj.1 (Segment.key.inj he))
    rw [hp, hq]
    exact .here hkey (hs.here rfl _) (hs.here rfl _) p q

/-- The issues of a list part at its items. -/
theorem issuesFork_listOf {s : Shape} {items : List Value} (hv : v.items? = some items)
    (hitems : ∀ x ∈ items, ∀ i, IssuesFork index (some (.index i)) (check s x)) :
    IssuesFork list index (check (.listOf s) v) := by
  have hissue {n : Nat} {x : Value} {i : Issue} (hi : i ∈ issuesOf (under (.index n) (check s x))) :
      ∃ rest, i.path = .index n :: rest := by
    rw [issuesOf_under] at hi
    obtain ⟨j, -, rfl⟩ := List.mem_map.1 hi
    exact ⟨j.path, rfl⟩
  rw [check, hv]
  refine IssuesFork.map ?_ _
  unfold IssuesFork
  rw [issuesOf_collect]
  refine List.pairwise_flatMap.2 ⟨fun r hr => ?_, List.pairwise_iff_getElem.2 fun m n hm hn hlt i hi j hj => ?_⟩
  · obtain ⟨n, hn, rfl⟩ := List.mem_mapIdx.1 hr
    exact (hitems _ (List.getElem_mem hn) n).under
  · rw [List.getElem_mapIdx] at hi hj
    obtain ⟨p, hp⟩ := hissue hi
    obtain ⟨q, hq⟩ := hissue hj
    rw [hp, hq]
    exact .here (by simp; omega) (isArm_of_index list index m) (isArm_of_index list index n) p q

end Parts

/-! ## Every shape -/

mutual

/-- The issues of a check part from each other. -/
theorem check_forks : ∀ (s : Shape), s.armsKnown → s.defaultsPass → (s.allRecords fun _ fields => fieldsApart fields) →
    ∀ {v : Value}, v.hasTextKeys → ∀ {list index : Option Segment}, s.Suits list index →
    IssuesFork list index (check s v)
  | .any, _, _, _, _, _, _, _, _ => .nil
  | .text, _, _, _, v, _, _, _, _ => issuesFork_of_length_le (length_issuesOf_scalar readText _ v) _ _
  | .flag, _, _, _, v, _, _, _, _ => issuesFork_of_length_le (length_issuesOf_scalar readFlag _ v) _ _
  | .whole, _, _, _, v, _, _, _, _ => issuesFork_of_length_le (length_issuesOf_scalar readWhole _ v) _ _
  | .number, _, _, _, v, _, _, _, _ => issuesFork_of_length_le (length_issuesOf_scalar readNumber _ v) _ _
  | .choice options, _, _, _, v, _, _, _, _ => issuesFork_of_length_le (length_issuesOf_checkChoice options v) _ _
  | .textOrTexts, _, _, _, v, _, _, _, _ => issuesFork_of_length_le (length_issuesOf_checkTextOrTexts v) _ _
  | .textOrPair, _, _, _, v, _, _, _, _ => issuesFork_of_length_le (length_issuesOf_checkTextOrPair v) _ _
  | .openMapping, _, _, _, _, hv, _, _, _ => issuesFork_of_length_le (length_issuesOf_checkOpenMapping hv) _ _
  | .nullable s, hknown, hd, hapart, v, hv, _, _, hs => by
    unfold check
    split
    · exact .nil
    · exact check_forks s hknown hd hapart hv ⟨hs.here, hs.items⟩
  | .listOf s, hknown, hd, hapart, v, hv, list, index, hs => by
    cases hitems : v.items? with
    | none =>
      rw [check, hitems]
      exact List.pairwise_singleton _ _
    | some items =>
      obtain ⟨-, hknown⟩ := Bool.and_eq_true_iff.1 hknown
      exact issuesFork_listOf hitems fun x hx i =>
        check_forks s hknown hd hapart (Value.hasTextKeys_item hv hitems hx) (hs.item i)
  | .record title keepsOthers fields, hknown, hd, hapart, v, hv, list, index, hs => by
    cases hentries : v.entries? with
    | none =>
      rw [check, hentries]
      exact List.pairwise_singleton _ _
    | some entries =>
      obtain ⟨hhere, hinside⟩ := Bool.and_eq_true_iff.1 hapart
      have htexts := Value.hasTextKeys_entries hv hentries
      refine issuesFork_record hd hhere hs hentries (fun e he => (htexts e he).1) fun f hf => ?_
      refine issuesFork_fieldVerdict (fun _ hx => fieldsPass_mem hd hf hx) fun used x hfind => ?_
      -- Whichever name gives the field, arms are dropped after it only where its items have arms.
      obtain ⟨-, hname, hkey, -⟩ := fieldsKnown_mem hknown hf
      rcases find_cases f entries with ⟨u, y, hu, hused, hy⟩ | ⟨hnone, -⟩
      · cases hfind.symm.trans hu
        have hlist : isKnownList used f.shape.itemArms? := by rcases hused with rfl | rfl <;> assumption
        exact fields_fork fields hknown hd hinside f hf (htexts _ (Value.mem_of_lookup hy)).2
          (suits_of_isKnownList hlist index)
      · cases hfind.symm.trans hnone
  | .tagged key otherwise arms, hknown, hd, hapart, v, hv, list, index, _ => by
    rw [check]
    exact IssuesFork.map (arms_fork arms hknown hd hapart hv index).under _

theorem fields_fork : ∀ (fields : List (RecordField Shape)), fieldsKnown fields → fieldsPass fields →
    (fieldsAllRecords (fun _ fields => fieldsApart fields) fields) → ∀ f ∈ fields, ∀ {v : Value}, v.hasTextKeys →
    ∀ {list index : Option Segment}, f.shape.Suits list index → IssuesFork list index (check f.shape v)
  | [], _, _, _, _, hf, _, _, _, _, _ => by cases hf
  | ⟨name, key, shape, whenAbsent⟩ :: rest, hknown, hd, hapart, f, hf, v, hv, list, index, hs => by
    simp only [fieldsKnown, fieldsPass, fieldsAllRecords, Bool.and_eq_true] at hknown hd hapart
    rcases List.mem_cons.1 hf with rfl | hf
    · exact check_forks shape hknown.1.2 hd.1.2 hapart.1 hv hs
    · exact fields_fork rest hknown.2 hd.2 hapart.2 f hf hv hs

theorem arms_fork : ∀ (arms : List (String × Shape)), armsKnownIn arms → armsPass arms →
    armsAllRecords (fun _ fields => fieldsApart fields) arms → ∀ {tag : String} {v : Value}, v.hasTextKeys →
    ∀ (index : Option Segment), IssuesFork index (some (.key tag)) (checkArm arms tag v)
  | [], _, _, _, _, _, _, _ => .nil
  | (name, shape) :: rest, hknown, hd, hapart, tag, v, hv, index => by
    rw [checkArm]
    by_cases hname : (name == tag) = true
    · rw [if_pos hname, ← eq_of_beq hname]
      have hsuits : shape.Suits index (some (.key name)) := suits_of_arm hknown List.mem_cons_self index
      simp only [armsKnownIn, armsPass, armsAllRecords, Bool.and_eq_true] at hknown hd hapart
      exact check_forks shape hknown.1.2 hd.1 hapart.1 hv hsuits
    · rw [if_neg hname]
      simp only [armsKnownIn, armsPass, armsAllRecords, Bool.and_eq_true] at hknown hd hapart
      exact arms_fork rest hknown.2 hd.2 hapart.2 hv index

end

end Schema

namespace Document

theorem shape_fieldsApart : shape.allRecords fun _ fields => fieldsApart fields := by decide +kernel

/-- Of what is wrong with data under texts, no two findings have one path, and none lies below another. -/
theorem findings_apart {v : Value} (hv : v.hasTextKeys) {fs : List Finding} (h : read v = .error fs) :
    fs.Pairwise fun f g => Apart f.path g.path := by
  unfold read at h
  split at h
  · cases h
  · rename_i is his
    cases h
    have hforks : IssuesFork none none (check shape v) :=
      check_forks shape shape_armsKnown shape_defaultsPass shape_fieldsApart hv (suits_start shape)
    unfold IssuesFork at hforks
    rw [his] at hforks
    exact List.pairwise_map.2 (hforks.imp fun hfork => hfork.apart)

/-- A document with faults side by side: blocks of two arms that lack one key, a link with two faults in a list of
ranges, and next to the list one under its other name, which nobody reads. -/
def severalFaults : Value := .map [
  (.str "version", .bytes [49]), (.str "metadata", .map []),
  (.str "project", .map [(.str "id", .str "p"), (.str "name", .str "P"), (.str "notebooks", .list [.map [
    (.str "id", .str "n"), (.str "name", .str "N"), (.str "blocks", .list [
      .map [(.str "id", .str "a"), (.str "type", .str "code")],
      .map [(.str "id", .str "b"), (.str "type", .str "chart")],
      .map [(.str "id", .str "c"), (.str "type", .str "text-cell-p"), (.str "sortingKey", .str "0"),
        (.str "metadata", .map [
          (.str "formatted_ranges", .list [.null]),
          (.str "formattedRanges", .list [.map [(.str "type", .str "link"), (.str "fromCodePoint", .str "x"),
            (.str "toCodePoint", .int 1), (.str "ranges", .list [])]])])]])]])])]

/-- Its five findings lie in five places. -/
theorem severalFaults_findings_apart : severalFaults.hasTextKeys ∧ ∃ fs, read severalFaults = .error fs ∧
    fs.length = 5 ∧ fs.Pairwise fun f g => Apart f.path g.path := by
  have htexts : severalFaults.hasTextKeys := by decide +kernel
  have hcount : (match read severalFaults with | .error fs => fs.length == 5 | .ok _ => false) = true := by
    decide +kernel
  cases h : read severalFaults with
  | ok d => rw [h] at hcount; cases hcount
  | error fs =>
    rw [h] at hcount
    exact ⟨htexts, fs, rfl, eq_of_beq hcount, findings_apart htexts h⟩

end Document

end BlockNotebook
