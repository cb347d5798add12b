import BlockNotebook.Proofs.Schema.Reload
import BlockNotebook.Proofs.Value.Keyed
/-!
The names on the path of an issue.

An issue of a list lies at the list or inside one of its items (`issue_of_listOf`), and one of a record at the record
or at one of its fields (`issue_of_record`, `issue_of_field`). So the names on its path are those of fields and of arms:
a name that the shape avoids is not among them (`check_avoids`).
-/

namespace BlockNotebook.Schema

/-! ## One level -/

/-- An issue of a list is that there is no list, or one of an item. -/
theorem issue_of_listOf {s : Shape} {v : Value} {i : Issue} (hi : i ∈ issuesOf (check (.listOf s) v)) :
    i.path = [] ∨ ∃ (items : List Value) (n : Nat) (x : Value) (j : Issue), v.items? = some items ∧
      items[n]? = some x ∧ j ∈ issuesOf (check s x) ∧ i = j.under (.index n) := by
  rw [check] at hi
  split at hi
  · cases List.mem_singleton.1 hi
    exact .inl rfl
  · rename_i items hitems
    rw [issuesOf_map, issuesOf_collect] at hi
    obtain ⟨r, hr, hi⟩ := List.mem_flatMap.1 hi
    obtain ⟨n, hn, rfl⟩ := List.mem_mapIdx.1 hr
    rw [issuesOf_under] at hi
    obtain ⟨j, hj, rfl⟩ := List.mem_map.1 hi
    exact .inr ⟨items, n, items[n], j, hitems, List.getElem?_eq_getElem hn, hj, rfl⟩

/-- An issue of a record under texts lies at the record, or is one of a field. -/
theorem issue_of_record {title : String} {keepsOthers : Bool} {fields : List (RecordField Shape)} {v : Value}
    (hv : v.hasTextKeys) {i : Issue} (hi : i ∈ issuesOf (check (.record title keepsOthers fields) v)) :
    i.path = [] ∨ ∃ entries, v.entries? = some entries ∧ ∃ f ∈ fields, i ∈ issuesOf (fieldVerdict f v entries) := by
  rw [check] at hi
  split at hi
  · cases List.mem_singleton.1 hi
    exact .inl rfl
  · rename_i entries hentries
    cases hr : recordVerdict keepsOthers (usedKeys fields entries) entries (collect (checkFields fields v entries)) with
    | ok c =>
      rw [hr] at hi
      cases hi
    | error is =>
      rw [hr] at hi
      have hkeys : ∀ e ∈ entries, ∃ k, e.1 = .str k := fun e he => (Value.hasTextKeys_entries hv hentries e he).1
      rcases recordVerdict_eq_error hkeys hr hi with ⟨hpath, -⟩ | ⟨js, hjs, hi⟩
      · exact .inl hpath
      · obtain ⟨ks, hks, hi⟩ := exists_of_collect_error hjs hi
        rw [checkFields_eq_map] at hks
        obtain ⟨f, hf, hverdict⟩ := List.mem_map.1 hks
        exact .inr ⟨entries, hentries, f, hf, by rw [hverdict]; exact hi⟩

/-- What gives a field of a record under texts is such data again. -/
theorem hasTextKeys_find {v : Value} (hv : v.hasTextKeys) {entries : List (Value × Value)}
    (hentries : v.entries? = some entries) {f : RecordField Shape} {used : String} {x : Value}
    (h : f.find entries = some (used, x)) : x.hasTextKeys := by
  rcases find_cases f entries with ⟨u, y, hfind, -, hy⟩ | ⟨hnone, -⟩
  · cases h.symm.trans hfind
    exact (Value.hasTextKeys_entries hv hentries _ (Value.mem_of_lookup hy)).2
  · cases h.symm.trans hnone

/-! ## Names that a shape avoids -/

mutual

/-- No field and no arm inside the shape has the name. -/
def Shape.avoids (name : String) : Shape → Bool
  | .nullable s => s.avoids name
  | .listOf s => s.avoids name
  | .record _ _ fields => fieldsAvoid name fields
  | .tagged _ otherwise arms => otherwise != name && armsAvoid name arms
  | _ => true

def fieldsAvoid (name : String) : List (RecordField Shape) → Bool
  | [] => true
  | ⟨fieldName, key, shape, _⟩ :: rest =>
    key != name && fieldName != name && shape.avoids name && fieldsAvoid name rest

def armsAvoid (name : String) : List (String × Shape) → Bool
  | [] => true
  | (tag, shape) :: rest => tag != name && shape.avoids name && armsAvoid name rest

end

theorem ne_of_armsAvoid {name tag : String} {arms : List (String × Shape)} (h : armsAvoid name arms)
    (htag : tag ∈ arms.map (·.1)) : tag ≠ name := by
  induction arms with
  | nil => cases htag
  | cons a rest ih =>
    simp only [armsAvoid, Bool.and_eq_true, bne_iff_ne] at h
    rcases List.mem_cons.1 htag with rfl | htag
    · exact h.1.1
    · exact ih h.2 htag

/-- No issue has the name on its path. -/
def IssuesAvoid {α : Type} (name : String) (r : Verdict α) : Prop := ∀ i ∈ issuesOf r, .key name ∉ i.path

theorem IssuesHere.avoid {α : Type} {r : Verdict α} (h : IssuesHere r) (name : String) : IssuesAvoid name r := by
  cases r with
  | ok a => nofun
  | error is =>
    intro i hi
    rw [(h is rfl i hi).1]
    exact List.not_mem_nil

theorem key_not_mem_cons {name key : String} (hkey : key ≠ name) {p : Path} (hp : .key name ∉ p) :
    .key name ∉ (.key key :: p : Path) := by
  simp only [List.mem_cons, Segment.key.injEq, Text.ofString_inj, not_or]
  exact ⟨hkey.symm, hp⟩

theorem IssuesAvoid.under {α : Type} {name key : String} {r : Verdict α} (h : IssuesAvoid name r) (hkey : key ≠ name) :
    IssuesAvoid name (under (.key key) r) := by
  intro i hi
  rw [issuesOf_under] at hi
  obtain ⟨j, hj, rfl⟩ := List.mem_map.1 hi
  exact key_not_mem_cons hkey (h j hj)

theorem IssuesAvoid.map {α β : Type} {name : String} {r : Verdict α} (h : IssuesAvoid name r) (f : α → β) :
    IssuesAvoid name (r.map f) := by
  unfold IssuesAvoid
  rw [issuesOf_map]
  exact h

section Parts

variable {name : String} {v : Value}

theorem issuesAvoid_openMapping (hv : v.hasTextKeys) : IssuesAvoid name (checkOpenMapping v) := by
  cases hentries : v.entries? with
  | none =>
    rw [checkOpenMapping, hentries]
    exact (issuesHere_issue (c := .notMapping) (by rintro ⟨⟩) v).avoid name
  | some entries =>
    rw [checkOpenMapping_of_texts hentries fun e he => (Value.hasTextKeys_entries hv hentries e he).1]
    nofun

theorem issuesAvoid_listOf {s : Shape} (hitems : ∀ items, v.items? = some items → ∀ x ∈ items, IssuesAvoid name (check s x)) :
    IssuesAvoid name (check (.listOf s) v) := by
  intro i hi
  rcases issue_of_listOf hi with hpath | ⟨items, n, x, j, hv, hx, hj, rfl⟩
  · rw [hpath]
    exact List.not_mem_nil
  · have hrest := hitems items hv x (List.mem_of_getElem? hx) j hj
    simp only [Issue.under, List.mem_cons, reduceCtorEq, false_or]
    exact hrest

/-- The issues of a field have on their paths what gives the field, or its key. -/
theorem issuesAvoid_fieldVerdict {f : RecordField Shape} (hd : ∀ x, f.whenAbsent = some x → (check f.shape x).isOk)
    (hname : f.isSpelled name = false) {entries : List (Value × Value)}
    (hgiven : ∀ used x, f.find entries = some (used, x) → IssuesAvoid name (check f.shape x)) :
    IssuesAvoid name (fieldVerdict f v entries) := by
  intro i hi
  have hne {used : String} (hused : f.isSpelled used) : used ≠ name := by
    rintro rfl
    exact absurd hused (by simp [hname])
  rcases issue_of_field hd hi with hpath | ⟨used, x, j, hfind, hj, rfl⟩
  · rw [hpath]
    exact key_not_mem_cons (hne (by simp [RecordField.isSpelled])) List.not_mem_nil
  · exact key_not_mem_cons (hne (isSpelled_of_find hfind)) (hgiven used x hfind j hj)

end Parts

mutual

/-- A name that the shape avoids is on no path of an issue. -/
theorem check_avoids {name : String} : ∀ (s : Shape), s.avoids name → s.defaultsPass → ∀ {v : Value}, v.hasTextKeys →
    IssuesAvoid name (check s v)
  | .any, _, _, _, _ => nofun
  | .text, _, _, v, _ => (issuesHere_scalar (readText_ne_missing v) _).avoid name
  | .flag, _, _, v, _ => (issuesHere_scalar (readFlag_ne_missing v) _).avoid name
  | .whole, _, _, v, _ => (issuesHere_scalar (readWhole_ne_missing v) _).avoid name
  | .number, _, _, v, _ => (issuesHere_scalar (readNumber_ne_missing v) _).avoid name
  | .choice options, _, _, v, _ => (issuesHere_checkChoice options v).avoid name
  | .textOrTexts, _, _, v, _ => (issuesHere_checkTextOrTexts v).avoid name
  | .textOrPair, _, _, v, _ => (issuesHere_checkTextOrPair v).avoid name
  | .openMapping, _, _, _, hv => issuesAvoid_openMapping hv
  | .nullable s, hs, hd, v, hv => by
    unfold check
    split
    · nofun
    · exact check_avoids s hs hd hv
  | .listOf s, hs, hd, _, hv =>
    issuesAvoid_listOf fun _ hitems _ hx => check_avoids s hs hd (Value.hasTextKeys_item hv hitems hx)
  | .record title keepsOthers fields, hs, hd, v, hv => by
    intro i hi
    rcases issue_of_record hv hi with hpath | ⟨entries, hentries, f, hf, hi⟩
    · rw [hpath]
      exact List.not_mem_nil
    · exact fields_avoid fields hs hd hv hentries f hf i hi
  | .tagged key otherwise arms, hs, hd, v, hv => by
    obtain ⟨hotherwise, harms⟩ := Bool.and_eq_true_iff.1 hs
    have htag : chosenArm key otherwise arms v ≠ name := by
      rcases List.mem_cons.1 (chosenArm_mem key otherwise arms v) with htag | htag
      · rw [htag]
        exact bne_iff_ne.1 hotherwise
      · exact ne_of_armsAvoid harms htag
    rw [check]
    exact ((arms_avoid arms harms hd hv).under htag).map _

theorem fields_avoid {name : String} : ∀ (fields : List (RecordField Shape)), fieldsAvoid name fields →
    fieldsPass fields → ∀ {v : Value}, v.hasTextKeys → ∀ {entries : List (Value × Value)}, v.entries? = some entries →
    ∀ f ∈ fields, IssuesAvoid name (fieldVerdict f v entries)
  | [], _, _, _, _, _, _, _, hf => by cases hf
  | ⟨fieldName, key, shape, whenAbsent⟩ :: rest, hs, hd, v, hv, entries, hentries, f, hf => by
    simp only [fieldsAvoid, Bool.and_eq_true, bne_iff_ne] at hs
    obtain ⟨⟨⟨hkey, hname⟩, hshape⟩, hrest⟩ := hs
    obtain ⟨hhere, hdrest⟩ := Bool.and_eq_true_iff.1 hd
    rcases List.mem_cons.1 hf with rfl | hf
    · refine issuesAvoid_fieldVerdict (fun _ hx => fieldsPass_mem hd List.mem_cons_self hx)
        (by simp [RecordField.isSpelled, hkey, hname]) fun used x hfind => ?_
      exact check_avoids shape hshape (Bool.and_eq_true_iff.1 hhere).2 (hasTextKeys_find hv hentries hfind)
    · exact fields_avoid rest hrest hdrest hv hentries f hf

theorem arms_avoid {name : String} : ∀ (arms : List (String × Shape)), armsAvoid name arms → armsPass arms →
    ∀ {tag : String} {v : Value}, v.hasTextKeys → IssuesAvoid name (checkArm arms tag v)
  | [], _, _, _, _, _ => nofun
  | (tag', shape) :: rest, hs, hd, tag, v, hv => by
    simp only [armsAvoid, armsPass, Bool.and_eq_true] at hs hd
    rw [checkArm]
    split
    · exact check_avoids shape hs.1.2 hd.1 hv
    · exact arms_avoid rest hs.2 hd.2 hv

end

end BlockNotebook.Schema
