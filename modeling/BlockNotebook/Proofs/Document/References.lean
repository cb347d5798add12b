import BlockNotebook.Proofs.Schema.Part
import BlockNotebook.Proofs.Success
import BlockNotebook.Document.Basic
import Mathlib.Data.List.Induction
import Mathlib.Data.List.Nodup
/-!
References between the notebooks of a document.

A document that was read has an id for each notebook, and the id of the first one to run if its data gives one
(`start_of_read`). What is reported is each id that several notebooks share, once and with their number, in the order in
which the ids first occur, and then the id of the first notebook if none has it (`problems_exact`). One notebook more
adds its id at the end of the ids seen so far, or changes nothing among them (`distinctIds_concat`); that keeps the order.
-/

namespace BlockNotebook

open Schema

namespace Document

/-- The ids of the notebooks, in their order. -/
def ids (d : Document) : List Text := d.notebooks.map Notebook.id

/-! ## Ids seen -/

/-- After one more notebook. -/
theorem distinctIds_concat (ids : List Text) (id : Text) :
    distinctIds (ids ++ [id]) = distinctIds ids ++ if id ∈ ids then [] else [id] := by
  rw [distinctIds, List.eraseDups_append]
  by_cases h : id ∈ ids <;> simp [List.removeAll, distinctIds, h, List.eraseDups_cons]

theorem mem_distinctIds {ids : List Text} {id : Text} : id ∈ distinctIds ids ↔ id ∈ ids := List.mem_eraseDups

/-- The ids come in the order of their first occurrences, and so each comes once. -/
theorem distinctIds_inOrder (ids : List Text) : (distinctIds ids).Pairwise fun a b => ids.idxOf a < ids.idxOf b := by
  induction ids using List.reverseRecOn with
  | nil => exact .nil
  | append_singleton ids id ih =>
    have hkept {a : Text} (ha : a ∈ distinctIds ids) : (ids ++ [id]).idxOf a = ids.idxOf a :=
      List.idxOf_append_of_mem (mem_distinctIds.1 ha)
    rw [distinctIds_concat, List.pairwise_append]
    refine ⟨ih.imp_of_mem fun ha hb hlt => ?_, ?_, fun a ha b hb => ?_⟩
    · rw [hkept ha, hkept hb]
      exact hlt
    · split
      · exact .nil
      · exact List.pairwise_singleton _ _
    · split at hb
      · cases hb
      · rename_i hnew
        cases List.mem_singleton.1 hb
        rw [hkept ha, List.idxOf_append, if_neg hnew]
        exact Nat.lt_add_left _ (List.idxOf_lt_length_iff.2 (mem_distinctIds.1 ha))

/-! ## Shared ids -/

/-- Each id that several notebooks have, once, in the order in which the ids first occur. -/
structure AreShared (ids shared : List Text) : Prop where
  mem_iff : ∀ id, id ∈ shared ↔ 1 < ids.count id
  inOrder : shared.Pairwise fun a b => ids.idxOf a < ids.idxOf b

/-- The ids that are reported. -/
def shared (ids : List Text) : List Text := (distinctIds ids).filter fun id => decide (1 < ids.count id)

theorem areShared_shared (ids : List Text) : AreShared ids (shared ids) where
  mem_iff id := by
    rw [shared, List.mem_filter, mem_distinctIds, decide_eq_true_eq, and_iff_right_iff_imp]
    exact fun hlt => List.count_pos_iff.1 (Nat.lt_of_succ_lt hlt)
  inOrder := (distinctIds_inOrder ids).filter _

theorem shared_eq_nil_iff (ids : List Text) : shared ids = [] ↔ ids.Nodup := by
  rw [List.eq_nil_iff_forall_not_mem, List.nodup_iff_count_le_one]
  exact forall_congr' fun id => by rw [(areShared_shared ids).mem_iff, Nat.not_lt]

/-- The id of the first notebook, if no notebook has it. -/
def missingStart? (d : Document) : Option Text := d.initialNotebook?.filter fun id => decide (id ∉ d.ids)

theorem missingStart?_eq_none_iff (d : Document) : d.missingStart? = none ↔ ∀ id ∈ d.initialNotebook?, id ∈ d.ids := by
  simp [missingStart?, Option.filter_eq_none_iff]

theorem problems_eq (d : Document) :
    d.problems = (shared d.ids).map (fun id => duplicate id (d.ids.count id)) ++ d.missingStart?.toList.map dangling := by
  have hrepeated (l : List Text) : (l.filterMap fun id =>
      if 1 < d.ids.count id then some (duplicate id (d.ids.count id)) else none) =
      (l.filter fun id => decide (1 < d.ids.count id)).map fun id => duplicate id (d.ids.count id) := by
    induction l with
    | nil => rfl
    | cons id rest ih => by_cases h : 1 < d.ids.count id <;> simp [h, ih]
  unfold problems
  rw [← ids]
  dsimp only
  rw [hrepeated, ← shared, missingStart?]
  congr 1
  cases d.initialNotebook? with
  | none => rfl
  | some id => by_cases h : id ∈ d.ids <;> simp [Option.filter, h]

/-! ## Documents that are read -/

/-- The field of a project for the notebook that runs first. -/
def startField : RecordField Shape := Block.optionalAs "init_notebook_id" "initNotebookId" .text

/-- What data gives for the notebook that runs first. -/
def startData? (v : Value) : Option Value := do
  let project ← v.get? "project"
  let entries ← project.entries?
  (startField.find entries).map (·.2)

/-- The project of a document that is read is what is read of the data of the project. -/
theorem project_of_read {v : Value} {d : Document} (h : read v = .ok d) :
    ∃ x, v.get? "project" = some x ∧ check projectShape x = .ok d.project := by
  unfold read at h
  split at h
  · rename_i c hc
    cases h
    obtain ⟨x, p, hx, hp, hfield⟩ := given_of_record hc (f := Block.required "project" projectShape) rfl rfl rfl
    have hfield : c.field? "project" = some p := hfield
    refine ⟨x, hx, ?_⟩
    cases check_fits _ hp with
    | record _ =>
      rw [project, Checked.record?, hfield]
      exact hp
  · cases h

/-- Every notebook of a document that is read has its id. -/
theorem id_of_read {v : Value} {d : Document} (h : read v = .ok d) :
    ∀ n ∈ d.notebooks, n.content.text? "id" = some n.id := by
  obtain ⟨x, -, hp⟩ := project_of_read h
  obtain ⟨_, ns, -, hns, hfield⟩ :=
    given_of_record hp (f := Block.required "notebooks" (.listOf Notebook.shape)) rfl rfl rfl
  have hfield : d.project.field? "notebooks" = some ns := hfield
  intro n hn
  cases check_fits _ hns with
  | list hall =>
    rw [notebooks, Checked.items?, hfield] at hn
    obtain ⟨c, hc, rfl⟩ := List.mem_map.1 hn
    have hfit := hall c hc
    cases hfit with
    | record hfields =>
      obtain ⟨i, hi, hfit⟩ := hfields.lookup "id" rfl
      cases hfit with
      | text t => simp only [Notebook.id, Checked.text?, Checked.field?, hi, Option.getD_some]

/-- What may be null or a text is read as null, or as the text. -/
theorem nullableText_eq_ok {x : Value} {c : Checked} (h : check (.nullable .text) x = .ok c) :
    (x = .null ∧ c = .plain .null) ∨ ∃ t, x ≠ .null ∧ readText x = .ok t ∧ c = .plain (.str t) := by
  by_cases hx : x = .null
  · subst hx
    cases h
    exact .inl ⟨rfl, rfl⟩
  · rw [check_nullable hx, check, scalar] at h
    cases ht : readText x with
    | error cause => rw [ht] at h; cases h
    | ok t => rw [ht] at h; cases h; exact .inr ⟨t, hx, rfl, rfl⟩

/-- A document that is read has no first notebook if the data gives none or null, and else the one that the data names. -/
theorem start_of_read {v : Value} {d : Document} (h : read v = .ok d) :
    match d.initialNotebook? with
    | none => startData? v = none ∨ startData? v = some .null
    | some id => ∃ x, startData? v = some x ∧ readText x = .ok id := by
  obtain ⟨project, hproject, hp⟩ := project_of_read h
  obtain ⟨entries, fs, others, hentries, hrecord, hverdicts⟩ := fields_of_record hp
  obtain ⟨c, hc, hverdict⟩ : ∃ c, fs.lookup "initNotebookId" = some c ∧
      fieldVerdict startField project entries = .ok (startField.key, c) := lookup_of_verdicts hverdicts rfl
  obtain ⟨-, x, hx, hcheck⟩ := source?_of_fieldVerdict hverdict
  have hfield : d.project.field? "initNotebookId" = some c := by rw [hrecord]; exact hc
  have hstart : startData? v = (startField.find entries).map (·.2) := by simp [startData?, hproject, hentries]
  rw [hstart, initialNotebook?, Checked.text?, hfield]
  unfold RecordField.source? at hx
  rcases nullableText_eq_ok hcheck with ⟨rfl, rfl⟩ | ⟨t, hne, ht, rfl⟩
  · -- Null may stand for an id that is left out.
    split at hx
    · rename_i hfind
      cases hx
      exact .inr (by rw [hfind, Option.map_some])
    · rename_i hfind
      exact .inl (by rw [hfind, Option.map_none])
  · split at hx
    · rename_i hfind
      cases hx
      exact ⟨x, by rw [hfind, Option.map_some], ht⟩
    · exact absurd (Option.some_inj.1 hx).symm hne

/-- Of a document that is read, what is reported is each id that several notebooks have, once and with their number, in
the order in which the ids first occur, and then the id of the first notebook if the data gives one that no notebook
has. So nothing is reported exactly if the ids are distinct and the first notebook is left out, null or one of them. -/
theorem problems_exact {v : Value} {d : Document} (h : read v = .ok d) :
    (∀ n ∈ d.notebooks, n.content.text? "id" = some n.id) ∧
    (match d.initialNotebook? with
      | none => startData? v = none ∨ startData? v = some .null
      | some id => ∃ x, startData? v = some x ∧ readText x = .ok id) ∧
    (∃ shared missing, AreShared d.ids shared ∧ (∀ id, missing = some id ↔ d.initialNotebook? = some id ∧ id ∉ d.ids) ∧
      d.problems = shared.map (fun id => duplicate id (d.ids.count id)) ++ (missing : Option Text).toList.map dangling) ∧
    (d.problems = [] ↔ d.ids.Nodup ∧ ∀ id ∈ d.initialNotebook?, id ∈ d.ids) := by
  refine ⟨id_of_read h, start_of_read h, ⟨shared d.ids, d.missingStart?, areShared_shared d.ids, fun id => ?_,
    problems_eq d⟩, ?_⟩
  · simp [missingStart?, Option.filter_eq_some_iff]
  · rw [problems_eq, List.append_eq_nil_iff, List.map_eq_nil_iff, shared_eq_nil_iff, List.map_eq_nil_iff,
      Option.toList_eq_nil_iff, missingStart?_eq_none_iff]

/-- A document with two ids that are shared, the second one of them seen first, and a first notebook that is not there. -/
def tangledReferences : Value := .map [
  (.str "version", .str "1"), (.str "metadata", .map [(.str "createdAt", .str "2024")]),
  (.str "project", .map [(.str "id", .str "p"), (.str "name", .str "P"), (.str "init_notebook_id", .bytes [122]),
    (.str "notebooks", .list (["b", "a", "c", "a", "b", "a"].map fun (id : String) =>
      .map [(.str "id", .str id), (.str "name", .str "N"), (.str "blocks", .list [])]))])]

/-- Both shared ids are reported, the one seen first before the other, and then the first notebook. -/
theorem tangledReferences_problems : ∃ d, read tangledReferences = .ok d ∧
    d.problems = ["Duplicate notebook id 'b' (2 notebooks)", "Duplicate notebook id 'a' (3 notebooks)",
      "initNotebookId 'z' does not match any notebook"] ∧
    ∃ shared missing, AreShared d.ids shared ∧ (∀ id, missing = some id ↔ d.initialNotebook? = some id ∧ id ∉ d.ids) ∧
      d.problems = shared.map (fun id => duplicate id (d.ids.count id)) ++ (missing : Option Text).toList.map dangling := by
  have hproblems : (read tangledReferences).toOption.map problems = some
      ["Duplicate notebook id 'b' (2 notebooks)", "Duplicate notebook id 'a' (3 notebooks)",
        "initNotebookId 'z' does not match any notebook"] := by decide +kernel
  obtain ⟨d, hd, hproblems⟩ := exists_of_toOption hproblems
  exact ⟨d, hd, hproblems, (problems_exact hd).2.2.1⟩

end Document

end BlockNotebook
