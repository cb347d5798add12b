import BlockNotebook.Proofs.Schema.Part
import BlockNotebook.Block.Basic
/-!
Entries that no field declares.

Newer editors write entries that older shapes do not know. A block keeps them all:
`undeclared_survive` says so for the block, its metadata and every record inside,
whichever arm or list it stands in, and that no such entry comes from anywhere but
the data.
-/

namespace BlockNotebook

open Schema

namespace Schema

/-! ## Records -/

/-- The key is the key or the name of a field. -/
def isDeclared (fields : List (RecordField Shape)) : Value → Bool
  | .str k => fields.any fun f => k == f.key || k == f.name
  | _ => false

/-- The entries that no field declares, in their order. -/
def undeclared (fields : List (RecordField Shape)) (entries : List (Value × Value)) : List (Value × Value) :=
  entries.filter fun e => !isDeclared fields e.1

/-- What is written back for the entries of a record has the same undeclared entries, and apart from the fields
themselves nothing else. -/
structure Keeps (fields : List (RecordField Shape)) (entries written : List (Value × Value)) : Prop where
  undeclared_eq : undeclared fields written = undeclared fields entries
  given : ∀ e ∈ written, (∃ f ∈ fields, e.1 = .str f.key) ∨ e ∈ entries

theorem isDeclared_of_isUsed {fields : List (RecordField Shape)} {entries : List (Value × Value)} {key : Value}
    (h : isUsed (usedKeys fields entries) key) : isDeclared fields key := by
  obtain ⟨used, hused, rfl⟩ := isUsed_iff.1 h
  obtain ⟨f, hf, hfind⟩ := List.mem_filterMap.1 hused
  obtain ⟨⟨u, x⟩, hx, rfl⟩ := Option.map_eq_some_iff.1 hfind
  have hspelled := isSpelled_of_find hx
  simp only [RecordField.isSpelled, Bool.or_eq_true, beq_iff_eq] at hspelled
  refine List.any_eq_true.2 ⟨f, hf, ?_⟩
  rcases hspelled with rfl | rfl <;> simp

theorem isDeclared_key {fields : List (RecordField Shape)} {f : RecordField Shape} (hf : f ∈ fields) :
    isDeclared fields (.str f.key) :=
  List.any_eq_true.2 ⟨f, hf, by simp⟩

theorem ok_of_collect {α β : Type} {g : α → Verdict β} {as : List α} {bs : List β} (h : collect (as.map g) = .ok bs)
    {a : α} (ha : a ∈ as) : ∃ b, g a = .ok b := by
  have hmem : g a ∈ as.map g := List.mem_map_of_mem ha
  rw [collect_eq_ok h] at hmem
  obtain ⟨b, -, hb⟩ := List.mem_map.1 hmem
  exact ⟨b, hb.symm⟩

/-- A record that keeps other entries has texts for keys. -/
theorem texts_of_recordVerdict {used : List String} {entries : List (Value × Value)}
    {fields : Verdict (List (String × Checked))} {c : Checked} (h : recordVerdict true used entries fields = .ok c) :
    ∀ e ∈ entries, ∃ k, e.1 = .str k := by
  obtain ⟨os, hos⟩ : ∃ os, checkOthers used entries = .ok os := by
    unfold recordVerdict at h
    split at h
    · cases h
    · split at h
      · exact ⟨_, by assumption⟩
      all_goals cases h
  obtain ⟨kept, hkept, -⟩ := map_eq_ok hos
  intro e he
  obtain ⟨o, ho⟩ := ok_of_collect hkept he
  split at ho
  · exact ⟨_, by assumption⟩
  · cases ho

theorem keeps_of_record {title : String} {fields : List (RecordField Shape)} {v : Value} {c : Checked}
    (h : check (.record title true fields) v = .ok c) :
    ∃ entries written, v.entries? = some entries ∧ c.toValue = .map written ∧ Keeps fields entries written := by
  obtain ⟨entries, fs, others, hentries, hc, hverdicts⟩ := fields_of_record h
  rw [check, hentries] at h
  obtain ⟨-, gs, -, hc'⟩ := (recordVerdict_of_texts (texts_of_recordVerdict h)).1 h
  obtain ⟨rfl, rfl⟩ := Checked.record.inj (hc.symm.trans hc')
  subst hc
  have hfields : ∀ e ∈ fieldsToEntries fs, ∃ f ∈ fields, e.1 = .str f.key := fun e he => by
    obtain ⟨g, hg, rfl⟩ := mem_fieldsToEntries he
    obtain ⟨f, hf, hverdict⟩ := mem_of_verdicts hverdicts hg
    exact ⟨f, hf, by rw [(source_of_fieldVerdict hverdict).1]⟩
  refine ⟨entries, _, hentries, rfl, ?_, ?_⟩
  · have hnone : undeclared fields (fieldsToEntries fs) = [] := List.filter_eq_nil_iff.2 fun e he => by
      obtain ⟨f, hf, hkey⟩ := hfields e he
      rw [hkey, isDeclared_key hf]
      nofun
    -- An entry that gives a field is declared, so none of the undeclared ones is left out.
    have hothers : undeclared fields (othersOf true (usedKeys fields entries) entries) = undeclared fields entries := by
      unfold undeclared othersOf
      rw [if_pos rfl, List.filter_filter]
      refine List.filter_congr fun e _ => ?_
      cases hused : isUsed (usedKeys fields entries) e.1 with
      | false => simp
      | true => simp [isDeclared_of_isUsed hused]
    calc undeclared fields (fieldsToEntries fs ++ othersOf true (usedKeys fields entries) entries)
      _ = undeclared fields (fieldsToEntries fs) ++
          undeclared fields (othersOf true (usedKeys fields entries) entries) := List.filter_append ..
      _ = undeclared fields entries := by rw [hnone, hothers, List.nil_append]
  · intro e he
    rcases List.mem_append.1 he with he | he
    · exact .inl (hfields e he)
    · exact .inr (othersOf_subset he)

/-! ## Open mappings -/

theorem entries_of_openMapping {v : Value} {c : Checked} (h : check .openMapping v = .ok c) :
    ∃ entries, v.entries? = some entries ∧
      ((∀ e ∈ entries, ∃ k, e.1 = .str k) → Value.KeysDistinct entries → c.toValue = .map entries) := by
  rw [check] at h
  cases hentries : v.entries? with
  | none =>
    rw [checkOpenMapping, hentries] at h
    cases h
  | some entries =>
    refine ⟨entries, rfl, fun hkeys hdistinct => ?_⟩
    obtain rfl := Except.ok.inj (h.symm.trans (checkOpenMapping_of_texts hentries hkeys))
    exact congrArg Value.map (@Value.gather_of_keysDistinct [] entries hdistinct)

end Schema

namespace Block

theorem shape_settles : shape.settles := by decide +kernel

theorem shape_keepsOthers : shape.allRecords fun keepsOthers _ => keepsOthers := by decide +kernel

/-- A block, as data, has all undeclared entries that the data it was read from has, in their places. -/
structure KeepsUndeclared (v : Value) (b : Block) : Prop where
  /-- Every record keeps its undeclared entries, in their order. -/
  records : ∀ {p : Path} {title : String} {keepsOthers : Bool} {fields : List (RecordField Shape)} {x : Value},
    Part shape v p (.record title keepsOthers fields) x →
    ∃ entries written, x.entries? = some entries ∧ b.content.toValue.at? p = some (.map written) ∧
      Keeps fields entries written
  /-- An open mapping under texts keeps all its entries. -/
  mappings : ∀ {p : Path} {x : Value}, Part shape v p .openMapping x →
    ∃ entries, x.entries? = some entries ∧
      ((∀ e ∈ entries, ∃ k, e.1 = .str k) → Value.KeysDistinct entries →
        b.content.toValue.at? p = some (.map entries))
  /-- Where any data may stand, it is kept as it is. -/
  data : ∀ {p : Path} {x : Value}, Part shape v p .any x → b.content.toValue.at? p = some x
  /-- There are no other mappings than these, and those inside what they keep. -/
  sources : ∀ {p : Path} {written : List (Value × Value)}, b.content.toValue.at? p = some (.map written) →
    Source shape v p

theorem exists_check {v : Value} {b : Block} (h : read v = .ok b) :
    ∃ c, check shape v = .ok c ∧ b.content.toValue = c.toValue := by
  obtain ⟨c, hc, rfl⟩ := map_eq_ok h
  exact ⟨c, hc, by cases c <;> rfl⟩

/-- Entries that no field declares survive. -/
theorem undeclared_survive {v : Value} {b : Block} (h : read v = .ok b) : KeepsUndeclared v b := by
  obtain ⟨c, hc, hcontent⟩ := exists_check h
  refine ⟨?_, ?_, ?_, ?_⟩
  · intro p title keepsOthers fields x hpart
    obtain ⟨d, hd, hplace⟩ := hpart.checked shape_settles hc
    have hkeeps : keepsOthers = true := (Bool.and_eq_true_iff.1 (hpart.allRecords shape_keepsOthers)).1
    rw [hkeeps] at hd
    obtain ⟨entries, written, hentries, hwritten, hkept⟩ := keeps_of_record hd
    exact ⟨entries, written, hentries, by rw [hcontent, hplace, hwritten], hkept⟩
  · intro p x hpart
    obtain ⟨d, hd, hplace⟩ := hpart.checked shape_settles hc
    obtain ⟨entries, hentries, hall⟩ := entries_of_openMapping hd
    exact ⟨entries, hentries, fun hkeys hdistinct => by rw [hcontent, hplace, hall hkeys hdistinct]⟩
  · intro p x hpart
    obtain ⟨d, hd, hplace⟩ := hpart.checked shape_settles hc
    cases hd
    rw [hcontent, hplace]
    rfl
  · intro p written hp
    rw [hcontent] at hp
    exact source_of_check shape shape_settles hc hp

/-- Marks that newer editors set. -/
def newerMarks : Value := .map [(.str "hue", .int 3), (.str "bold", .bool true), (.str "blink", .null)]

/-- A paragraph with a link whose range has such marks; the list of ranges goes by its other name. -/
def newerParagraph : Value := .map [
  (.str "id", .str "b"), (.str "type", .str "text-cell-p"), (.str "sortingKey", .str "0"),
  (.str "metadata", .map [(.str "formatted_ranges", .list [.map [
    (.str "type", .str "link"), (.str "url", .str "u"), (.str "fromCodePoint", .int 0), (.str "toCodePoint", .int 4),
    (.str "ranges", .list [.map [
      (.str "fromCodePoint", .int 0), (.str "toCodePoint", .int 4), (.str "marks", newerMarks)]])]])])]

/-- The marks are a part of the paragraph, under the key of the list. -/
theorem newerMarks_part : Part shape newerParagraph
    [.key "metadata", .key "formattedRanges", .index 0, .key "ranges", .index 0, .key "marks"] marksShape newerMarks := by
  have hmetadata : metadataField .paragraph ∈ fields (.choice (typesOf .paragraph)) (metadataField .paragraph) :=
    List.mem_of_getElem? (i := 8) rfl
  have hranges : optionalAs "formatted_ranges" "formattedRanges" (.listOf rangeShape) ∈ metadataFields .paragraph :=
    List.mem_of_getElem? (i := 0) rfl
  have hinner : required "ranges" (.listOf markedRangeShape) ∈ rangeBounds ++ [required "ranges" (.listOf markedRangeShape),
      required "type" (.choice ["link"]), required "url" .text] := List.mem_of_getElem? (i := 2) rfl
  have hmarks : required "marks" marksShape ∈ rangeBounds ++ [required "marks" marksShape,
      optional "type" (.choice ["marks"])] := List.mem_of_getElem? (i := 2) rfl
  refine .arm (s := shapeOf .paragraph) (by rfl) ?_
  refine .field hmetadata rfl rfl ?_
  refine .field hranges rfl rfl (.nullable nofun (.item (i := 0) rfl rfl ?_))
  refine .arm (s := linkRangeShape) (by rfl) ?_
  refine .field hinner rfl rfl (.item (i := 0) rfl rfl ?_)
  exact .field hmarks rfl rfl (.whole _ _)

/-- They keep their two new entries, in their order. -/
theorem newerParagraph_undeclared : ∃ b written fields, read newerParagraph = .ok b ∧
    marksShape = .record "FormattedRangeMarks" true fields ∧
    b.content.toValue.at? [.key "metadata", .key "formattedRanges", .index 0, .key "ranges", .index 0, .key "marks"] =
      some (.map written) ∧
    undeclared fields written = [(.str "hue", .int 3), (.str "blink", .null)] := by
  have hread : (read newerParagraph).isOk := by decide +kernel
  cases h : read newerParagraph with
  | error is => rw [h] at hread; cases hread
  | ok b =>
    obtain ⟨entries, written, hentries, hwritten, hkeeps⟩ := (undeclared_survive h).records newerMarks_part
    cases hentries
    exact ⟨b, written, _, rfl, rfl, hwritten, hkeeps.undeclared_eq⟩

end Block

end BlockNotebook
