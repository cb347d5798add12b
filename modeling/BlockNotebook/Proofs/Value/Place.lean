import BlockNotebook.Schema.Issue
/-!
Places in plain data.

Plain data is what a document with neither bytes nor dates nor references to
itself consists of. A path leads from the root of data to a place in it, one
entry or one item a step.
-/

namespace BlockNotebook

namespace Value

/-- Data made of null, truth values, numbers, texts, lists, and mappings whose keys are texts. -/
inductive IsPlain : Value → Prop
  | null : IsPlain .null
  | bool (b : Bool) : IsPlain (.bool b)
  | int (i : Int) : IsPlain (.int i)
  | float (x : Binary64) : IsPlain (.float x)
  | str (t : Text) : IsPlain (.str t)
  | list {items : List Value} (h : ∀ v ∈ items, IsPlain v) : IsPlain (.list items)
  | map {entries : List (Value × Value)} (hkeys : ∀ e ∈ entries, ∃ k, e.1 = .str k)
      (h : ∀ e ∈ entries, IsPlain e.2) : IsPlain (.map entries)

@[simp] theorem isPlain_list_iff {items : List Value} : IsPlain (.list items) ↔ ∀ v ∈ items, IsPlain v :=
  ⟨fun h => by cases h; assumption, .list⟩

@[simp] theorem isPlain_map_iff {entries : List (Value × Value)} :
    IsPlain (.map entries) ↔ (∀ e ∈ entries, ∃ k, e.1 = .str k) ∧ ∀ e ∈ entries, IsPlain e.2 :=
  ⟨fun h => by cases h; exact ⟨by assumption, by assumption⟩, fun ⟨hkeys, h⟩ => .map hkeys h⟩

/-! ## Parts of plain data -/

mutual

/-- Plain data has no references that could be replaced. -/
theorem replace_of_isPlain : ∀ v : Value, IsPlain v → ∀ (outer : Value) (depth : Nat), replace outer depth v = v
  | .null, _, _, _ => rfl
  | .bool _, _, _, _ => rfl
  | .int _, _, _, _ => rfl
  | .float _, _, _, _ => rfl
  | .str _, _, _, _ => rfl
  | .list items, h, outer, depth => by
    cases h with
    | list h => rw [replace, replaceList_of_isPlain items h]
  | .map entries, h, outer, depth => by
    cases h with
    | map _ h => rw [replace, replaceEntries_of_isPlain entries h]
  | .bytes _, h, _, _ => nomatch h
  | .date _, h, _, _ => nomatch h
  | .moment _, h, _, _ => nomatch h
  | .pair _ _, h, _, _ => nomatch h
  | .set _, h, _, _ => nomatch h
  | .enclosing _, h, _, _ => nomatch h

theorem replaceList_of_isPlain : ∀ items : List Value, (∀ v ∈ items, IsPlain v) → ∀ (outer : Value) (depth : Nat),
    replaceList outer depth items = items
  | [], _, _, _ => rfl
  | v :: vs, h, outer, depth => by
    obtain ⟨hv, hvs⟩ := List.forall_mem_cons.1 h
    rw [replaceList, replace_of_isPlain v hv, replaceList_of_isPlain vs hvs]

theorem replaceEntries_of_isPlain : ∀ entries : List (Value × Value), (∀ e ∈ entries, IsPlain e.2) →
    ∀ (outer : Value) (depth : Nat), replaceEntries outer depth entries = entries
  | [], _, _, _ => rfl
  | (k, v) :: rest, h, outer, depth => by
    obtain ⟨hv, hrest⟩ := List.forall_mem_cons.1 h
    rw [replaceEntries, replace_of_isPlain v hv, replaceEntries_of_isPlain rest hrest]

end

/-- The items of plain data are those of a list. -/
theorem IsPlain.of_items? {v : Value} (h : IsPlain v) {items : List Value} (hi : v.items? = some items) :
    v = .list items ∧ ∀ x ∈ items, IsPlain x := by
  cases h with
  | @list parts h =>
    have hparts : parts.map (within (.list parts)) = parts :=
      (List.map_congr_left fun x hx => replace_of_isPlain x (h x hx) _ 0).trans (List.map_id _)
    rw [items?, hparts] at hi
    cases hi
    exact ⟨rfl, h⟩
  | _ => cases hi

/-- The entries of plain data are those of a mapping, and their keys are texts. -/
theorem IsPlain.of_entries? {v : Value} (h : IsPlain v) {entries : List (Value × Value)}
    (he : v.entries? = some entries) :
    v = .map entries ∧ (∀ e ∈ entries, ∃ k, e.1 = .str k) ∧ ∀ e ∈ entries, IsPlain e.2 := by
  cases h with
  | @map parts hkeys h =>
    have hentry : ∀ e ∈ parts, (e.1, within (.map parts) e.2) = e := fun e he => by
      rw [within, replace_of_isPlain e.2 (h e he)]
    have hparts : (parts.map fun e => (e.1, within (.map parts) e.2)) = parts :=
      (List.map_congr_left hentry).trans (List.map_id' parts)
    rw [entries?, hparts] at he
    cases he
    exact ⟨rfl, hkeys, h⟩
  | _ => cases he

theorem mem_of_lookup {key : Text} {entries : List (Value × Value)} {x : Value} (h : lookup key entries = some x) :
    (.str key, x) ∈ entries := by
  induction entries with
  | nil => cases h
  | cons e rest ih =>
    obtain ⟨k, v⟩ := e
    unfold lookup at h
    split at h
    · cases h
    · rename_i he
      cases he
      split at h
      · rename_i hkey
        cases h
        rw [eq_of_beq hkey]
        exact List.mem_cons_self
      · exact List.mem_cons_of_mem _ (ih h)
    · rename_i he
      cases he
      exact List.mem_cons_of_mem _ (ih h)

/-! ## Paths -/

/-- The part of data one step on: the value at a key of a mapping, or the item of a list at an index. -/
def step : Value → Schema.Segment → Option Value
  | .map entries, .key name => lookup name entries
  | .list items, .index i => if 0 ≤ i then items[i.toNat]? else none
  | _, _ => none

/-- The data that a path leads to, if it leads anywhere. -/
def at? : Value → Schema.Path → Option Value
  | v, [] => some v
  | v, s :: rest => (v.step s).bind fun x => x.at? rest

/-- The path leads to a place in the data; one that misses an entry leads to a mapping, and on to a key which that
mapping does not have. -/
inductive Locates (v : Value) : Bool → Schema.Path → Prop
  | there {place : Schema.Path} {x : Value} (h : v.at? place = some x) : Locates v false place
  | absent {outer : Schema.Path} {name : Text} {entries : List (Value × Value)}
      (h : v.at? outer = some (.map entries)) (hname : lookup name entries = none) : Locates v true (outer ++ [.key name])

theorem at?_cons {v x : Value} {s : Schema.Segment} (hs : v.step s = some x) (rest : Schema.Path) :
    v.at? (s :: rest) = x.at? rest := by
  rw [at?, hs]
  rfl

theorem Locates.cons {v x : Value} {s : Schema.Segment} (hs : v.step s = some x) {misses : Bool}
    {place : Schema.Path} (h : x.Locates misses place) : v.Locates misses (s :: place) := by
  cases h with
  | there h => exact .there ((at?_cons hs _).trans h)
  | @absent outer name _ h hname => exact @absent v (s :: outer) name _ ((at?_cons hs outer).trans h) hname

theorem at?_append (v : Value) (p q : Schema.Path) : v.at? (p ++ q) = (v.at? p).bind fun x => x.at? q := by
  induction p generalizing v with
  | nil => rfl
  | cons s p ih =>
    rw [List.cons_append, at?, at?, Option.bind_assoc]
    exact congrArg _ (funext ih)

theorem Locates.ends_in_key {v : Value} {p : Schema.Path} (h : v.Locates true p) :
    ∃ outer name, p = outer ++ [.key name] := by
  cases h with
  | absent _ _ => exact ⟨_, _, rfl⟩

/-- A path to a place reaches data at every earlier step. -/
theorem Locates.of_append {v : Value} {misses : Bool} {p q : Schema.Path} (h : v.Locates misses (p ++ q))
    (hq : misses = false ∨ q ≠ []) : ∃ x, v.at? p = some x := by
  generalize hpath : p ++ q = path at h
  cases h with
  | there h =>
    rw [← hpath, at?_append] at h
    obtain ⟨x, hx, -⟩ := Option.bind_eq_some_iff.1 h
    exact ⟨x, hx⟩
  | @absent outer name _ h _ =>
    -- The key that is missing is the last step, so all of `p` lies before it if anything follows `p`.
    rcases List.eq_nil_or_concat q with rfl | ⟨q, s, rfl⟩
    · rcases hq with hq | hq
      · cases hq
      · exact absurd rfl hq
    · rw [List.concat_eq_append, ← List.append_assoc] at hpath
      obtain ⟨rfl, -⟩ := List.append_inj' hpath rfl
      rw [at?_append] at h
      obtain ⟨x, hx, -⟩ := Option.bind_eq_some_iff.1 h
      exact ⟨x, hx⟩

end Value

end BlockNotebook
