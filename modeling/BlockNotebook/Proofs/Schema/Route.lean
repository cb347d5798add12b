import BlockNotebook.Proofs.Schema.Fits
import BlockNotebook.Proofs.Value.Place
/-!
Where the issues of a check lie.

A check gives every issue a path, in which the names of arms stand between the
steps through the data. `Route` follows both: the path that the check gives, and
the place in the data. `check_route` shows that there is a route to every issue
of plain data, and `Route.locates` that a route leads to a place in the data.
-/

namespace BlockNotebook.Schema

/-! ## Shapes -/

/-- The names of the arms of a tagged shape. -/
def Shape.arms? : Shape → Option (List String)
  | .tagged _ _ arms => some (arms.map (·.1))
  | .nullable s => s.arms?
  | _ => none

mutual

/-- The data that stands for a field that is left out fits the field. -/
def Shape.defaultsPass : Shape → Bool
  | .nullable s => s.defaultsPass
  | .listOf s => s.defaultsPass
  | .record _ _ fields => fieldsPass fields
  | .tagged _ _ arms => armsPass arms
  | _ => true

def fieldsPass : List (RecordField Shape) → Bool
  | [] => true
  | ⟨_, _, shape, whenAbsent⟩ :: rest =>
    whenAbsent.all (fun v => (check shape v).isOk) && shape.defaultsPass && fieldsPass rest

def armsPass : List (String × Shape) → Bool
  | [] => true
  | (_, shape) :: rest => shape.defaultsPass && armsPass rest

end

/-! ## Routes -/

/-- A way through data of a shape: the path that a check gives, and the place it stands for. The flag tells that a
field is missing there. -/
inductive Route : Shape → Value → Bool → Path → Path → Prop
  | here {s : Shape} {v : Value} (hs : s.arms? = none) : Route s v false [] []
  | nullable {s : Shape} {v : Value} {misses : Bool} {raw place : Path} (h : Route s v misses raw place) :
      Route (.nullable s) v misses raw place
  | item {s : Shape} {items : List Value} {i : Nat} {x : Value} {misses : Bool} {raw place : Path}
      (hx : items[i]? = some x) (h : Route s x misses raw place) :
      Route (.listOf s) (.list items) misses (.index i :: raw) (.index i :: place)
  | field {title : String} {keepsOthers : Bool} {fields : List (RecordField Shape)} {f : RecordField Shape}
      {used : String} {entries : List (Value × Value)} {x : Value} {misses : Bool} {raw place : Path}
      (hf : f ∈ fields) (hused : used = f.key ∨ used = f.name) (hx : Value.lookup used entries = some x)
      (h : Route f.shape x misses raw place) :
      Route (.record title keepsOthers fields) (.map entries) misses (.key used :: raw) (.key used :: place)
  | missing {title : String} {keepsOthers : Bool} {fields : List (RecordField Shape)} {f : RecordField Shape}
      {entries : List (Value × Value)} (hf : f ∈ fields) (hx : Value.lookup f.key entries = none) :
      Route (.record title keepsOthers fields) (.map entries) true [.key f.key] [.key f.key]
  | arm {key otherwise tag : String} {arms : List (String × Shape)} {s : Shape} {v : Value} {misses : Bool}
      {raw place : Path} (hs : (tag, s) ∈ arms) (h : Route s v misses raw place) :
      Route (.tagged key otherwise arms) v misses (.key tag :: raw) place

theorem Route.locates {s : Shape} {v : Value} {misses : Bool} {raw place : Path} (h : Route s v misses raw place) :
    v.Locates misses place := by
  induction h with
  | here _ => exact .there rfl
  | nullable _ ih => exact ih
  | @item s items i x misses raw place hx _ ih =>
    have hstep : (Value.list items).step (.index i) = some x := by
      rw [Value.step, if_pos (Int.natCast_nonneg i), Int.toNat_natCast, hx]
    exact ih.cons hstep
  | @field _ _ _ _ used entries x _ _ _ _ _ hx _ ih =>
    have hstep : (Value.map entries).step (.key used) = some x := hx
    exact ih.cons hstep
  | @missing _ _ _ f entries _ hx => exact @Value.Locates.absent _ [] _ _ rfl hx
  | arm _ _ ih => exact ih

/-! ## Scalars miss nothing -/

theorem readText_ne_missing (v : Value) : readText v ≠ .error .missing := by
  unfold readText
  split
  · rintro ⟨⟩
  · split <;> rintro ⟨⟩
  · rintro ⟨⟩

theorem readable_ne_missing (t : Text) : readable t ≠ .error .missing := by
  unfold readable
  split <;> nofun

theorem readPlainWhole_ne_missing (cs : List Char) : readPlainWhole cs ≠ .error .missing := by
  unfold readPlainWhole
  dsimp only
  repeat' split
  all_goals nofun

theorem readWholeText_ne_missing (cs : List Char) : readWholeText cs ≠ .error .missing := by
  unfold readWholeText
  split
  · split
    · nofun
    · rename_i ds _
      cases readPlainWhole ds <;> nofun
  · exact readPlainWhole_ne_missing cs

theorem bind_ne_missing {α β : Type} {x : Except Cause α} {f : α → Except Cause β} (hx : x ≠ .error .missing)
    (hf : ∀ a, f a ≠ .error .missing) : x.bind f ≠ .error .missing := by
  cases x with
  | error c => intro h; cases h; exact hx rfl
  | ok a => exact hf a

theorem readWholeFloat_ne_missing (x : Binary64) : readWholeFloat x ≠ .error .missing := by
  unfold readWholeFloat
  repeat' split
  all_goals nofun

theorem readWhole_ne_missing (v : Value) : readWhole v ≠ .error .missing := by
  unfold readWhole
  split
  · nofun
  · nofun
  · exact readWholeFloat_ne_missing _
  · exact bind_ne_missing (readable_ne_missing _) readWholeText_ne_missing
  · split
    · exact readWholeText_ne_missing _
    · nofun
  · nofun

theorem readFlagText_ne_missing (cs : List Char) : readFlagText cs ≠ .error .missing := by
  unfold readFlagText
  dsimp only
  repeat' split
  all_goals nofun

theorem readFlagWhole_ne_missing (i : Int) : readFlagWhole i ≠ .error .missing := by
  unfold readFlagWhole
  repeat' split
  all_goals nofun

theorem readFlag_ne_missing (v : Value) : readFlag v ≠ .error .missing := by
  unfold readFlag
  split
  · nofun
  · split
    · exact readFlagWhole_ne_missing _
    · nofun
  · split
    · split
      · exact readFlagWhole_ne_missing _
      · nofun
    · nofun
  · exact bind_ne_missing (readable_ne_missing _) readFlagText_ne_missing
  · split
    · exact readFlagText_ne_missing _
    · nofun
  · nofun

theorem readNumberText_ne_missing (cs : List Char) : readNumberText cs ≠ .error .missing := by
  unfold readNumberText
  repeat' split
  all_goals nofun

theorem readNumber_ne_missing (v : Value) : readNumber v ≠ .error .missing := by
  unfold readNumber
  split
  · nofun
  · split <;> nofun
  · nofun
  · exact bind_ne_missing (readable_ne_missing _) readNumberText_ne_missing
  · split
    · exact readNumberText_ne_missing _
    · nofun
  · nofun

/-! ## Issues at the data itself -/

/-- All issues lie at the data itself, and no field is missing. -/
def IssuesHere {α : Type} (r : Verdict α) : Prop :=
  ∀ is, r = .error is → ∀ i ∈ is, i.path = [] ∧ i.cause ≠ .missing

theorem issuesHere_ok {α : Type} (a : α) : IssuesHere (.ok a : Verdict α) := nofun

theorem issuesHere_issue {α : Type} {c : Cause} (hc : c ≠ .missing) (v : Value) :
    IssuesHere (issue c v : Verdict α) := by
  intro is h i hi
  cases h
  cases List.mem_singleton.1 hi
  exact ⟨rfl, hc⟩

theorem issuesHere_scalar {α : Type} {read : Value → Except Cause α} {v : Value} (h : read v ≠ .error .missing)
    (write : α → Value) : IssuesHere (scalar read write v) := by
  unfold scalar
  split
  · exact issuesHere_ok _
  · rename_i c hc
    refine issuesHere_issue ?_ v
    rintro rfl
    exact h hc

theorem issuesHere_checkChoice (options : List String) (v : Value) : IssuesHere (checkChoice options v) := by
  unfold checkChoice
  split
  · split
    · exact issuesHere_ok _
    · exact issuesHere_issue (by split <;> rintro ⟨⟩) _
  · exact issuesHere_issue (by rintro ⟨⟩) v

theorem issuesHere_checkTextOrTexts (v : Value) : IssuesHere (checkTextOrTexts v) := by
  unfold checkTextOrTexts
  split
  · exact issuesHere_ok _
  · split
    · exact issuesHere_ok _
    · exact issuesHere_issue (by nofun) v

theorem issuesHere_checkTextOrPair (v : Value) : IssuesHere (checkTextOrPair v) := by
  unfold checkTextOrPair
  split
  · exact issuesHere_ok _
  · split
    · exact issuesHere_ok _
    · exact issuesHere_issue (by nofun) v

theorem IssuesHere.route {s : Shape} (hs : s.arms? = none) {v : Value} {α : Type} {r : Verdict α} (h : IssuesHere r)
    {is : List Issue} (hr : r = .error is) : ∀ i ∈ is, ∃ place, Route s v (i.cause == .missing) i.path place := by
  intro i hi
  obtain ⟨hpath, hcause⟩ := h is hr i hi
  rw [hpath, beq_false_of_ne hcause]
  exact ⟨[], .here hs⟩

/-! ## Issues of parts -/

theorem map_eq_error {ε α β : Type} {f : α → β} {r : Except ε α} {e : ε} (h : r.map f = .error e) :
    r = .error e := by
  cases r with
  | error e => cases h; rfl
  | ok a => cases h

theorem under_eq_error {α : Type} {s : Segment} {r : Verdict α} {is : List Issue} (h : under s r = .error is) :
    ∃ js, r = .error js ∧ is = js.map (Issue.under s) := by
  cases r with
  | error js => cases h; exact ⟨js, rfl, rfl⟩
  | ok a => cases h

theorem exists_of_collect_error {α : Type} {rs : List (Verdict α)} {is : List Issue} (h : collect rs = .error is)
    {i : Issue} (hi : i ∈ is) : ∃ js, .error js ∈ rs ∧ i ∈ js := by
  induction rs generalizing is with
  | nil => cases h
  | cons r rs ih =>
    unfold collect at h
    split at h
    · cases h
    · rename_i hrs
      cases h
      obtain ⟨js, hjs, hi⟩ := ih hrs hi
      exact ⟨js, List.mem_cons_of_mem _ hjs, hi⟩
    · cases h
      exact ⟨is, List.mem_cons_self, hi⟩
    · rename_i js ks hrs
      cases h
      rcases List.mem_append.1 hi with hi | hi
      · exact ⟨js, List.mem_cons_self, hi⟩
      · obtain ⟨js, hjs, hi⟩ := ih hrs hi
        exact ⟨js, List.mem_cons_of_mem _ hjs, hi⟩

theorem collect_ne_error {α : Type} {rs : List (Verdict α)} (h : ∀ is, .error is ∉ rs) (is : List Issue) :
    collect rs ≠ .error is := by
  induction rs generalizing is with
  | nil => nofun
  | cons r rs ih =>
    have hrest : ∀ is, .error is ∉ rs := fun is his => h is (List.mem_cons_of_mem _ his)
    unfold collect
    split
    · nofun
    · rename_i hrs
      exact absurd hrs (ih hrest _)
    · exact absurd List.mem_cons_self (h _)
    · exact absurd List.mem_cons_self (h _)

/-- Entries that all have texts for keys are no issue, known to the shape or not. -/
theorem checkOthers_ne_error (used : List String) {entries : List (Value × Value)}
    (h : ∀ e ∈ entries, ∃ k, e.1 = .str k) (is : List Issue) : checkOthers used entries ≠ .error is := by
  intro herror
  refine collect_ne_error (fun js hjs => ?_) is (map_eq_error herror)
  obtain ⟨⟨k, v⟩, he, hk⟩ := List.mem_map.1 hjs
  obtain ⟨t, rfl⟩ : ∃ t, k = .str t := h _ he
  cases hk

theorem checkOpenMapping_route {v : Value} (hv : v.IsPlain) {is : List Issue} (h : checkOpenMapping v = .error is) :
    ∀ i ∈ is, ∃ place, Route .openMapping v (i.cause == .missing) i.path place := by
  unfold checkOpenMapping at h
  cases he : v.entries? with
  | none =>
    rw [he] at h
    exact (issuesHere_issue (by nofun) v).route rfl h
  | some entries =>
    rw [he] at h
    obtain ⟨-, hkeys, -⟩ := hv.of_entries? he
    refine absurd (map_eq_error h) (collect_ne_error (fun js hjs => ?_) is)
    obtain ⟨⟨k, x⟩, hmem, hk⟩ := List.mem_map.1 hjs
    obtain ⟨t, rfl⟩ : ∃ t, k = .str t := hkeys _ hmem
    cases hk

/-- The issues of a record are a broken key, at the record itself, or those of its fields. -/
theorem recordVerdict_eq_error {keepsOthers : Bool} {used : List String} {entries : List (Value × Value)}
    (hkeys : ∀ e ∈ entries, ∃ k, e.1 = .str k) {fields : Verdict (List (String × Checked))} {is : List Issue}
    (h : recordVerdict keepsOthers used entries fields = .error is) {i : Issue} (hi : i ∈ is) :
    (i.path = [] ∧ i.cause ≠ .missing) ∨ ∃ js, fields = .error js ∧ i ∈ js := by
  have hothers : ∀ js, (if keepsOthers then checkOthers used entries else .ok []) ≠ .error js := by
    intro js
    split
    · exact checkOthers_ne_error used hkeys js
    · rintro ⟨⟩
  unfold recordVerdict at h
  split at h
  · exact .inl (issuesHere_issue (by rintro ⟨⟩) _ is h i hi)
  · split at h
    · cases h
    · rename_i herror
      exact absurd herror (hothers _)
    · rename_i js _ _
      cases h
      exact .inr ⟨_, rfl, hi⟩
    · rename_i herror
      exact absurd herror (hothers _)

/-! ## Every issue has a place -/

/-- The issue lies at a field of a record: in what gives the field, or where nothing gives it. -/
def FieldRoute (f : RecordField Shape) (entries : List (Value × Value)) (i : Issue) : Prop :=
  (∃ used x raw place, (used = f.key ∨ used = f.name) ∧ Value.lookup used entries = some x ∧
    i.path = .key used :: raw ∧ Route f.shape x (i.cause == .missing) raw place) ∨
  (i.path = [.key f.key] ∧ i.cause = .missing ∧ Value.lookup f.key entries = none)

theorem FieldRoute.route {title : String} {keepsOthers : Bool} {fields : List (RecordField Shape)}
    {f : RecordField Shape} (hf : f ∈ fields) {entries : List (Value × Value)} {i : Issue}
    (h : FieldRoute f entries i) :
    ∃ place, Route (.record title keepsOthers fields) (.map entries) (i.cause == .missing) i.path place := by
  rcases h with ⟨used, x, raw, place, hused, hx, hpath, hroute⟩ | ⟨hpath, hcause, hx⟩
  · rw [hpath]
    exact ⟨_, .field hf hused hx hroute⟩
  · rw [hpath, hcause]
    exact ⟨_, .missing hf hx⟩

/-- What gives a field is what stands at its key or at its name; a field that nothing gives is at neither. -/
theorem find_cases {α : Type} (f : RecordField α) (entries : List (Value × Value)) :
    (∃ used x, f.find entries = some (used, x) ∧ (used = f.key ∨ used = f.name) ∧
      Value.lookup used entries = some x) ∨
    (f.find entries = none ∧ Value.lookup f.key entries = none) := by
  unfold RecordField.find
  cases hkey : Value.lookup f.key entries with
  | some x => exact .inl ⟨f.key, x, rfl, .inl rfl, hkey⟩
  | none =>
    cases hname : Value.lookup f.name entries with
    | some x => exact .inl ⟨f.name, x, rfl, .inr rfl, hname⟩
    | none => exact .inr ⟨rfl, rfl⟩

mutual

/-- Every issue of plain data has a route. -/
theorem check_route : ∀ (s : Shape), s.defaultsPass → ∀ {v : Value} {is : List Issue}, v.IsPlain →
    check s v = .error is → ∀ i ∈ is, ∃ place, Route s v (i.cause == .missing) i.path place
  | .any, _, _, _, _, h => by cases h
  | .text, _, v, _, _, h => (issuesHere_scalar (readText_ne_missing v) _).route rfl h
  | .flag, _, v, _, _, h => (issuesHere_scalar (readFlag_ne_missing v) _).route rfl h
  | .whole, _, v, _, _, h => (issuesHere_scalar (readWhole_ne_missing v) _).route rfl h
  | .number, _, v, _, _, h => (issuesHere_scalar (readNumber_ne_missing v) _).route rfl h
  | .choice options, _, v, _, _, h => (issuesHere_checkChoice options v).route rfl h
  | .textOrTexts, _, v, _, _, h => (issuesHere_checkTextOrTexts v).route rfl h
  | .textOrPair, _, v, _, _, h => (issuesHere_checkTextOrPair v).route rfl h
  | .openMapping, _, _, _, hv, h => checkOpenMapping_route hv h
  | .nullable s, hd, v, is, hv, h => by
    unfold check at h
    split at h
    · cases h
    · intro i hi
      obtain ⟨place, hroute⟩ := check_route s hd hv h i hi
      exact ⟨place, .nullable hroute⟩
  | .listOf s, hd, v, is, hv, h => by
    rw [check] at h
    cases hitems : v.items? with
    | none =>
      rw [hitems] at h
      exact (issuesHere_issue (by nofun) v).route rfl h
    | some items =>
      rw [hitems] at h
      obtain ⟨rfl, hplain⟩ := hv.of_items? hitems
      intro i hi
      obtain ⟨js, hjs, hi⟩ := exists_of_collect_error (map_eq_error h) hi
      obtain ⟨n, hn, he⟩ := List.mem_mapIdx.1 hjs
      obtain ⟨ks, hks, rfl⟩ := under_eq_error he
      obtain ⟨k, hk, rfl⟩ := List.mem_map.1 hi
      obtain ⟨place, hroute⟩ := check_route s hd (hplain _ (List.getElem_mem hn)) hks k hk
      exact ⟨_, .item (List.getElem?_eq_getElem hn) hroute⟩
  | .record title keepsOthers fields, hd, v, is, hv, h => by
    rw [check] at h
    cases hentries : v.entries? with
    | none =>
      rw [hentries] at h
      exact (issuesHere_issue (by nofun) v).route rfl h
    | some entries =>
      rw [hentries] at h
      obtain ⟨rfl, hkeys, hplain⟩ := hv.of_entries? hentries
      intro i hi
      rcases recordVerdict_eq_error hkeys h hi with ⟨hpath, hcause⟩ | ⟨js, hjs, hi⟩
      · rw [hpath, beq_false_of_ne hcause]
        exact ⟨[], .here rfl⟩
      · obtain ⟨ks, hks, hi⟩ := exists_of_collect_error hjs hi
        obtain ⟨f, hf, hfield⟩ := checkFields_route fields hd hplain hks i hi
        exact hfield.route hf
  | .tagged key otherwise arms, hd, v, is, hv, h => by
    rw [check] at h
    obtain ⟨js, hjs, rfl⟩ := under_eq_error (map_eq_error h)
    obtain ⟨s, hs, harm⟩ := checkArm_route arms hd hv hjs
    intro i hi
    obtain ⟨j, hj, rfl⟩ := List.mem_map.1 hi
    obtain ⟨place, hroute⟩ := harm j hj
    exact ⟨place, .arm hs hroute⟩

theorem checkFields_route : ∀ (fields : List (RecordField Shape)), fieldsPass fields → ∀ {v : Value}
    {entries : List (Value × Value)} {is : List Issue}, (∀ e ∈ entries, e.2.IsPlain) →
    .error is ∈ checkFields fields v entries → ∀ i ∈ is, ∃ f ∈ fields, FieldRoute f entries i
  | [], _, _, _, _, _, h => by cases h
  | ⟨name, key, shape, whenAbsent⟩ :: rest, hd, v, entries, is, hplain, h => by
    obtain ⟨hd, hrest⟩ := Bool.and_eq_true_iff.1 hd
    obtain ⟨hdefault, hd⟩ := Bool.and_eq_true_iff.1 hd
    unfold checkFields at h
    rcases List.mem_cons.1 h with h | h
    · intro i hi
      refine ⟨_, List.mem_cons_self, ?_⟩
      have h := map_eq_error h.symm
      rcases find_cases ⟨name, key, shape, whenAbsent⟩ entries with ⟨used, x, hfind, hused, hx⟩ | ⟨hfind, hx⟩
      · rw [hfind] at h
        obtain ⟨js, hjs, rfl⟩ := under_eq_error h
        obtain ⟨j, hj, rfl⟩ := List.mem_map.1 hi
        obtain ⟨place, hroute⟩ := check_route shape hd (hplain _ (Value.mem_of_lookup hx)) hjs j hj
        exact .inl ⟨used, x, _, place, hused, hx, rfl, hroute⟩
      · -- A field that nothing gives is missing, unless something stands for it; what does so passes its own check.
        rw [hfind] at h
        cases whenAbsent with
        | some x =>
          have hpass : (check shape x).isOk := hdefault
          have h : check shape x = .error is := h
          rw [h] at hpass
          cases hpass
        | none =>
          cases h
          cases List.mem_singleton.1 hi
          exact .inr ⟨rfl, rfl, hx⟩
    · intro i hi
      obtain ⟨f, hf, hfield⟩ := checkFields_route rest hrest hplain h i hi
      exact ⟨f, List.mem_cons_of_mem _ hf, hfield⟩

theorem checkArm_route : ∀ (arms : List (String × Shape)), armsPass arms → ∀ {tag : String} {v : Value}
    {is : List Issue}, v.IsPlain → checkArm arms tag v = .error is →
    ∃ s, (tag, s) ∈ arms ∧ ∀ i ∈ is, ∃ place, Route s v (i.cause == .missing) i.path place
  | [], _, _, _, _, _, h => by cases h
  | (name, shape) :: rest, hd, tag, v, is, hv, h => by
    obtain ⟨hd, hrest⟩ := Bool.and_eq_true_iff.1 hd
    rw [checkArm] at h
    split at h
    · rename_i hname
      rw [← eq_of_beq hname]
      exact ⟨shape, List.mem_cons_self, check_route shape hd hv h⟩
    · obtain ⟨s, hs, harm⟩ := checkArm_route rest hrest hv h
      exact ⟨s, List.mem_cons_of_mem _ hs, harm⟩

end

end BlockNotebook.Schema
