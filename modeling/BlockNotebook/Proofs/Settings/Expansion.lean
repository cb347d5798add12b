import Mathlib.Data.List.Basic
import Mathlib.Data.List.TakeWhile
import Mathlib.Data.Nat.Find
import Mathlib.Order.Defs.LinearOrder
import BlockNotebook.Settings.Environment
/-!
What becomes of data whose texts refer to variables.

`Cuts` cuts a text at its references: each is the leftmost one in what the cuts before it leave.
There is one way to do so. `Expanded` puts a value in place of every reference in the texts of the
data and changes nothing else; the values are not read, so what they hold or complete stays as it
is. `expansion_local` says that expanding data gives just that, and that it depends on the variables
the texts refer to, and on no others.
-/

namespace BlockNotebook

namespace Environment

open Text

/-! ## References -/

/-- A name is one or more characters of words. -/
def IsName (name : Text) : Prop := name ≠ [] ∧ ∀ c ∈ name, c.satisfies isWord

theorem referenceText_append (name rest : Text) :
    referenceText name ++ rest = .char '$' :: .char '\x7b' :: (name ++ .char '\x7d' :: rest) := by
  simp [referenceText, ofString, ofChars]

theorem length_referenceText (name : Text) : (referenceText name).length = name.length + 3 := by
  simp [referenceText, ofString, ofChars]

/-- The reference in front of a text has a name, and the brace after it ends that name. -/
theorem reference?_eq_some {t name : Text} :
    reference? t = some name ↔ IsName name ∧ ∃ rest, t = referenceText name ++ rest := by
  constructor
  · intro h
    unfold reference? at h
    split at h
    · rename_i rest
      dsimp only at h
      split at h
      · rename_i after hafter
        split at h
        · cases h
        · rename_i hname
          cases h
          refine ⟨⟨by simpa using hname, fun c hc => List.mem_takeWhile_imp hc⟩, after, ?_⟩
          rw [referenceText_append, ← hafter, List.prefix_iff_eq_append.1 (List.takeWhile_prefix _)]
      · cases h
    · cases h
  · rintro ⟨⟨hne, hword⟩, rest, rfl⟩
    have htake : (name ++ .char '\x7d' :: rest).takeWhile (·.satisfies isWord) = name := by
      rw [List.takeWhile_append_of_pos hword, List.takeWhile_cons_of_neg (by decide +kernel), List.append_nil]
    rw [referenceText_append, reference?]
    simp [htake, hne]

/-- A reference stands at a place of a text. -/
def OccursAt (t : Text) (place : Nat) : Prop :=
  ∃ name rest, IsName name ∧ t.drop place = referenceText name ++ rest

theorem occursAt_iff {t : Text} {place : Nat} : OccursAt t place ↔ (reference? (t.drop place)).isSome := by
  simp only [OccursAt, Option.isSome_iff_exists, reference?_eq_some, exists_and_left]

instance (t : Text) (place : Nat) : Decidable (OccursAt t place) := decidable_of_iff _ occursAt_iff.symm

theorem not_occursAt_iff {t : Text} {place : Nat} : ¬ OccursAt t place ↔ reference? (t.drop place) = none := by
  rw [occursAt_iff, Option.not_isSome_iff_eq_none]

/-- The reference after the first part of a text stands at its end. -/
theorem occursAt_append {before name rest : Text} (h : IsName name) :
    OccursAt (before ++ referenceText name ++ rest) before.length :=
  ⟨name, rest, h, by rw [List.append_assoc, List.drop_left]⟩

/-! ## A text, cut at its references -/

/--
A text cut at its references: what stands before the first one, and each name with what stands
after its reference.
-/
inductive Cuts : Text → Text → List (Text × Text) → Prop
  /-- No reference is left. -/
  | last {t : Text} (hnone : ∀ place, ¬ OccursAt t place) : Cuts t t []
  /-- A reference with none that begins further left; the cut goes on behind it. -/
  | next {before name rest literal : Text} {more : List (Text × Text)} (hname : IsName name)
      (hfirst : ∀ place < before.length, ¬ OccursAt (before ++ referenceText name ++ rest) place)
      (hrest : Cuts rest literal more) :
      Cuts (before ++ referenceText name ++ rest) before ((name, literal) :: more)

/-- A text can be cut: look for its leftmost reference, and cut what stands behind that. -/
theorem exists_cuts (t : Text) : ∃ first more, Cuts t first more := by
  by_cases h : ∃ place, OccursAt t place
  · obtain ⟨name, rest, hname, hdrop⟩ := Nat.find_spec h
    have hcut : t = t.take (Nat.find h) ++ referenceText name ++ rest := by
      rw [List.append_assoc, ← hdrop, List.take_append_drop]
    have hshort : rest.length < t.length := by
      have := congrArg List.length hdrop
      rw [List.length_drop, List.length_append, length_referenceText] at this
      omega
    obtain ⟨literal, more, hrest⟩ := exists_cuts rest
    refine ⟨t.take (Nat.find h), (name, literal) :: more, ?_⟩
    have hnext := @Cuts.next (t.take (Nat.find h)) name rest literal more hname (fun place hp => ?_) hrest
    · rwa [← hcut] at hnext
    · rw [← hcut]
      exact Nat.find_min h (lt_of_lt_of_le hp (List.length_take_le _ _))
  · exact ⟨t, [], .last fun place hp => h ⟨place, hp⟩⟩
termination_by t.length

/-- There is one way to cut a text: the leftmost reference is determined, and so is its name. -/
theorem Cuts.unique {t first first' : Text} {more more' : List (Text × Text)} (h : Cuts t first more)
    (h' : Cuts t first' more') : first = first' ∧ more = more' := by
  induction h generalizing first' more' with
  | last hnone =>
    cases h' with
    | last => exact ⟨rfl, rfl⟩
    | next hname => exact absurd (occursAt_append hname) (hnone _)
  | @next before name rest literal more hname hfirst _ ih =>
    generalize ht : before ++ referenceText name ++ rest = t at h' hfirst
    cases h' with
    | last hnone => exact absurd (ht ▸ occursAt_append hname) (hnone _)
    | @next _ name' rest' literal' more' hname' hfirst' hrest' =>
      have hlength : before.length = first'.length := by
        rcases lt_trichotomy before.length first'.length with hlt | heq | hgt
        · exact absurd (ht ▸ occursAt_append hname) (hfirst' _ hlt)
        · exact heq
        · exact absurd (occursAt_append hname') (hfirst _ hgt)
      rw [List.append_assoc, List.append_assoc] at ht
      obtain ⟨hbefore, hbehind⟩ := List.append_inj ht hlength
      have hsame : some name = some name' := by
        rw [← reference?_eq_some.2 ⟨hname, rest, rfl⟩, ← reference?_eq_some.2 ⟨hname', rest', rfl⟩, hbehind]
      cases hsame
      obtain rfl : rest = rest' := List.append_cancel_left hbehind
      obtain ⟨rfl, rfl⟩ := ih hrest'
      exact ⟨hbefore, rfl⟩

/-! ## Expanding a text -/

/-- The text from its pieces, with the values of the variables that are set for their references. -/
def filled (env : Environment) (first : Text) (more : List (Text × Text)) : Text :=
  first ++ more.flatMap fun piece => env.replacement piece.1 ++ piece.2

theorem expandFrom_eq (env : Environment) (skip : Nat) (t : Text) :
    expandFrom env skip t = env.expandText (t.drop skip) := by
  induction t generalizing skip with
  | nil => cases skip <;> rfl
  | cons c rest ih =>
    cases skip with
    | zero => rfl
    | succ skip => exact ih skip

theorem namesFrom_eq (skip : Nat) (t : Text) : namesFrom skip t = namesFrom 0 (t.drop skip) := by
  induction t generalizing skip with
  | nil => cases skip <;> rfl
  | cons c rest ih =>
    cases skip with
    | zero => rfl
    | succ skip => exact ih skip

/-- What is dropped behind a reference's first character is the rest of the reference. -/
theorem drop_reference {name rest : Text} :
    (CodePoint.char '\x7b' :: (name ++ .char '\x7d' :: rest)).drop (name.length + 2) = rest := by
  rw [List.drop_succ_cons, ← List.drop_drop, List.drop_left, List.drop_succ_cons, List.drop_zero]

theorem expandText_reference (env : Environment) {name : Text} (h : IsName name) (rest : Text) :
    env.expandText (referenceText name ++ rest) = env.replacement name ++ env.expandText rest := by
  have href := reference?_eq_some.2 ⟨h, rest, rfl⟩
  rw [referenceText_append] at href ⊢
  rw [expandText, expandFrom, href]
  simp only [expandFrom_eq, drop_reference]

theorem namesFrom_reference {name : Text} (h : IsName name) (rest : Text) :
    namesFrom 0 (referenceText name ++ rest) = name :: namesFrom 0 rest := by
  have href := reference?_eq_some.2 ⟨h, rest, rfl⟩
  rw [referenceText_append] at href ⊢
  rw [namesFrom, href]
  simp only [namesFrom_eq (name.length + 2), drop_reference]

/-- Where no reference begins, code points stay as they are. -/
theorem expandText_append (env : Environment) {before rest : Text}
    (h : ∀ place < before.length, ¬ OccursAt (before ++ rest) place) :
    env.expandText (before ++ rest) = before ++ env.expandText rest := by
  induction before with
  | nil => rfl
  | cons c before ih =>
    have hnone : reference? (c :: (before ++ rest)) = none := not_occursAt_iff.1 (h 0 (Nat.zero_lt_succ _))
    have htail := ih fun place hp => h (place + 1) (Nat.succ_lt_succ hp)
    rw [List.cons_append, expandText, expandFrom, hnone]
    exact congrArg (c :: ·) htail

theorem namesFrom_append {before rest : Text} (h : ∀ place < before.length, ¬ OccursAt (before ++ rest) place) :
    namesFrom 0 (before ++ rest) = namesFrom 0 rest := by
  induction before with
  | nil => rfl
  | cons c before ih =>
    have hnone : reference? (c :: (before ++ rest)) = none := not_occursAt_iff.1 (h 0 (Nat.zero_lt_succ _))
    have htail := ih fun place hp => h (place + 1) (Nat.succ_lt_succ hp)
    rw [List.cons_append, namesFrom, hnone]
    exact htail

/-- A text is expanded at its cuts. -/
theorem Cuts.expandText (env : Environment) {t first : Text} {more : List (Text × Text)} (h : Cuts t first more) :
    env.expandText t = env.filled first more := by
  induction h with
  | @last t hnone =>
    have := @expandText_append env t [] fun place _ => by
      rw [List.append_nil]
      exact hnone place
    simpa [filled, Environment.expandText, expandFrom] using this
  | @next before name rest literal more hname hfirst _ ih =>
    rw [List.append_assoc] at hfirst ⊢
    rw [expandText_append env hfirst, expandText_reference env hname, ih, filled, filled, List.flatMap_cons,
      List.append_assoc]

/-- The names in a text are those at its cuts. -/
theorem Cuts.names {t first : Text} {more : List (Text × Text)} (h : Cuts t first more) :
    namesFrom 0 t = more.map Prod.fst := by
  induction h with
  | @last t hnone =>
    have := @namesFrom_append t [] fun place _ => by
      rw [List.append_nil]
      exact hnone place
    simpa [namesFrom] using this
  | @next before name rest literal more hname hfirst _ ih =>
    rw [List.append_assoc] at hfirst ⊢
    rw [namesFrom_append hfirst, namesFrom_reference hname, ih, List.map_cons]

/-! ## Expanding data -/

/-- The data is a text, a list or a mapping. -/
def IsOpen : Value → Prop
  | .str _ | .list _ | .map _ => True
  | _ => False

mutual

/--
Data in which the references of the texts are replaced: texts piece by piece, lists item by item
and mappings entry by entry under the same keys. All else is as it was.
-/
inductive Expanded (env : Environment) : Value → Value → Prop
  | text {t first : Text} {more : List (Text × Text)} (hcuts : Cuts t first more) :
    Expanded env (.str t) (.str (env.filled first more))
  | list {items items' : List Value} (hitems : ExpandedItems env items items') :
    Expanded env (.list items) (.list items')
  | map {entries entries' : List (Value × Value)} (hentries : ExpandedEntries env entries entries') :
    Expanded env (.map entries) (.map entries')
  | other {v : Value} (hother : ¬ IsOpen v) : Expanded env v v

inductive ExpandedItems (env : Environment) : List Value → List Value → Prop
  | nil : ExpandedItems env [] []
  | cons {v v' : Value} {vs vs' : List Value} (hv : Expanded env v v') (hvs : ExpandedItems env vs vs') :
    ExpandedItems env (v :: vs) (v' :: vs')

inductive ExpandedEntries (env : Environment) : List (Value × Value) → List (Value × Value) → Prop
  | nil : ExpandedEntries env [] []
  | cons {key v v' : Value} {rest rest' : List (Value × Value)} (hv : Expanded env v v')
      (hrest : ExpandedEntries env rest rest') : ExpandedEntries env ((key, v) :: rest) ((key, v') :: rest')

end

mutual

/-- Expanding data replaces the references of its texts. -/
theorem expanded_expand (env : Environment) : ∀ v : Value, Expanded env v (env.expand v)
  | .str t => by
    obtain ⟨first, more, hcuts⟩ := exists_cuts t
    rw [expand, hcuts.expandText env]
    exact .text hcuts
  | .list items => .list (expandedItems_expandItems env items)
  | .map entries => .map (expandedEntries_expandEntries env entries)
  | .null | .bool _ | .int _ | .float _ | .bytes _ | .date _ | .moment _ | .pair _ _ | .set _ | .enclosing _ =>
    .other id

theorem expandedItems_expandItems (env : Environment) : ∀ items : List Value,
    ExpandedItems env items (env.expandItems items)
  | [] => .nil
  | v :: vs => .cons (expanded_expand env v) (expandedItems_expandItems env vs)

theorem expandedEntries_expandEntries (env : Environment) : ∀ entries : List (Value × Value),
    ExpandedEntries env entries (env.expandEntries entries)
  | [] => .nil
  | (_, v) :: rest => .cons (expanded_expand env v) (expandedEntries_expandEntries env rest)

end

mutual

/-- Nothing else is data with its references replaced. -/
theorem Expanded.eq_expand {env : Environment} : ∀ {v w : Value}, Expanded env v w → w = env.expand v
  | _, _, .text hcuts => by rw [expand, hcuts.expandText env]
  | _, _, .list hitems => congrArg Value.list hitems.eq_expandItems
  | _, _, .map hentries => congrArg Value.map hentries.eq_expandEntries
  | v, _, .other hother => by cases v <;> first | rfl | exact absurd trivial hother

theorem ExpandedItems.eq_expandItems {env : Environment} : ∀ {items items' : List Value},
    ExpandedItems env items items' → items' = env.expandItems items
  | _, _, .nil => rfl
  | _, _, .cons hv hvs => by rw [expandItems, ← hv.eq_expand, ← hvs.eq_expandItems]

theorem ExpandedEntries.eq_expandEntries {env : Environment} : ∀ {entries entries' : List (Value × Value)},
    ExpandedEntries env entries entries' → entries' = env.expandEntries entries
  | _, _, .nil => rfl
  | _, _, .cons hv hrest => by rw [expandEntries, ← hv.eq_expand, ← hrest.eq_expandEntries]

end

theorem expanded_iff {env : Environment} {v w : Value} : Expanded env v w ↔ w = env.expand v :=
  ⟨Expanded.eq_expand, fun h => h ▸ expanded_expand env v⟩

/-! ## What it depends on -/

/-- A name stands in a reference of a text of the data. Keys of mappings are not looked at. -/
inductive Refers : Value → Text → Prop
  | text {t first name : Text} {more : List (Text × Text)} (hcuts : Cuts t first more)
      (hname : name ∈ more.map Prod.fst) : Refers (.str t) name
  | item {items : List Value} {v : Value} {name : Text} (hmem : v ∈ items) (href : Refers v name) :
    Refers (.list items) name
  | entry {entries : List (Value × Value)} {key v : Value} {name : Text} (hmem : (key, v) ∈ entries)
      (href : Refers v name) : Refers (.map entries) name

theorem mem_namesInItems {items : List Value} {name : Text} :
    name ∈ namesInItems items ↔ ∃ v ∈ items, name ∈ names v := by
  induction items with
  | nil => simp [namesInItems]
  | cons v vs ih => simp [namesInItems, ih]

theorem mem_namesInEntries {entries : List (Value × Value)} {name : Text} :
    name ∈ namesInEntries entries ↔ ∃ e ∈ entries, name ∈ names e.2 := by
  induction entries with
  | nil => simp [namesInEntries]
  | cons e rest ih => simp [namesInEntries, ih]

theorem Refers.mem_names {v : Value} {name : Text} (h : Refers v name) : name ∈ names v := by
  induction h with
  | text hcuts hname => rwa [Environment.names, hcuts.names]
  | item hmem _ ih => exact mem_namesInItems.2 ⟨_, hmem, ih⟩
  | entry hmem _ ih => exact mem_namesInEntries.2 ⟨_, hmem, ih⟩

/-- The names that are listed for data are those its texts refer to. -/
theorem mem_names_iff {name : Text} : ∀ {v : Value}, name ∈ names v ↔ Refers v name
  | .str t => by
    refine ⟨fun h => ?_, Refers.mem_names⟩
    obtain ⟨first, more, hcuts⟩ := exists_cuts t
    rw [Environment.names, hcuts.names] at h
    exact .text hcuts h
  | .list items => by
    refine ⟨fun h => ?_, Refers.mem_names⟩
    obtain ⟨v, hmem, hv⟩ := mem_namesInItems.1 h
    exact .item hmem (mem_names_iff.1 hv)
  | .map entries => by
    refine ⟨fun h => ?_, Refers.mem_names⟩
    obtain ⟨⟨key, v⟩, hmem, hv⟩ := mem_namesInEntries.1 h
    have hsize : sizeOf v < sizeOf entries := by
      have := List.sizeOf_lt_of_mem hmem
      simp only [Prod.mk.sizeOf_spec] at this
      omega
    exact .entry hmem (mem_names_iff.1 hv)
  | .null | .bool _ | .int _ | .float _ | .bytes _ | .date _ | .moment _ | .pair _ _ | .set _ | .enclosing _ =>
    ⟨fun h => (List.not_mem_nil h).elim, Refers.mem_names⟩

/-- Pieces are filled alike where the variables of their references are alike. -/
theorem filled_congr {env env' : Environment} (first : Text) {more : List (Text × Text)}
    (h : ∀ name ∈ more.map Prod.fst, env'.lookup name = env.lookup name) :
    env'.filled first more = env.filled first more := by
  refine congrArg (first ++ ·) (List.flatMap_congr fun piece hpiece => ?_)
  simp only [replacement, h piece.1 (List.mem_map_of_mem hpiece)]

mutual

/-- Data comes out alike where the variables that its texts refer to are alike. -/
theorem expand_congr {env env' : Environment} : ∀ {v : Value},
    (∀ name, Refers v name → env'.lookup name = env.lookup name) → env'.expand v = env.expand v
  | .str t, h => by
    obtain ⟨first, more, hcuts⟩ := exists_cuts t
    rw [expand, expand, hcuts.expandText, hcuts.expandText]
    exact congrArg Value.str (filled_congr first fun name hname => h name (.text hcuts hname))
  | .list items, h => congrArg Value.list (expandItems_congr fun v hv name hname => h name (.item hv hname))
  | .map entries, h =>
    congrArg Value.map (expandEntries_congr fun e he name hname => h name (.entry he hname))
  | .null, _ | .bool _, _ | .int _, _ | .float _, _ | .bytes _, _ | .date _, _ | .moment _, _ | .pair _ _, _
  | .set _, _ | .enclosing _, _ => rfl

theorem expandItems_congr {env env' : Environment} : ∀ {items : List Value},
    (∀ v ∈ items, ∀ name, Refers v name → env'.lookup name = env.lookup name) →
      env'.expandItems items = env.expandItems items
  | [], _ => rfl
  | v :: vs, h => by
    rw [expandItems, expandItems, expand_congr (h v List.mem_cons_self),
      expandItems_congr fun w hw => h w (List.mem_cons_of_mem v hw)]

theorem expandEntries_congr {env env' : Environment} : ∀ {entries : List (Value × Value)},
    (∀ e ∈ entries, ∀ name, Refers e.2 name → env'.lookup name = env.lookup name) →
      env'.expandEntries entries = env.expandEntries entries
  | [], _ => rfl
  | e :: rest, h => by
    rw [expandEntries, expandEntries, expand_congr (h e List.mem_cons_self),
      expandEntries_congr fun d hd => h d (List.mem_cons_of_mem e hd)]

end

/--
Expanding data gives the one thing that has its lists, keys and other scalars and, at the cuts of
its texts, the values of the variables. It is the same in two environments that agree on the names
the texts refer to; a variable that they do not refer to, also one whose name stands in a key only,
changes nothing.
-/
theorem expansion_local (env : Environment) (v : Value) :
    (∀ t : Text, ∃ first more, Cuts t first more ∧
      ∀ first' more', Cuts t first' more' → first' = first ∧ more' = more) ∧
    (∀ w : Value, Expanded env v w ↔ w = env.expand v) ∧
    (∀ env' : Environment, (∀ name, Refers v name → env'.lookup name = env.lookup name) →
      env'.expand v = env.expand v) ∧
    ∀ (name : Text) (env' : Environment), ¬ Refers v name →
      (∀ other, other ≠ name → env'.lookup other = env.lookup other) → env'.expand v = env.expand v := by
  refine ⟨fun t => ?_, fun w => expanded_iff, fun env' h => expand_congr h, fun name env' hname h => ?_⟩
  · obtain ⟨first, more, hcuts⟩ := exists_cuts t
    exact ⟨first, more, hcuts, fun _ _ h => h.unique hcuts⟩
  · refine expand_congr fun other hother => h other ?_
    rintro rfl
    exact hname hother

/-- A reference in a key, and a text whose second reference is complete only once the first has its value. -/
def listed : Value := .map [(.str "$\x7bB\x7d", .list [.str "$\x7bA\x7dB\x7d", .int 3])]

/-- The key and what the value completes are left alone, so a variable of that name changes nothing. -/
theorem listed_expansion :
    expand [("A", "$\x7b")] listed = .map [(.str "$\x7bB\x7d", .list [.str "$\x7bB\x7d", .int 3])] ∧
      expand [("B", "x"), ("A", "$\x7b")] listed = expand [("A", "$\x7b")] listed := by
  have hname : ¬ Refers listed "B" := by
    rw [← mem_names_iff]
    decide +kernel
  have htext : expandText [("A", "$\x7b")] "$\x7bA\x7dB\x7d" = "$\x7bB\x7d" := by decide +kernel
  refine ⟨by simp only [listed, expand, expandEntries, expandItems, htext], ?_⟩
  refine (expansion_local [("A", "$\x7b")] listed).2.2.2 "B" _ hname fun other hother => ?_
  rw [List.lookup_cons, beq_false_of_ne hother]

end Environment

end BlockNotebook
