import BlockNotebook.Proofs.Schema.Route
import BlockNotebook.Document.Basic
/-!
The paths of findings.

Arms stand in the paths of a check, and not in a document. They are dropped
after the items of the lists that `Block.armNames` knows. A document may give one
of these lists by another name, which `armNames` does not know: then, and only
then, the name of an arm is left in the path of a finding.
-/

namespace BlockNotebook

open Schema

namespace Schema

/-! ## Arms that are dropped -/

/-- The name of the arm is dropped after an item of the list. -/
def drops (list arm : String) : Bool := Path.isArm (some (.key list)) (some (.index 0)) (.key arm)

/-- Names are dropped after the items of the list. -/
def isArmed (list : String) : Bool := Block.armNames.any fun (owner, _) => owner == list

/-- The other name of a list of ranges. -/
def namedRanges : String := "formatted_ranges"

/-- The names of the arms of ranges. -/
def rangeArms : List String := ["marks", "link"]

/-- The names of the arms of the items of a list. -/
def Shape.itemArms? : Shape → Option (List String)
  | .listOf s => s.arms?
  | .nullable s => s.itemArms?
  | _ => none

/-- What is at the key drops the arms of its items, or is a list of ranges by the other name. -/
def isKnownList (key : String) : Option (List String) → Bool
  | none => !isArmed key && key != namedRanges
  | some arms => if key == namedRanges then !isArmed key && arms.all rangeArms.contains else arms.all (drops key)

mutual

/-- Tagged shapes are those of the items of lists, and each of these is a known list. -/
def Shape.armsKnown : Shape → Bool
  | .nullable s => s.armsKnown
  | .listOf s => s.itemArms?.isNone && s.armsKnown
  | .record _ _ fields => fieldsKnown fields
  | .tagged _ _ arms => armsKnownIn arms
  | _ => true

def fieldsKnown : List (RecordField Shape) → Bool
  | [] => true
  | ⟨name, key, shape, _⟩ :: rest =>
    shape.arms?.isNone && isKnownList name shape.itemArms? && isKnownList key shape.itemArms? && shape.armsKnown &&
      fieldsKnown rest

def armsKnownIn : List (String × Shape) → Bool
  | [] => true
  | (tag, shape) :: rest =>
    !isArmed tag && shape.arms?.isNone && shape.itemArms?.isNone && shape.armsKnown && armsKnownIn rest

end

/-! ## Shown places -/

/-- The path that is shown for a place: an arm stands after a range of a list that goes by its other name. -/
inductive ShownAs : Path → Path → Prop
  | root : ShownAs [] []
  | range {i : Int} {arm : String} {place shown : Path} (harm : arm ∈ rangeArms) (h : ShownAs place shown) :
      ShownAs (.key namedRanges :: .index i :: place) (.key namedRanges :: .index i :: .key arm :: shown)
  | other {s : Segment} {place shown : Path}
      (hs : ∀ i rest, s :: place ≠ .key namedRanges :: .index i :: rest) (h : ShownAs place shown) :
      ShownAs (s :: place) (s :: shown)

/-- The path goes through an item of a list of ranges that goes by its other name. -/
def PassesNamedRanges (p : Path) : Prop := ∃ before i after, p = before ++ .key namedRanges :: .index i :: after

theorem ShownAs.cons {s : Segment} (hs : s ≠ .key namedRanges) {place shown : Path} (h : ShownAs place shown) :
    ShownAs (s :: place) (s :: shown) :=
  .other (fun _ _ he => hs (List.cons.inj he).1) h

theorem ShownAs.length_le {place shown : Path} (h : ShownAs place shown) : place.length ≤ shown.length := by
  induction h with
  | root => exact Nat.le_refl _
  | range _ _ ih => simp only [List.length_cons]; omega
  | other _ _ ih => exact Nat.succ_le_succ ih

theorem ShownAs.of_index {place shown : Path} {i : Int} (h : ShownAs place (.index i :: shown)) :
    ∃ rest, place = .index i :: rest := by
  cases h with
  | other _ _ => exact ⟨_, rfl⟩

theorem passesNamedRanges_cons {s : Segment} {p : Path} :
    PassesNamedRanges (s :: p) ↔
      (∃ i after, s :: p = .key namedRanges :: .index i :: after) ∨ PassesNamedRanges p := by
  constructor
  · rintro ⟨before, i, after, h⟩
    cases before with
    | nil => exact .inl ⟨i, after, h⟩
    | cons _ before => exact .inr ⟨before, i, after, (List.cons.inj h).2⟩
  · rintro (⟨i, after, h⟩ | ⟨before, i, after, h⟩)
    · exact ⟨[], i, after, h⟩
    · exact ⟨s :: before, i, after, congrArg (s :: ·) h⟩

/-- A place is shown as it is, unless its path goes through a range of a list that goes by its other name. -/
theorem ShownAs.eq_iff {place shown : Path} (h : ShownAs place shown) :
    shown = place ↔ ¬ PassesNamedRanges shown := by
  induction h with
  | root => simp [PassesNamedRanges]
  | @range i arm place shown _ h _ =>
    have hpasses : PassesNamedRanges (.key namedRanges :: .index i :: .key arm :: shown) := ⟨[], i, _, rfl⟩
    refine iff_of_false (fun he => ?_) (fun hn => hn hpasses)
    have hlength := congrArg List.length he
    have hle := h.length_le
    simp only [List.length_cons] at hlength
    omega
  | @other s place shown hs h ih =>
    have hhead : ¬ ∃ i after, s :: shown = .key namedRanges :: .index i :: after := by
      rintro ⟨i, after, he⟩
      cases he
      obtain ⟨rest, rfl⟩ := h.of_index
      exact hs i rest rfl
    rw [passesNamedRanges_cons, or_iff_right hhead, ← ih]
    simp

/-- Where a shown path goes through such a range, the place does as well, and the path names an arm there. -/
theorem ShownAs.exists_arm {place shown : Path} (h : ShownAs place shown) (hp : PassesNamedRanges shown) :
    ∃ outer before i arm rest after, arm ∈ rangeArms ∧ ShownAs rest after ∧
      place = outer ++ .key namedRanges :: .index i :: rest ∧
      shown = before ++ .key namedRanges :: .index i :: .key arm :: after := by
  induction h with
  | root => simp [PassesNamedRanges] at hp
  | @range i arm place shown harm h _ => exact ⟨[], [], i, arm, place, shown, harm, h, rfl, rfl⟩
  | @other s place shown hs h ih =>
    rcases passesNamedRanges_cons.1 hp with ⟨i, after, he⟩ | hp
    · cases he
      obtain ⟨rest, rfl⟩ := h.of_index
      exact absurd rfl (hs i rest)
    · obtain ⟨outer, before, i, arm, rest, after, harm, hrest, rfl, rfl⟩ := ih hp
      exact ⟨s :: outer, s :: before, i, arm, rest, after, harm, hrest, rfl, rfl⟩

/-- A range on the path has a key with the name of the arm that stands after it. -/
def MeetsArmKey (v : Value) (p : Path) : Prop :=
  ∃ before i arm after x, arm ∈ rangeArms ∧ p = before ++ .key namedRanges :: .index i :: .key arm :: after ∧
    v.at? (before ++ [.key namedRanges, .index i, .key arm]) = some x

/-- A path that names an arm leads to no place, but by a key that happens to have the name of the arm. -/
theorem ShownAs.meetsArmKey {v : Value} {misses : Bool} {place shown : Path} (h : ShownAs place shown)
    (hp : PassesNamedRanges shown) (hplace : v.Locates misses place) (hshown : v.Locates misses shown) :
    MeetsArmKey v shown := by
  obtain ⟨outer, before, i, arm, rest, after, harm, hrest, rfl, rfl⟩ := h.exists_arm hp
  have hsplit : before ++ .key namedRanges :: .index i :: .key arm :: after =
      before ++ [.key namedRanges, .index i, .key arm] ++ after := by simp
  have hreached : misses = false ∨ after ≠ [] := by
    cases hrest with
    | root =>
      cases misses with
      | false => exact .inl rfl
      | true =>
        obtain ⟨parent, name, he⟩ := hplace.ends_in_key
        have hlast := congrArg List.getLast? he
        simp at hlast
    | _ => exact .inr nofun
  obtain ⟨x, hx⟩ := (hsplit ▸ hshown).of_append hreached
  exact ⟨before, i, arm, after, x, harm, rfl, hx⟩

/-! ## Where arms are dropped -/

/-- No segment is dropped next, nor after one more index. -/
def IsCalm (list index : Option Segment) : Prop :=
  (∀ s, Path.isArm list index s = false) ∧ ∀ i s, Path.isArm index (some (.index i)) s = false

/-- What is left of the path is what is shown for the place. -/
def Leaves (raw place : Path) : Prop :=
  ∀ list index, IsCalm list index → ShownAs place (Path.withoutArmsAfter list index raw)

theorem isArm_of_index (list index : Option Segment) (i : Int) : Path.isArm list index (.index i) = false := by
  unfold Path.isArm
  split <;> simp_all

theorem isArm_index (list : Option Segment) (i : Int) (s : Segment) :
    Path.isArm list (some (.index i)) s = Path.isArm list (some (.index 0)) s := by
  cases list with
  | none => rfl
  | some l => cases l <;> cases s <;> rfl

theorem isArm_of_not_isArmed {list : String} (h : isArmed list = false) (i : Int) (s : Segment) :
    Path.isArm (some (.key list)) (some (.index i)) s = false := by
  cases s with
  | key name =>
    simp only [isArmed, List.any_eq_false, beq_iff_eq] at h
    simp only [Path.isArm, List.any_eq_false, Bool.and_eq_true, Text.ofString_beq, beq_iff_eq]
    rintro e he ⟨howner, -⟩
    exact h e he howner.symm
  | index _ => rfl
  | flag _ => rfl

theorem isArm_of_drops {list arm : String} (h : drops list arm) (i : Int) :
    Path.isArm (some (.key list)) (some (.index i)) (.key arm) := by
  rw [isArm_index]
  exact h

theorem drops_of_mem {list arm : String} {arms : List String} (hlist : (list, arms) ∈ Block.armNames)
    (harm : arm ∈ arms) : drops list arm := by
  simp only [drops, Path.isArm, List.any_eq_true, Bool.and_eq_true, Text.ofString_beq, beq_iff_eq]
  exact ⟨_, hlist, rfl, arm, harm, rfl⟩

theorem isArm_after_key (list : Option Segment) (name : Text) (s : Segment) :
    Path.isArm list (some (.key name)) s = false := by
  cases list with
  | none => rfl
  | some l => cases l <;> rfl

theorem isCalm_start : IsCalm none none := ⟨fun _ => rfl, fun _ _ => rfl⟩

theorem withoutArmsAfter_index (list index : Option Segment) (i : Int) (rest : Path) :
    Path.withoutArmsAfter list index (.index i :: rest) =
      .index i :: Path.withoutArmsAfter index (some (.index i)) rest := by
  rw [Path.withoutArmsAfter, isArm_of_index]
  rfl

theorem IsCalm.withoutArmsAfter_key {list index : Option Segment} (h : IsCalm list index) (name : Text)
    (rest : Path) : Path.withoutArmsAfter list index (.key name :: rest) =
      .key name :: Path.withoutArmsAfter index (some (.key name)) rest := by
  rw [Path.withoutArmsAfter, h.1]
  rfl

theorem IsCalm.index {list index : Option Segment} (h : IsCalm list index) (i : Int) :
    IsCalm index (some (.index i)) :=
  ⟨h.2 i, fun _ _ => by cases index <;> rfl⟩

theorem isCalm_key (index : Option Segment) {key : String} (hkey : isArmed key = false) :
    IsCalm index (some (.key key)) :=
  ⟨isArm_after_key index _, isArm_of_not_isArmed hkey⟩

/-! ## What is left of a path -/

/-- The path goes on with the name of an arm, and what is left after it is what is shown for the place. -/
def LeavesAfterArm (arms : List String) (raw place : Path) : Prop :=
  ∃ tag ∈ arms, ∃ rest, raw = .key tag :: rest ∧ isArmed tag = false ∧ Leaves rest place

/-- The path ends, or goes on with an index and the name of an arm. -/
def LeavesItem (arms : List String) (raw place : Path) : Prop :=
  (raw = [] ∧ place = []) ∨
    ∃ i rawRest rest, raw = .index i :: rawRest ∧ place = .index i :: rest ∧ LeavesAfterArm arms rawRest rest

/-- What is left of a path through data of the shape. -/
def LeavesIn (s : Shape) (raw place : Path) : Prop :=
  match s.arms?, s.itemArms? with
  | some arms, _ => LeavesAfterArm arms raw place
  | none, some arms => LeavesItem arms raw place
  | none, none => Leaves raw place

theorem Leaves.index {raw place : Path} (h : Leaves raw place) (i : Int) :
    Leaves (.index i :: raw) (.index i :: place) := by
  intro list index hcalm
  rw [withoutArmsAfter_index]
  exact (h _ _ (hcalm.index i)).cons (by simp)

theorem Leaves.key {raw place : Path} (h : Leaves raw place) {key : String} (hkey : isKnownList key none) :
    Leaves (.key key :: raw) (.key key :: place) := by
  simp only [isKnownList, Bool.and_eq_true, Bool.not_eq_true', bne_iff_ne, ne_eq] at hkey
  intro list index hcalm
  rw [hcalm.withoutArmsAfter_key]
  exact (h _ _ (isCalm_key index hkey.1)).cons (by simpa [Text.ofString_inj] using hkey.2)

theorem LeavesItem.key {arms : List String} {raw place : Path} (h : LeavesItem arms raw place) {key : String}
    (hkey : isKnownList key (some arms)) : Leaves (.key key :: raw) (.key key :: place) := by
  intro list index hcalm
  rw [hcalm.withoutArmsAfter_key]
  rcases h with ⟨rfl, rfl⟩ | ⟨i, raw, place, rfl, rfl, tag, htag, rest, rfl, harmed, hrest⟩
  · exact .other (by simp) .root
  have hshown := hrest _ _ (isCalm_key (some (.index i)) harmed)
  rw [withoutArmsAfter_index, Path.withoutArmsAfter]
  -- Only the other name of a list of ranges is a list with arms which are not dropped.
  by_cases hnamed : key = namedRanges
  · subst hnamed
    simp only [isKnownList, beq_self_eq_true, ↓reduceIte, Bool.and_eq_true, Bool.not_eq_true', List.all_eq_true,
      List.contains_iff_mem] at hkey
    rw [isArm_of_not_isArmed hkey.1]
    exact .range (hkey.2 tag htag) hshown
  · simp only [isKnownList, beq_iff_eq, hnamed, ↓reduceIte, List.all_eq_true] at hkey
    rw [isArm_of_drops (hkey tag htag)]
    exact (hshown.cons (by simp)).cons (by simpa [Text.ofString_inj] using hnamed)

/-- What holds of a field of a record whose lists are known. -/
theorem fieldsKnown_mem {fields : List (RecordField Shape)} (h : fieldsKnown fields) {f : RecordField Shape}
    (hf : f ∈ fields) : f.shape.arms? = none ∧ isKnownList f.name f.shape.itemArms? ∧
      isKnownList f.key f.shape.itemArms? ∧ f.shape.armsKnown := by
  induction fields with
  | nil => cases hf
  | cons g rest ih =>
    simp only [fieldsKnown, Bool.and_eq_true, Option.isNone_iff_eq_none] at h
    obtain ⟨⟨⟨⟨harms, hname⟩, hkey⟩, hshape⟩, hrest⟩ := h
    rcases List.mem_cons.1 hf with rfl | hf
    · exact ⟨harms, hname, hkey, hshape⟩
    · exact ih hrest hf

theorem armsKnownIn_mem {arms : List (String × Shape)} (h : armsKnownIn arms) {tag : String} {s : Shape}
    (hs : (tag, s) ∈ arms) : isArmed tag = false ∧ s.arms? = none ∧ s.itemArms? = none ∧ s.armsKnown := by
  induction arms with
  | nil => cases hs
  | cons a rest ih =>
    simp only [armsKnownIn, Bool.and_eq_true, Bool.not_eq_true', Option.isNone_iff_eq_none] at h
    obtain ⟨⟨⟨⟨htag, harms⟩, hitems⟩, hshape⟩, hrest⟩ := h
    rcases List.mem_cons.1 hs with rfl | hs
    · exact ⟨htag, harms, hitems, hshape⟩
    · exact ih hrest hs

/-- Along a route, what is left of the path that the check gives is what is shown for the place. -/
theorem Route.leaves {s : Shape} {v : Value} {misses : Bool} {raw place : Path} (h : Route s v misses raw place) :
    s.armsKnown → LeavesIn s raw place := by
  induction h with
  | @here s _ harms =>
    intro _
    unfold LeavesIn
    rw [harms]
    cases s.itemArms? with
    | none => exact fun _ _ _ => .root
    | some _ => exact .inl ⟨rfl, rfl⟩
  | nullable _ ih => exact ih
  | @item s _ i _ _ raw place _ _ ih =>
    -- The arms of the items are for the key of the list to judge; an item without arms keeps its path.
    intro hs
    simp only [Shape.armsKnown, Bool.and_eq_true, Option.isNone_iff_eq_none] at hs
    have hitem := ih hs.2
    unfold LeavesIn at hitem ⊢
    rw [hs.1] at hitem
    simp only [Shape.arms?, Shape.itemArms?]
    cases harms : s.arms? with
    | none =>
      rw [harms] at hitem
      exact hitem.index i
    | some arms =>
      rw [harms] at hitem
      exact .inr ⟨i, raw, place, rfl, rfl, hitem⟩
  | @field _ _ fields f used _ _ _ raw place hf hused _ _ ih =>
    intro hs
    obtain ⟨harms, hname, hkey, hshape⟩ := fieldsKnown_mem hs hf
    have hknown : isKnownList used f.shape.itemArms? := by rcases hused with rfl | rfl <;> assumption
    have hfield := ih hshape
    unfold LeavesIn at hfield
    rw [harms] at hfield
    show Leaves _ _
    cases hitems : f.shape.itemArms? with
    | none =>
      rw [hitems] at hfield hknown
      exact hfield.key hknown
    | some arms =>
      rw [hitems] at hfield hknown
      exact hfield.key hknown
  | missing _ _ =>
    intro _ list index hcalm
    rw [hcalm.withoutArmsAfter_key]
    exact .other (by simp) .root
  | @arm _ _ tag arms s _ _ raw place hs _ ih =>
    intro hknown
    obtain ⟨htag, harms, hitems, hshape⟩ := armsKnownIn_mem hknown hs
    have harm := ih hshape
    unfold LeavesIn at harm
    rw [harms, hitems] at harm
    exact ⟨tag, List.mem_map.2 ⟨_, hs, rfl⟩, raw, rfl, htag, harm⟩

end Schema

namespace Document

/-- The arms of the shape of blocks are dropped after the blocks of a list. -/
theorem drops_blockArm {arm : String} (h : arm ∈ ((Kind.all.map fun k => (k.name, Block.shapeOf k)) ++
    [(Block.genericArm, Block.genericShape)]).map (·.1)) : drops "blocks" arm := by
  have harms : ((Kind.all.map fun k => (k.name, Block.shapeOf k)) ++
      [(Block.genericArm, Block.genericShape)]).map (·.1) = Kind.all.map Kind.name ++ [Block.genericArm] := by
    simp [Function.comp_def]
  rw [harms] at h
  exact drops_of_mem (.head _) h

theorem blocks_isKnownList : isKnownList "blocks" (Shape.listOf Block.shape).itemArms? := by
  have hother : ("blocks" == namedRanges) = false := rfl
  simp only [Shape.itemArms?, Block.shape, Shape.arms?, isKnownList, hother, Bool.false_eq_true, if_false,
    List.all_eq_true]
  exact fun _ => drops_blockArm

theorem blockShape_armsKnown : Block.shape.armsKnown := by decide +kernel

theorem notebookShape_armsKnown : Notebook.shape.armsKnown := by
  simp only [Notebook.shape, Shape.armsKnown, fieldsKnown, Block.required]
  rw [blocks_isKnownList, blockShape_armsKnown]
  decide +kernel

theorem shape_armsKnown : shape.armsKnown := by
  simp only [shape, projectShape, Shape.armsKnown, fieldsKnown, Block.required]
  rw [notebookShape_armsKnown]
  decide +kernel

theorem shape_defaultsPass : shape.defaultsPass := by decide +kernel

theorem code_beq_missing (c : Cause) : (Text.ofString c.code == "missing") = (c == .missing) := by
  rw [Text.ofString_beq]
  cases c <;> rfl

/-- What is wrong with plain data is each at a place of it, or is the lack of a key at one. The path of a finding is
the path of its place, unless it goes through a range of a list that goes by its other name: then it has the name of
an arm left in, and leads to no place but by a key that happens to have this name. -/
theorem finding_path {v : Value} (hv : v.IsPlain) {fs : List Finding} (h : read v = .error fs) {f : Finding}
    (hf : f ∈ fs) :
    ∃ place, v.Locates (f.code == "missing") place ∧ ShownAs place f.path ∧
      (f.path = place ↔ ¬ PassesNamedRanges f.path) ∧
      (PassesNamedRanges f.path → v.Locates (f.code == "missing") f.path → MeetsArmKey v f.path) := by
  unfold read at h
  split at h
  · cases h
  · rename_i is his
    cases h
    obtain ⟨i, hi, rfl⟩ := List.mem_map.1 hf
    obtain ⟨place, hroute⟩ := check_route shape shape_defaultsPass hv his i hi
    have hcode : ((Finding.ofIssue i).code == "missing") = (i.cause == .missing) := code_beq_missing i.cause
    rw [hcode]
    have hplace : v.Locates (i.cause == .missing) place := hroute.locates
    have hleaves : Leaves i.path place := hroute.leaves shape_armsKnown
    have hshown : ShownAs place (Finding.ofIssue i).path := hleaves none none isCalm_start
    exact ⟨place, hplace, hshown, hshown.eq_iff, fun hp hpath => hshown.meetsArmKey hp hplace hpath⟩

/-- A document with a text whose list of ranges goes by its other name, and has a number for a range. -/
def numberForRange : Value := .map [
  (.str "version", .str "1"), (.str "metadata", .map [(.str "createdAt", .str "2024")]),
  (.str "project", .map [(.str "id", .str "p"), (.str "name", .str "P"), (.str "notebooks", .list [.map [
    (.str "id", .str "n"), (.str "name", .str "N"), (.str "blocks", .list [.map [
      (.str "id", .str "b"), (.str "type", .str "text-cell-p"), (.str "sortingKey", .str "0"),
      (.str "metadata", .map [(.str "formatted_ranges", .list [.int 5])])]])]])])]

theorem numberForRange_isPlain : numberForRange.IsPlain := by
  simp [numberForRange, Value.IsPlain.str, Value.IsPlain.int]

/-- The place of the finding is the range, and the path goes on to an arm. -/
theorem numberForRange_finding_path :
    ∃ f, read numberForRange = .error [f] ∧ ¬ numberForRange.Locates (f.code == "missing") f.path ∧
      ∃ place, numberForRange.Locates (f.code == "missing") place ∧ ShownAs place f.path ∧
        (f.path = place ↔ ¬ PassesNamedRanges f.path) ∧
        (PassesNamedRanges f.path → numberForRange.Locates (f.code == "missing") f.path →
          MeetsArmKey numberForRange f.path) := by
  have h : (match read numberForRange with
      | .error fs => fs.length == 1 && fs.all fun f => (numberForRange.at? f.path).isNone && !f.code == "missing"
      | .ok _ => false) = true := by decide +kernel
  cases hread : read numberForRange with
  | ok d => rw [hread] at h; cases h
  | error fs =>
    rw [hread] at h
    obtain ⟨hlength, hall⟩ := Bool.and_eq_true_iff.1 h
    obtain ⟨f, rfl⟩ := List.length_eq_one_iff.1 (eq_of_beq hlength)
    simp only [List.all_cons, List.all_nil, Bool.and_true, Bool.and_eq_true, Option.isNone_iff_eq_none,
      Bool.not_eq_true'] at hall
    refine ⟨f, rfl, ?_, finding_path numberForRange_isPlain hread (List.mem_singleton_self f)⟩
    rw [hall.2]
    rintro ⟨hreached⟩
    cases hall.1.symm.trans hreached

end Document

end BlockNotebook
