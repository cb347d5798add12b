import BlockNotebook.Proofs.Block.Stop
import BlockNotebook.Proofs.Schema.Part
/-!
The type of a block and its form.

The type is looked at twice. When a block is read, the data of the type chooses
the form; when the block is compiled, the type that was read chooses the compiler.
`Chosen` sums up the three ways in which a block gets its form. In two of them the
form is that of the kind which the type names. In the third the type was given as
bytes, which choose no form whatever they spell (`form_fits_iff`).
-/

namespace BlockNotebook

open Schema Text

namespace Block

/-! ## Arms -/

theorem ofName?_genericArm : Kind.ofName? genericArm = none := by
  simp only [Kind.ofName?, Text.ofString_beq]
  decide +kernel

/-- The arms of blocks. -/
def arms : List (String × Shape) :=
  (Kind.all.map fun k => (k.name, shapeOf k)) ++ [(genericArm, genericShape)]

theorem shape_eq : shape = .tagged "type" genericArm arms := rfl

theorem lookup_name {k : Kind} {kinds : List Kind} (hk : k ∈ kinds) (others : List (String × Shape)) :
    ((kinds.map fun j => (j.name, shapeOf j)) ++ others).lookup k.name = some (shapeOf k) := by
  induction kinds with
  | nil => cases hk
  | cons j kinds ih =>
    rw [List.map_cons, List.cons_append, List.lookup_cons]
    by_cases hj : k.name = j.name
    · obtain rfl := Kind.name_inj hj
      rw [beq_self_eq_true]
    · rw [beq_eq_false_iff_ne.2 hj]
      exact ih ((List.mem_cons.1 hk).resolve_left fun h => hj (congrArg Kind.name h))

/-- The name of every kind leads to its shape. -/
theorem lookup_kind (k : Kind) : arms.lookup k.name = some (shapeOf k) := lookup_name (Kind.mem_all k) _

theorem name_mem_arms (k : Kind) : k.name ∈ arms.map (·.1) :=
  List.mem_map.2 ⟨(k.name, shapeOf k), List.mem_append_left _ (List.mem_map.2 ⟨k, Kind.mem_all k, rfl⟩), rfl⟩

theorem chosenArm_kind {v : Value} {k : Kind} (h : v.get? "type" = some (.str k.name)) :
    chosenArm "type" genericArm arms v = k.name := by
  rw [chosenArm, h]
  simp only [Text.ofString_beq]
  cases hfind : (arms.map (·.1)).find? fun name => k.name == name with
  | none => exact absurd (beq_self_eq_true k.name) (List.find?_eq_none.1 hfind _ (name_mem_arms k))
  | some name => exact (eq_of_beq (List.find?_some hfind)).symm

/-- Data that names no kind chooses the arm for all other types. -/
theorem chosenArm_other {v : Value} (h : ∀ k : Kind, v.get? "type" ≠ some (.str k.name)) :
    chosenArm "type" genericArm arms v = genericArm := by
  unfold chosenArm
  split
  · rename_i t ht
    cases hfind : (arms.map (·.1)).find? fun (name : String) => t == name with
    | none => rfl
    | some name =>
      have hname := List.find?_some hfind
      obtain rfl : t = name := eq_of_beq hname
      obtain ⟨arm, harm, rfl⟩ := List.mem_map.1 (List.mem_of_find?_eq_some hfind)
      rcases List.mem_append.1 harm with hkind | hgeneric
      · obtain ⟨k, -, rfl⟩ := List.mem_map.1 hkind
        exact absurd ht (h k)
      · cases List.mem_singleton.1 hgeneric
        rfl
  · rfl

/-- A block that is read has the content of the arm that its data chooses. -/
theorem content_of_read {v : Value} {b : Block} (h : read v = .ok b) {tag : String} {s : Shape}
    (htag : chosenArm "type" genericArm arms v = tag) (hs : arms.lookup tag = some s) :
    b.form = Kind.ofName? tag ∧ check s v = .ok b.content := by
  obtain ⟨c, hc, rfl⟩ := map_eq_ok h
  rw [shape_eq, check, htag] at hc
  obtain ⟨d, hd, rfl⟩ := map_eq_ok hc
  rw [checkArm_of_lookup hs] at hd
  exact ⟨rfl, under_eq_ok hd⟩

/-! ## The type that is read -/

/-- The type of a block is what its shape makes of the data of the type. -/
theorem type_of_check {title : String} {type : Shape} {metadata : RecordField Shape} {v : Value} {c : Checked}
    (h : check (.record title true (fields type metadata)) v = .ok c) :
    ∃ x d, v.get? "type" = some x ∧ check type x = .ok d ∧ c.field? "type" = some d :=
  given_of_record h (f := required "type" type) rfl rfl rfl

theorem kind?_of_field {b : Block} {t : Text} (h : b.content.field? "type" = some (.plain (.str t))) :
    b.kind? = Kind.ofName? t := by
  rw [kind?, type, Checked.text?, h]
  rfl

/-! ## How a block gets its form -/

/-- The metadata is an open mapping. -/
def IsOpen (b : Block) : Prop := ∃ entries, b.content.field? "metadata" = some (.plain (.map entries))

/-- How a block gets its form from the data of its type: from the name of a kind, from a text that names no kind, or
from bytes, which are read as a text only after the form is chosen. -/
inductive Chosen (v : Value) (b : Block) : Prop
  | kind {k : Kind} (hv : v.get? "type" = some (.str k.name)) (hform : b.form = some k) (hkind : b.kind? = some k)
  | other {t : Text} (hv : v.get? "type" = some (.str t)) (hform : b.form = none) (hopen : b.IsOpen)
      (hkind : b.kind? = none)
  | bytes {bs : List UInt8} {cs : List Char} (hv : v.get? "type" = some (.bytes bs)) (hcs : Utf8.decode bs = .ok cs)
      (hform : b.form = none) (hopen : b.IsOpen) (hkind : b.kind? = Kind.ofName? (Text.ofChars cs))

theorem isOpen_of_generic {b : Block} {v : Value} (h : check genericShape v = .ok b.content) : b.IsOpen := by
  unfold IsOpen
  generalize b.content = c at h ⊢
  cases check_fits genericShape h with
  | record hfields =>
    obtain ⟨d, hd, hmetadata⟩ := hfields.lookup "metadata" rfl
    cases hmetadata with
    | openMapping entries => exact ⟨entries, hd⟩

theorem chosen_of_read {v : Value} {b : Block} (h : read v = .ok b) : Chosen v b := by
  by_cases hnamed : ∃ k : Kind, v.get? "type" = some (.str k.name)
  · obtain ⟨k, hv⟩ := hnamed
    obtain ⟨hform, hcontent⟩ := content_of_read h (chosenArm_kind hv) (lookup_kind k)
    obtain ⟨x, d, hx, hd, htype⟩ := type_of_check hcontent
    obtain rfl : .str k.name = x := Option.some_inj.1 (hv.symm.trans hx)
    have hd : d = .plain (.str k.name) := eq_plain_of_keeps (.choice (typesOf k)) rfl (.str _) hd
    rw [hd] at htype
    exact .kind hv (hform.trans (Kind.ofName?_name k)) ((kind?_of_field htype).trans (Kind.ofName?_name k))
  · have hother : ∀ k : Kind, v.get? "type" ≠ some (.str k.name) := fun k hk => hnamed ⟨k, hk⟩
    obtain ⟨hform, hcontent⟩ := content_of_read h (chosenArm_other hother) (s := genericShape) rfl
    have hform := hform.trans ofName?_genericArm
    have hopen := isOpen_of_generic hcontent
    obtain ⟨x, d, hx, hd, htype⟩ := type_of_check hcontent
    rw [check, scalar] at hd
    cases x with
    | str t =>
      cases hd
      refine .other hx hform hopen ((kind?_of_field htype).trans ?_)
      cases hk : Kind.ofName? t with
      | none => rfl
      | some k => exact absurd (Kind.name_of_ofName? hk ▸ hx) (hother k)
    | bytes bs =>
      rw [readText] at hd
      cases hcs : Utf8.decode bs with
      | error f => rw [hcs] at hd; cases hd
      | ok cs =>
        rw [hcs] at hd
        cases hd
        exact .bytes hx hcs hform hopen (kind?_of_field htype)
    | _ => cases hd

/-! ## Forms and types -/

/-- The name of the form for blocks of a type. -/
def titleFor (type : Text) : String :=
  match Kind.ofName? type with
  | some k => title k
  | none => "GenericBlock"

/-- The metadata is what the compiler of the type reads: it has the fields of the kind that the type names, or is an
open mapping if it names none. -/
def HasOwnMetadata (b : Block) : Prop :=
  match b.kind? with
  | some k => ∃ fs others, b.metadata = .record fs others ∧ FieldsFit (metadataFields k) fs
  | none => b.IsOpen

/-- The type is given as bytes that spell the name of a kind. -/
def HidesKind (v : Value) (k : Kind) : Prop :=
  ∃ bs, v.get? "type" = some (.bytes bs) ∧ Utf8.decode bs = .ok k.name.toList

theorem title_ne_generic (k : Kind) : title k ≠ "GenericBlock" := by cases k <;> decide

section Read

variable {v : Value} {b : Block}

theorem isOpen_of_formless (h : read v = .ok b) (hform : b.form = none) : b.IsOpen := by
  cases chosen_of_read h with
  | kind _ hk _ => cases hk.symm.trans hform
  | other _ _ hopen _ | bytes _ _ _ hopen _ => exact hopen

/-- A form is that of the kind which the type names. -/
theorem kind_of_chosen (h : read v = .ok b) {k : Kind} (hform : b.form = some k) : b.kind? = some k := by
  cases chosen_of_read h with
  | kind _ hk hkind => rw [hkind, ← hk, hform]
  | other _ hnone _ _ | bytes _ _ hnone _ _ => cases hnone.symm.trans hform

/-- The blocks whose type names a kind that they do not have the form of are those with such bytes. -/
theorem hidesKind_iff (h : read v = .ok b) (k : Kind) : HidesKind v k ↔ b.form = none ∧ b.kind? = some k := by
  cases chosen_of_read h with
  | kind hv hform _ =>
    constructor
    · rintro ⟨bs, hbs, -⟩
      cases hv.symm.trans hbs
    · rintro ⟨hnone, -⟩
      cases hform.symm.trans hnone
  | other hv _ _ hkind =>
    constructor
    · rintro ⟨bs, hbs, -⟩
      cases hv.symm.trans hbs
    · rintro ⟨-, hk⟩
      cases hkind.symm.trans hk
  | @bytes bs cs hv hcs hform _ hkind =>
    rw [hkind]
    constructor
    · rintro ⟨_, hbs, hname⟩
      cases hv.symm.trans hbs
      cases hcs.symm.trans hname
      exact ⟨hform, Kind.ofName?_name k⟩
    · rintro ⟨-, hk⟩
      have hname : cs = k.name.toList :=
        calc cs
          _ = characters (ofChars cs) := (characters_ofChars cs).symm
          _ = characters (ofString k.name) := congrArg characters (Kind.name_of_ofName? hk)
          _ = k.name.toList := characters_ofChars _
      exact ⟨bs, hv, hname ▸ hcs⟩

/-- A block that has the form of the kind its type names, or neither, is what its compiler expects. -/
theorem fits_of_form_eq (h : read v = .ok b) (heq : b.form = b.kind?) :
    b.formTitle = titleFor b.type ∧ b.HasOwnMetadata := by
  refine ⟨by rw [formTitle, heq]; rfl, ?_⟩
  unfold HasOwnMetadata
  cases hkind : b.kind? with
  | none => exact isOpen_of_formless h (heq.trans hkind)
  | some k => exact metadata_of_form (isRead_of_read h) (heq.trans hkind)

/-- The form of a block is the one for the type that it has, with the metadata that compilers of the type read, unless
the type was given as bytes that spell the name of a kind. Then the type names the kind, and the block has no form:
its metadata is an open mapping, and compiling it ends a run if the compiler of the kind reads a field. -/
theorem form_fits_iff (h : read v = .ok b) :
    (b.formTitle = titleFor b.type ∧ b.HasOwnMetadata ↔ ∀ k, ¬ HidesKind v k) ∧
      ∀ k, HidesKind v k → b.kind? = some k ∧ b.formTitle = "GenericBlock" ∧ b.IsOpen ∧
        ((Code.firstField? k).isSome → ∀ context, IsFatal (b.compile context).result) := by
  constructor
  · constructor
    · rintro ⟨htitle, -⟩ k hides
      obtain ⟨hform, hkind⟩ := (hidesKind_iff h k).1 hides
      have hgeneric : b.formTitle = "GenericBlock" := by rw [formTitle, hform]
      have hkindtitle : titleFor b.type = title k := by
        show (match b.kind? with | some k => title k | none => "GenericBlock") = title k
        rw [hkind]
      exact title_ne_generic k (hkindtitle.symm.trans (htitle.symm.trans hgeneric))
    · intro hnone
      refine fits_of_form_eq h ?_
      cases hform : b.form with
      | some k => exact (kind_of_chosen h hform).symm
      | none =>
        cases hkind : b.kind? with
        | none => rfl
        | some k => exact absurd ((hidesKind_iff h k).2 ⟨hform, hkind⟩) (hnone k)
  · intro k hides
    obtain ⟨hform, hkind⟩ := (hidesKind_iff h k).1 hides
    refine ⟨hkind, by rw [formTitle, hform], isOpen_of_formless h hform, fun hfield context => ?_⟩
    obtain ⟨field, hfield⟩ := Option.isSome_iff_exists.1 hfield
    exact (compile_isFatal (isRead_of_read h) context).2 (.formless hform hkind hfield)

end Read

/-- A block of code whose type is given as bytes. -/
def spelledCode : Value :=
  .map [(.str "id", .str "b"), (.str "type", .bytes [99, 111, 100, 101]), (.str "sortingKey", .str "a0")]

/-- It is read as a block without a form, and no run gets past it. -/
theorem spelledCode_form : ∃ b, read spelledCode = .ok b ∧ HidesKind spelledCode .code ∧
    ¬ (b.formTitle = titleFor b.type ∧ b.HasOwnMetadata) ∧ b.kind? = some .code ∧ b.formTitle = "GenericBlock" ∧
    ∀ context, IsFatal (b.compile context).result := by
  have hides : HidesKind spelledCode .code := ⟨_, rfl, rfl⟩
  have hread : (read spelledCode).isOk := by decide +kernel
  cases h : read spelledCode with
  | error is => rw [h] at hread; cases hread
  | ok b =>
    obtain ⟨hfits, hhidden⟩ := form_fits_iff h
    obtain ⟨hkind, htitle, -, hfatal⟩ := hhidden .code hides
    exact ⟨b, rfl, hides, fun hb => hfits.1 hb .code hides, hkind, htitle, hfatal rfl⟩

end Block

end BlockNotebook
