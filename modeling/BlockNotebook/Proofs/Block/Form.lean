import BlockNotebook.Proofs.Schema.Fits
import BlockNotebook.Code.Block
/-!
What a block that was read holds.

A block with a form has the content and the metadata of that form, and the kind
its type names shares the form. What compilers read from a block is what
`Block.metadata_field` says is there.
-/

namespace BlockNotebook

open Schema

namespace Kind

/-- A kind by the name of its arm. -/
theorem of_mem_arms {name : String} {s : Shape}
    (h : (name, s) ∈ (all.map fun k => (k.name, Block.shapeOf k)) ++ [(Block.genericArm, Block.genericShape)])
    {k : Kind} (hk : ofName? name = some k) : s = Block.shapeOf k := by
  have hname : name = k.name := Text.ofString_inj.1 (name_of_ofName? hk)
  rcases List.mem_append.1 h with hkind | hgeneric
  · obtain ⟨j, -, hj⟩ := List.mem_map.1 hkind
    cases hj
    rw [← Option.some_inj.1 ((ofName?_name j).symm.trans hk)]
  · cases List.mem_singleton.1 hgeneric
    cases k <;> exact absurd hname (by decide)

/-- The types that a form takes are those of the kinds that share it. -/
theorem mem_typesOf {k : Kind} {type : String} (h : type ∈ Block.typesOf k) :
    ∃ j, ofName? type = some j ∧ Block.title j = Block.title k := by
  obtain ⟨j, hj, rfl⟩ := List.mem_map.1 h
  exact ⟨j, ofName?_name j, eq_of_beq (List.mem_filter.1 hj).2⟩

end Kind

namespace Block

/-- The block comes from data of the shape of blocks. -/
def IsRead (b : Block) : Prop := ∃ c, Fits shape c ∧ ofChecked c = b

theorem isRead_of_read {v : Value} {b : Block} (h : Block.read v = .ok b) : b.IsRead := by
  obtain ⟨c, hc, rfl⟩ := map_eq_ok h
  exact ⟨c, check_fits shape hc, rfl⟩

/-- A block with a form has the fields of that form. -/
theorem content_of_form {b : Block} (h : b.IsRead) {k : Kind} (hk : b.form = some k) :
    ∃ fs others, b.content = .record fs others ∧ FieldsFit (fields (.choice (typesOf k)) (metadataField k)) fs := by
  obtain ⟨c, hc, rfl⟩ := h
  cases hc with
  | arm hs hfit =>
    rw [Kind.of_mem_arms hs hk] at hfit
    cases hfit with
    | record hfields => exact ⟨_, _, rfl, hfields⟩
  | @noArm _ _ name _ _ hnone =>
    have hname : name = k.name := Text.ofString_inj.1 (Kind.name_of_ofName? hk)
    refine absurd ?_ (hnone (shapeOf k))
    rw [hname]
    exact List.mem_append_left _ (List.mem_map_of_mem (Kind.mem_all k))

/-- The type of a block with a form names a kind that shares the form. -/
theorem kind_of_form {b : Block} (h : b.IsRead) {k : Kind} (hk : b.form = some k) :
    ∃ j, b.kind? = some j ∧ title j = title k := by
  obtain ⟨fs, others, hcontent, hfields⟩ := content_of_form h hk
  obtain ⟨c, hc, hfit⟩ := hfields.lookup "type" rfl
  cases hfit with
  | @choice _ type htype =>
    have htext : b.content.text? "type" = some (Text.ofString type) := by
      rw [hcontent, Checked.text?, Checked.field?, hc]
    obtain ⟨j, hj, hjk⟩ := Kind.mem_typesOf htype
    exact ⟨j, by rw [kind?, Block.type, htext]; exact hj, hjk⟩

/-- The metadata of a block with a form has the fields of that form. -/
theorem metadata_of_form {b : Block} (h : b.IsRead) {k : Kind} (hk : b.form = some k) :
    ∃ fs others, b.metadata = .record fs others ∧ FieldsFit (metadataFields k) fs := by
  obtain ⟨fs, others, hcontent, hfields⟩ := content_of_form h hk
  obtain ⟨c, hc, hfit⟩ := hfields.lookup "metadata" (f := metadataField k) rfl
  cases hfit with
  | @record _ _ _ ms mothers hms =>
    refine ⟨ms, mothers, ?_, hms⟩
    rw [metadata, hcontent, Checked.record?, Checked.field?, hc]
    rfl

/-- A field of the form is there in the metadata, and has its shape. -/
theorem metadata_field {b : Block} (h : b.IsRead) {k : Kind} (hk : b.form = some k)
    (name : String) {f : RecordField Shape} (hf : (metadataFields k).find? (·.key == name) = some f) :
    ∃ c, b.metadata.field? name = some c ∧ Fits f.shape c := by
  obtain ⟨fs, others, hmetadata, hfields⟩ := metadata_of_form h hk
  rw [hmetadata]
  exact hfields.lookup name hf

/-- The metadata holds data in a field. -/
def Stores (b : Block) (field : String) (v : Value) : Prop := b.metadata.field? field = some (.plain v)

theorem Stores.text? {b : Block} {field : String} {t : Text} (h : b.Stores field (.str t)) :
    b.metadata.text? field = some t := by
  rw [Checked.text?, h]

theorem Stores.data {b : Block} {field : String} {v : Value} (h : b.Stores field v) : b.metadata.data field = v := by
  rw [Checked.data, h]
  rfl

/-- Kinds that compile to code share their form with no other kind. -/
theorem eq_of_title {j k : Kind} (hj : j.hasCode) (h : title j = title k) : j = k := by
  have hall : ∀ j ∈ Kind.all, ∀ k ∈ Kind.all, j.hasCode → title j = title k → j = k := by decide +kernel
  exact hall j (Kind.mem_all j) k (Kind.mem_all k) hj h

/-- The form of a block whose kind compiles to code is that of the kind. -/
theorem form_eq_kind {b : Block} (h : b.IsRead) {j k : Kind} (hk : b.form = some k)
    (hj : b.kind? = some j) (hcode : j.hasCode) : k = j := by
  obtain ⟨i, hi, htitle⟩ := kind_of_form h hk
  obtain rfl : j = i := Option.some_inj.1 (hj.symm.trans hi)
  exact (eq_of_title hcode htitle).symm

end Block

end BlockNotebook
