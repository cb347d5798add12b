import BlockNotebook.Markdown.Block
import BlockNotebook.Proofs.Block.Dispatch
import BlockNotebook.Proofs.Text.Trim
/-!
Marks put on a cell of prose and taken off again.

A heading, an item of a list, a box or a callout is written as its marks, a space and its text. Taking the marks
off looks for marks of the same sort, of any number of hashes or state of the box, and takes one run of them with
the blanks behind it. What is left is the text without the blanks around it, also if the text begins with what
could be marks (`plainText_markdown`).
-/

namespace BlockNotebook

open Schema Text

/-! ## A block with another text -/

namespace Schema.Checked

/-- The record with data in the place of what a field holds. -/
def setField (c : Checked) (name : String) (d : Checked) : Checked :=
  match c with
  | .record fields others => .record (fields.map fun f => if f.1 == name then (f.1, d) else f) others
  | c => c

theorem lookup_map_field (fields : List (String × Checked)) (name other : String) (d : Checked) :
    (fields.map fun f => if f.1 == name then (f.1, d) else f).lookup other =
      if other = name then (fields.lookup other).map fun _ => d else fields.lookup other := by
  induction fields with
  | nil => simp
  | cons f rest ih =>
    rw [List.map_cons, List.lookup_cons, List.lookup_cons, ih]
    by_cases hother : other = f.1
    · subst hother
      by_cases hf : f.1 = name <;> simp [hf]
    · have hne : (other == f.1) = false := beq_eq_false_iff_ne.2 hother
      by_cases hf : f.1 = name
      · subst hf
        simp [hne]
      · simp [hf, hne]

theorem field?_setField (c : Checked) (name other : String) (d : Checked) : (c.setField name d).field? other =
    if other = name then (c.field? other).map fun _ => d else c.field? other := by
  cases c with
  | record fields others => exact lookup_map_field fields name other d
  | _ => simp [setField, field?]

end Schema.Checked

namespace Block

/-- The same block with another text. -/
def withText (b : Block) (t : Text) : Block := { b with content := b.content.setField "content" (.plain (.str t)) }

theorem kind?_withText (b : Block) (t : Text) : (b.withText t).kind? = b.kind? := by
  rw [kind?, type, Checked.text?, withText, Checked.field?_setField, if_neg (by decide)]
  rfl

/-- A block that was read has a place for its text. -/
theorem content_field {v : Value} {b : Block} (h : read v = .ok b) : ∃ c, b.content.field? "content" = some c := by
  have hrecord {title : String} {type : Shape} {metadata : RecordField Shape}
      (hcheck : check (.record title true (fields type metadata)) v = .ok b.content) :
      ∃ c, b.content.field? "content" = some c := by
    generalize b.content = c at hcheck ⊢
    cases check_fits _ hcheck with
    | record hfields =>
      obtain ⟨c, hc, -⟩ := hfields.lookup "content" rfl
      exact ⟨c, hc⟩
  by_cases hnamed : ∃ k : Kind, v.get? "type" = some (.str k.name)
  · obtain ⟨k, hv⟩ := hnamed
    exact hrecord (content_of_read h (chosenArm_kind hv) (lookup_kind k)).2
  · have hother : ∀ k : Kind, v.get? "type" ≠ some (.str k.name) := fun k hk => hnamed ⟨k, hk⟩
    exact hrecord (content_of_read h (chosenArm_other hother) (s := genericShape) rfl).2

theorem text_withText {v : Value} {b : Block} (h : read v = .ok b) (t : Text) : (b.withText t).text = t := by
  obtain ⟨c, hc⟩ := content_field h
  rw [text, Checked.text?, withText, Checked.field?_setField, hc, if_pos rfl]
  rfl

end Block

/-! ## Marks -/

namespace Markdown

/-- The kinds of cells that have marks. -/
def markedKinds : List Kind := [.heading1, .heading2, .heading3, .bullet, .todo, .callout]

/-- The marks in front of the text of a cell. -/
def marksOf (b : Block) : Kind → Text
  | .heading1 => "#"
  | .heading2 => "##"
  | .heading3 => "###"
  | .bullet => "-"
  | .todo => if b.metadata.isSet "checked" then "- [x]" else "- [ ]"
  | .callout => ">"
  | _ => []

/-- A cell with marks is its marks, a space and its text. Only a box is looked for in the form of the block. -/
theorem markdown_of_marked {b : Block} {k : Kind} (hkind : b.kind? = some k) (hk : k ∈ markedKinds)
    (hbox : k = .todo → b.form = some .todo) : b.markdown = .ok (marksOf b k ++ .char ' ' :: b.text) := by
  have hcell : b.markdown = cellOf b k := by
    have hother : k ≠ .markdown ∧ k ≠ .separator ∧ k ≠ .image := by
      refine ⟨?_, ?_, ?_⟩ <;> exact ne_of_mem_of_not_mem hk (by decide)
    rw [Block.markdown, cell, hkind]
    cases k <;> simp_all
  rw [hcell]
  cases k
  case todo =>
    rw [cellOf, hbox rfl, marksOf, Option.isSome_some, if_pos rfl]
    cases b.metadata.isSet "checked" <;> rfl
  all_goals first | rfl | exact absurd hk (by decide)

theorem afterBlanks_space (t : Text) : afterBlanks (.char ' ' :: t) = some (t.dropWhile (·.satisfies isBlank)) := rfl

theorem afterHeading_hashes {n : Nat} (hn : 1 ≤ n) (hn' : n ≤ 6) (t : Text) :
    afterHeading (List.replicate n (CodePoint.char '#') ++ .char ' ' :: t) = some (t.dropWhile (·.satisfies isBlank)) := by
  have htake : (List.replicate n (CodePoint.char '#') ++ .char ' ' :: t).takeWhile (· == .char '#') =
      List.replicate n (.char '#') := by
    rw [List.takeWhile_append_of_pos (by simp)]
    exact List.append_nil _
  rw [afterHeading, htake, List.length_replicate, if_pos (by simp [hn, hn']), List.drop_left' List.length_replicate,
    afterBlanks_space]

theorem afterBox_box {state : Char} (hstate : state ∈ [' ', 'x', 'X']) (t : Text) :
    afterBox (.char '-' :: .char ' ' :: .char '[' :: .char state :: .char ']' :: .char ' ' :: t) =
      some (t.dropWhile (·.satisfies isBlank)) := by
  have hmark : afterMark '-' (.char '-' :: .char ' ' :: .char '[' :: .char state :: .char ']' :: .char ' ' :: t) =
      some (.char '[' :: .char state :: .char ']' :: .char ' ' :: t) := rfl
  rw [afterBox, hmark]
  simp only [List.mem_cons, List.not_mem_nil, or_false] at hstate
  rcases hstate with rfl | rfl | rfl <;> rfl

/-- One run of marks is found, and the blanks behind it go with it; what follows is not looked at. -/
theorem afterMarks_marksOf (b : Block) {k : Kind} (hk : k ∈ markedKinds) (t : Text) :
    afterMarks k (marksOf b k ++ .char ' ' :: t) = some (t.dropWhile (·.satisfies isBlank)) := by
  cases k
  case heading1 => exact afterHeading_hashes (n := 1) (by decide) (by decide) t
  case heading2 => exact afterHeading_hashes (n := 2) (by decide) (by decide) t
  case heading3 => exact afterHeading_hashes (n := 3) (by decide) (by decide) t
  case todo =>
    rw [afterMarks, marksOf]
    split
    · exact afterBox_box (by decide : 'x' ∈ [' ', 'x', 'X']) t
    · exact afterBox_box (by decide : ' ' ∈ [' ', 'x', 'X']) t
  all_goals first | rfl | exact absurd hk (by decide)

theorem head?_marksOf (b : Block) {k : Kind} (hk : k ∈ markedKinds) (t : Text) :
    ∀ c ∈ (marksOf b k ++ t).head?, c.satisfies isBlank = false := by
  have hmarks : ∃ c rest, marksOf b k = c :: rest ∧ c.satisfies isBlank = false := by
    cases k
    case todo =>
      rw [marksOf]
      cases b.metadata.isSet "checked" <;> exact ⟨_, _, rfl, by decide⟩
    all_goals first | exact ⟨_, _, rfl, by decide⟩ | exact absurd hk (by decide)
  obtain ⟨c, rest, hmarks, hc⟩ := hmarks
  rw [hmarks]
  simpa using hc

/-- A cell whose text is written marks, a space and another text holds that text without the blanks around it. -/
theorem plainCell_of_marks {b : Block} {k : Kind} (hkind : b.kind? = some k) (hk : k ∈ markedKinds) (b' : Block)
    {t core : Text} (htext : b.text = marksOf b' k ++ .char ' ' :: t) (h : IsTrimmed (·.satisfies isBlank) t core)
    (hne : core ≠ []) : plainCell b = core := by
  obtain ⟨above, below, rfl, hall⟩ := h.around
  obtain ⟨habove, hbelow⟩ := List.forall_mem_append.1 hall
  have htrim : trim (·.satisfies isBlank) b.text = marksOf b' k ++ .char ' ' :: (above ++ core) := by
    refine IsTrimmed.trim_eq ⟨⟨[], below, by simp [htext], hbelow⟩, head?_marksOf b' hk _, ?_⟩
    obtain ⟨c, hc⟩ : ∃ c, core.getLast? = some c := Option.isSome_iff_exists.1 (by simpa using hne)
    rw [← List.cons_append, ← List.append_assoc, List.getLast?_append, hc, Option.some_or, ← hc]
    exact h.last
  have hafter : (above ++ core).dropWhile (·.satisfies isBlank) = core := by
    rw [List.dropWhile_append_of_pos habove]
    simpa using dropWhile_of_head? h.head hne []
  have hcore : IsTrimmed (·.satisfies isBlank) core core := ⟨⟨[], [], by simp, nofun⟩, h.head, h.last⟩
  simp only [plainCell, htrim, hkind, afterMarks_marksOf b' hk, hafter, Option.getD_some, hcore.trim_eq]

/-- The text of a cell that is written with marks and read again is the text without the blanks around it. -/
theorem plainText_markdown {v : Value} {b : Block} (hb : Block.read v = .ok b) {k : Kind} (hkind : b.kind? = some k)
    (hk : k ∈ markedKinds) (hbox : k = .todo → b.form = some .todo) (hword : ∃ c ∈ b.text, c.satisfies isBlank = false) :
    ∃ written plain, b.markdown = .ok written ∧ (b.withText written).plainText = .ok plain ∧
      IsTrimmed (·.satisfies isBlank) b.text plain := by
  have htrimmed := isTrimmed_trim (·.satisfies isBlank) b.text
  have hne : trim (·.satisfies isBlank) b.text ≠ [] := by
    obtain ⟨c, hc, hblank⟩ := hword
    exact fun hnil => absurd ((trim_eq_nil_iff _ _).1 hnil c hc) (by simp [hblank])
  have hkind' (t : Text) : (b.withText t).kind? = some k := (b.kind?_withText t).trans hkind
  have htext : ∀ k ∈ markedKinds, k.isText := by decide
  refine ⟨_, _, markdown_of_marked hkind hk hbox, ?_, htrimmed⟩
  rw [Block.plainText, hkind', Option.map_some, Option.getD_some, if_pos (htext k hk)]
  exact congrArg Except.ok (plainCell_of_marks (hkind' _) hk b (Block.text_withText hb _) htrimmed hne)

/-- A ticked box with blanks around its text, which begins with the marks of other boxes, callouts and headings. -/
def markedBox : Value := .map [
  (.str "id", .str "a"), (.str "type", .str "text-cell-todo"), (.str "sortingKey", .str "0"),
  (.str "content", .str "\t- [x] > # step \n"), (.str "metadata", .map [(.str "checked", .bool true)])]

theorem markedBox_plainText : ∃ b written, Block.read markedBox = .ok b ∧ b.markdown = .ok written ∧
    (b.withText written).plainText = .ok "- [x] > # step" := by
  have h : ((Block.read markedBox).toOption.map fun b => (b.form, b.kind?, b.text)) =
      some (some .todo, some .todo, ofString "\t- [x] > # step \n") := by
    decide +kernel
  obtain ⟨b, hb, hparts⟩ := exists_of_toOption h
  simp only [Prod.mk.injEq] at hparts
  obtain ⟨hform, hkind, htext⟩ := hparts
  have hword : ∃ c ∈ b.text, c.satisfies isBlank = false := by
    rw [htext]
    exact ⟨.char 's', by decide, by decide⟩
  obtain ⟨written, plain, hwritten, hplain, htrimmed⟩ := plainText_markdown hb hkind (by decide) (fun _ => hform) hword
  rw [htext] at htrimmed
  have hcore : trim (·.satisfies isBlank) (ofString "\t- [x] > # step \n") = ofString "- [x] > # step" := by decide +kernel
  obtain rfl : ofString "- [x] > # step" = plain := hcore.symm.trans htrimmed.trim_eq
  exact ⟨b, written, hb, hwritten, hplain⟩

end Markdown

end BlockNotebook
