import BlockNotebook.Markdown.Block
import BlockNotebook.Proofs.Block.Form
import BlockNotebook.Proofs.Text.Split
import Mathlib.Data.List.Basic
/-!
Images as tags that nothing stored in a block can break open.

An attribute is written with five characters replaced by entities, and a reader who goes over it once has
the text again (`encodes_escapeAttribute`). A tag can be taken apart into attributes in one way only
(`tag_inj`). The tag of an image block has its three attributes and no other.
-/

namespace BlockNotebook.Markdown

open Text Schema

/-! ## Entities -/

/-- The characters that are replaced in attributes, and what by, in the order of the replacements. -/
def entities : List (Char × String) :=
  [('&', "&amp;"), ('<', "&lt;"), ('>', "&gt;"), ('"', "&quot;"), ('\'', "&#39;")]

/-- A text with one character replaced wherever it stands. -/
def replaced (e : Char × String) (t : Text) : Text := t.flatMap fun c => if c == .char e.1 then ofString e.2 else [c]

/-- The text with entities turned back, in one pass from left to right; so many code points are passed over first. -/
def decodeFrom : Nat → Text → Text
  | _, [] => []
  | passed + 1, _ :: rest => decodeFrom passed rest
  | 0, c :: rest =>
    match entities.find? fun e => (ofString e.2).isPrefixOf (c :: rest) with
    | some e => .char e.1 :: decodeFrom ((ofString e.2).length - 1) rest
    | none => c :: decodeFrom 0 rest

/-- The text with entities turned back. -/
def decodeEntities (t : Text) : Text := decodeFrom 0 t

theorem entity_of_mem : ∀ e ∈ entities, entity (.char e.1) = ofString e.2 := by decide

/-- A code point has an entity, or stays as it is. -/
theorem entity_cases (c : CodePoint) : (∃ e ∈ entities, c = .char e.1 ∧ entity c = ofString e.2) ∨
    ((∀ e ∈ entities, c ≠ .char e.1) ∧ entity c = [c]) := by
  by_cases hc : ∃ e ∈ entities, c = .char e.1
  · obtain ⟨e, he, rfl⟩ := hc
    exact .inl ⟨e, he, rfl, entity_of_mem e he⟩
  · have hne : ∀ e ∈ entities, c ≠ .char e.1 := fun e he heq => hc ⟨e, he, heq⟩
    refine .inr ⟨hne, ?_⟩
    simp only [entities, List.forall_mem_cons] at hne
    simp [entity, hne]

/-! ### One replacement after another -/

theorem foldl_replaced (es : List (Char × String)) (t : Text) : es.foldl (fun t e => replaced e t) t =
    t.flatMap fun c => es.foldl (fun t e => replaced e t) [c] := by
  induction es generalizing t with
  | nil => simp
  | cons e rest ih =>
    rw [List.foldl_cons, ih (replaced e t), replaced, List.flatMap_assoc]
    refine List.flatMap_congr fun c _ => ?_
    rw [List.foldl_cons, ih (replaced e [c]), replaced, List.flatMap_singleton]

theorem foldl_replaced_of_ne {es : List (Char × String)} {c : CodePoint} (h : ∀ e ∈ es, c ≠ .char e.1) :
    es.foldl (fun t e => replaced e t) [c] = [c] := by
  induction es with
  | nil => rfl
  | cons e rest ih =>
    obtain ⟨he, hrest⟩ := List.forall_mem_cons.1 h
    have hsame : replaced e [c] = [c] := by simp [replaced, he]
    rw [List.foldl_cons, hsame, ih hrest]

/-- No replacement touches what an earlier one wrote: together they replace each code point once. -/
theorem escapeAttribute_eq_foldl (t : Text) : escapeAttribute t = entities.foldl (fun t e => replaced e t) t := by
  have hmem : ∀ e ∈ entities, entities.foldl (fun t e => replaced e t) [.char e.1] = ofString e.2 := by decide
  rw [foldl_replaced]
  refine List.flatMap_congr fun c _ => ?_
  rcases entity_cases c with ⟨e, he, rfl, hentity⟩ | ⟨hne, hentity⟩
  · rw [hentity, hmem e he]
  · rw [hentity, foldl_replaced_of_ne hne]

/-! ### Back again -/

theorem exists_entity_tail : ∀ e ∈ entities, ∃ tail, ofString e.2 = .char '&' :: tail ∧ .char '&' ∉ tail := by
  intro e he
  simp only [entities, List.mem_cons, List.not_mem_nil, or_false] at he
  rcases he with rfl | rfl | rfl | rfl | rfl <;> exact ⟨_, rfl, by decide⟩

theorem decodeFrom_entity : ∀ e ∈ entities, ∀ rest, decodeFrom 0 (ofString e.2 ++ rest) = .char e.1 :: decodeFrom 0 rest := by
  intro e he rest
  simp only [entities, List.mem_cons, List.not_mem_nil, or_false] at he
  rcases he with rfl | rfl | rfl | rfl | rfl <;> rfl

theorem decodeFrom_plain {c : CodePoint} (h : ∀ e ∈ entities, c ≠ .char e.1) (rest : Text) :
    decodeFrom 0 (c :: rest) = c :: decodeFrom 0 rest := by
  have hnone : entities.find? (fun e => (ofString e.2).isPrefixOf (c :: rest)) = none := by
    refine List.find?_eq_none.2 fun e he => ?_
    obtain ⟨tail, htail, -⟩ := exists_entity_tail e he
    have hc : c ≠ .char '&' := h ('&', "&amp;") List.mem_cons_self
    rw [htail]
    simp [List.isPrefixOf, hc.symm]
  rw [decodeFrom, hnone]

theorem decodeEntities_escapeAttribute (t : Text) : decodeEntities (escapeAttribute t) = t := by
  induction t with
  | nil => rfl
  | cons c rest ih =>
    unfold decodeEntities at ih ⊢
    rw [escapeAttribute, List.flatMap_cons, ← escapeAttribute]
    rcases entity_cases c with ⟨e, he, rfl, hentity⟩ | ⟨hne, hentity⟩
    · rw [hentity, decodeFrom_entity e he, ih]
    · rw [hentity, List.singleton_append, decodeFrom_plain hne, ih]

/-! ### What an attribute holds -/

/-- The characters that end an attribute or a tag, or begin one. -/
def breaking : List CodePoint := [.char '<', .char '>', .char '"', .char '\'']

theorem not_breaking_escapeAttribute (t : Text) : ∀ c ∈ breaking, c ∉ escapeAttribute t := by
  have hclean : ∀ e ∈ entities, ∀ c ∈ breaking, c ∉ ofString e.2 := by decide
  have hreplaced : ∀ c ∈ breaking, ∃ e ∈ entities, c = .char e.1 := by decide
  intro c hc hmem
  obtain ⟨d, -, hd⟩ := List.mem_flatMap.1 hmem
  rcases entity_cases d with ⟨e, he, -, hentity⟩ | ⟨hne, hentity⟩
  · exact hclean e he c hc (hentity ▸ hd)
  · rw [hentity, List.mem_singleton] at hd
    obtain ⟨e, he, rfl⟩ := hreplaced c hc
    exact hne e he hd.symm

theorem ampersand_escapeAttribute {t before after : Text} (h : escapeAttribute t = before ++ .char '&' :: after) :
    ∃ e ∈ entities, ofString e.2 <+: .char '&' :: after := by
  induction t generalizing before with
  | nil => exact absurd h (by simp [escapeAttribute])
  | cons c rest ih =>
    rw [escapeAttribute, List.flatMap_cons, ← escapeAttribute] at h
    -- The ampersand stands behind the first code point, or is part of what that is written as.
    rcases List.append_eq_append_iff.1 h with ⟨more, -, hrest⟩ | ⟨inside, hfirst, hafter⟩
    · exact ih hrest
    · cases inside with
      | nil =>
        have hrest : escapeAttribute rest = [] ++ .char '&' :: after := hafter.symm
        exact ih hrest
      | cons d inside =>
        obtain ⟨rfl, hafter⟩ := List.cons.inj hafter
        rcases entity_cases c with ⟨e, he, rfl, hentity⟩ | ⟨hne, hentity⟩
        · obtain ⟨tail, htail, hnot⟩ := exists_entity_tail e he
          rw [hentity, htail] at hfirst
          cases before with
          | nil =>
            refine ⟨e, he, escapeAttribute rest, ?_⟩
            rw [htail, (List.cons.inj hfirst).2, hafter, List.cons_append]
          | cons b before =>
            refine absurd ?_ hnot
            rw [(List.cons.inj hfirst).2]
            simp
        · rw [hentity] at hfirst
          have hmem : CodePoint.char '&' ∈ [c] := by
            rw [hfirst]
            simp
          exact absurd (List.mem_singleton.1 hmem).symm (hne ('&', "&amp;") List.mem_cons_self)

/-- An attribute that holds a text: the text with one character after another replaced. It holds no character that
could end it, each ampersand in it begins an entity, and one pass over it gives the text. -/
structure Encodes (written t : Text) : Prop where
  replaced : written = entities.foldl (fun t e => replaced e t) t
  clean : ∀ c ∈ breaking, c ∉ written
  ampersand : ∀ before after, written = before ++ .char '&' :: after →
    ∃ e ∈ entities, ofString e.2 <+: .char '&' :: after
  decodes : decodeEntities written = t

theorem encodes_escapeAttribute (t : Text) : Encodes (escapeAttribute t) t where
  replaced := escapeAttribute_eq_foldl t
  clean := not_breaking_escapeAttribute t
  ampersand _ _ := ampersand_escapeAttribute
  decodes := decodeEntities_escapeAttribute t

/-! ## Tags -/

structure Attribute where
  name : Text
  value : Text

/-- An attribute with its value in quotes, behind a blank. -/
def Attribute.written (a : Attribute) : Text := .char ' ' :: (a.name ++ .char '=' :: .char '"' :: (a.value ++ [.char '"']))

/-- The tag of an image with some attributes. -/
def tag (attributes : List Attribute) : Text := "<img" ++ attributes.flatMap Attribute.written ++ " />"

/-- The quotes and the sign before them show where the name and the value end. -/
structure Attribute.Delimited (a : Attribute) : Prop where
  name : .char '=' ∉ a.name
  value : .char '"' ∉ a.value

theorem Attribute.Delimited.written_inj {a b : Attribute} (ha : a.Delimited) (hb : b.Delimited) {s t : Text}
    (h : a.written ++ s = b.written ++ t) : a = b ∧ s = t := by
  simp only [Attribute.written, List.cons_append, List.append_assoc, List.nil_append, List.cons.injEq, true_and] at h
  obtain ⟨hname, hquoted⟩ := append_cons_inj ha.name hb.name h
  obtain ⟨hvalue, hrest⟩ := append_cons_inj ha.value hb.value (List.cons.inj hquoted).2
  cases a
  cases b
  cases hname
  cases hvalue
  exact ⟨rfl, hrest⟩

theorem attributes_inj {as bs : List Attribute} (has : ∀ a ∈ as, a.Delimited) (hbs : ∀ b ∈ bs, b.Delimited)
    (h : as.flatMap Attribute.written = bs.flatMap Attribute.written) : as = bs := by
  induction as generalizing bs with
  | nil =>
    cases bs with
    | nil => rfl
    | cons b bs => cases h
  | cons a as ih =>
    cases bs with
    | nil => cases h
    | cons b bs =>
      obtain ⟨ha, has⟩ := List.forall_mem_cons.1 has
      obtain ⟨hb, hbs⟩ := List.forall_mem_cons.1 hbs
      obtain ⟨hab, hrest⟩ := ha.written_inj hb h
      exact congrArg₂ List.cons hab (ih has hbs hrest)

/-- A tag can be taken apart in one way only. -/
theorem tag_inj {as bs : List Attribute} (has : ∀ a ∈ as, a.Delimited) (hbs : ∀ b ∈ bs, b.Delimited)
    (h : tag as = tag bs) : as = bs :=
  attributes_inj has hbs (List.append_cancel_left (List.append_cancel_right h))

/-- The text is a tag from its first code point to its last one, and holds no other. -/
def IsOneTag (t : Text) : Prop := ∃ inside, t = .char '<' :: (inside ++ [.char '>']) ∧ .char '<' ∉ inside ∧ .char '>' ∉ inside

theorem isOneTag_tag {as : List Attribute} (h : ∀ a ∈ as, ∀ c ∈ breaking, c ∉ a.name ∧ c ∉ a.value) :
    IsOneTag (tag as) := by
  have hfixed : ∀ c ∈ [CodePoint.char '<', .char '>'], c ∈ breaking ∧ c ∉ ofString "img" ∧ c ∉ ofString " /" ∧
      ∀ d ∈ [CodePoint.char ' ', .char '=', .char '"'], c ≠ d := by
    decide
  have hinside : ∀ c ∈ [CodePoint.char '<', .char '>'], c ∉ ofString "img" ++ as.flatMap Attribute.written ++ ofString " /" := by
    intro c hc hmem
    obtain ⟨hbreaking, hfront, hback, hsigns⟩ := hfixed c hc
    rcases List.mem_append.1 hmem with hmem | hmem
    · rcases List.mem_append.1 hmem with hmem | hmem
      · exact hfront hmem
      · obtain ⟨a, ha, hmem⟩ := List.mem_flatMap.1 hmem
        obtain ⟨hname, hvalue⟩ := h a ha c hbreaking
        simp only [List.forall_mem_cons] at hsigns
        simp [Attribute.written, hname, hvalue, hsigns] at hmem
    · exact hback hmem
  refine ⟨_, ?_, hinside _ (by decide), hinside _ (by decide)⟩
  simp only [tag, List.append_assoc]
  rfl

/-! ## Blocks -/

theorem widthDigits_eq_filter (t : Text) : ofString (widthDigits t) = t.filter (·.satisfies isAsciiDigit) := by
  rw [widthDigits, ofString, String.toList_ofList]
  induction t with
  | nil => rfl
  | cons c rest ih =>
    have hcharacters : characters (c :: rest) = c.character :: characters rest := rfl
    have hdigit : c.satisfies isAsciiDigit = isAsciiDigit c.character := by
      cases c <;> rfl
    rw [hcharacters, List.filter_cons, List.filter_cons, ← ih, hdigit]
    split
    · next hc =>
      cases c with
      | char d => rfl
      | surrogate n => exact absurd (show isAsciiDigit '\uFFFD' from hc) (by decide)
    · rfl

/-- An alignment is one of three words, or empty. -/
def alignments : List String := ["", "left", "center", "right"]

theorem alignment_mem (t : Text) : alignment t ∈ alignments := by
  unfold alignment
  cases h : ["left", "center", "right"].find? fun (word : String) => lower t == word with
  | none => exact List.mem_cons_self
  | some word => exact List.mem_cons_of_mem _ (List.mem_of_find?_eq_some h)

/-- The text that a block stores in a field of its image; empty if it stores none. -/
inductive ImageText (b : Block) (field : String) : Text → Prop
  | given {t : Text} (h : b.Stores field (.str t)) : ImageText b field t
  | absent (h : b.Stores field .null) : ImageText b field []

theorem ImageText.getD {b : Block} {field : String} {t : Text} (h : ImageText b field t) :
    (b.metadata.text? field).getD [] = t := by
  cases h with
  | given h => rw [h.text?, Option.getD_some]
  | absent h => rw [Checked.text?, h]; rfl

theorem exists_imageText {b : Block} (hb : b.IsRead) (hform : b.form = some .image) (field : String)
    (hfield : (Block.metadataFields .image).find? (·.key == field) = some (Block.optional field .text)) :
    ∃ t, ImageText b field t := by
  obtain ⟨c, hc, hfit⟩ := Block.metadata_field hb hform field hfield
  cases hfit with
  | null => exact ⟨[], .absent hc⟩
  | given hfit =>
    cases hfit with
    | text t => exact ⟨t, .given hc⟩

theorem markdown_of_image {b : Block} (hb : b.IsRead) (hform : b.form = some .image) : b.markdown = .ok (image b) := by
  have hkind : ∀ j, Block.title j = Block.title .image → j = .image := by
    intro j hj
    cases j <;> first | rfl | exact absurd hj (by decide)
  obtain ⟨j, hj, htitle⟩ := Block.kind_of_form hb hform
  obtain rfl := hkind j htitle
  simp [Block.markdown, hj, hform]

/-- The attributes of the tag of an image. -/
def imageAttributes (src width align : Text) : List Attribute := [⟨"src", src⟩, ⟨"width", width⟩, ⟨"align", align⟩]

theorem imageTag_eq_tag (src width align : Text) : imageTag src width align = tag (imageAttributes src width align) := by
  simp [imageTag, tag, imageAttributes, Attribute.written, ofString, ofChars]

/-- No attribute of the tag can be ended by what stands in it. -/
theorem clean_imageAttributes {s w a : Text} (hs : ∀ c ∈ breaking, c ∉ s) (hw : ∀ c ∈ w, c.satisfies isAsciiDigit)
    (ha : a ∈ alignments.map ofString) :
    ∀ x ∈ imageAttributes s w a, x.Delimited ∧ ∀ c ∈ breaking, c ∉ x.name ∧ c ∉ x.value := by
  have hquote : .char '"' ∈ breaking := by decide
  have hdigits : ∀ c ∈ breaking, c ∉ w := by
    have hnone : ∀ c ∈ breaking, c.satisfies isAsciiDigit = false := by decide
    intro c hc hmem
    exact absurd (hw _ hmem) (by rw [hnone c hc]; decide)
  have hwords : ∀ word ∈ alignments.map ofString, ∀ c ∈ breaking, c ∉ word := by decide
  have hnames : ∀ name ∈ ["src", "width", "align"], .char '=' ∉ ofString name ∧ ∀ c ∈ breaking, c ∉ ofString name := by
    decide
  have hclean {name : String} (hname : name ∈ ["src", "width", "align"]) {value : Text}
      (hvalue : ∀ c ∈ breaking, c ∉ value) : Attribute.Delimited ⟨name, value⟩ ∧
        ∀ c ∈ breaking, c ∉ ofString name ∧ c ∉ value :=
    ⟨⟨(hnames name hname).1, hvalue _ hquote⟩, fun c hc => ⟨(hnames name hname).2 c hc, hvalue c hc⟩⟩
  simp only [imageAttributes, List.forall_mem_cons]
  exact ⟨hclean (by decide) hs, hclean (by decide) hdigits, hclean (by decide) (hwords a ha), List.forall_mem_nil _⟩

/-- An image block gives one tag with three attributes, whatever texts it stores, and no others can be read out of it. -/
theorem image_tag {v : Value} {b : Block} (hb : Block.read v = .ok b) (hform : b.form = some .image) :
    ∃ src width align, ImageText b "deepnote_img_src" src ∧ ImageText b "deepnote_img_width" width ∧
      ImageText b "deepnote_img_alignment" align ∧ ∃ s w a, b.markdown = .ok (tag (imageAttributes s w a)) ∧
        Encodes s (if isImageAddress src then src else []) ∧ (isImageAddress src = false → s = []) ∧
        w = width.filter (·.satisfies isAsciiDigit) ∧ a ∈ alignments.map ofString ∧
        IsOneTag (tag (imageAttributes s w a)) ∧
        ∀ as, (∀ x ∈ as, x.Delimited) → tag as = tag (imageAttributes s w a) → as = imageAttributes s w a := by
  have hread := Block.isRead_of_read hb
  obtain ⟨src, hsrc⟩ := exists_imageText hread hform "deepnote_img_src" rfl
  obtain ⟨width, hwidth⟩ := exists_imageText hread hform "deepnote_img_width" rfl
  obtain ⟨align, halign⟩ := exists_imageText hread hform "deepnote_img_alignment" rfl
  have hmarkdown : b.markdown = .ok (tag (imageAttributes (escapeAttribute (imageAddress src))
      (width.filter (·.satisfies isAsciiDigit)) (alignment align))) := by
    rw [markdown_of_image hread hform, image]
    dsimp only
    rw [hsrc.getD, hwidth.getD, halign.getD, imageTag_eq_tag, widthDigits_eq_filter]
  have hencodes := encodes_escapeAttribute (imageAddress src)
  have halignment : ofString (alignment align) ∈ alignments.map ofString := List.mem_map_of_mem (alignment_mem align)
  have hclean := clean_imageAttributes hencodes.clean (w := width.filter (·.satisfies isAsciiDigit))
    (fun c hc => (List.mem_filter.1 hc).2) halignment
  refine ⟨src, width, align, hsrc, hwidth, halign, _, _, _, hmarkdown, hencodes, ?_, rfl, halignment, ?_, ?_⟩
  · intro hnot
    rw [imageAddress, hnot]
    rfl
  · exact isOneTag_tag fun x hx => (hclean x hx).2
  · exact fun as has h => tag_inj has (fun x hx => (hclean x hx).1) h

/-- An image whose fields try to end their attributes. -/
def brokenImage : Value := .map [
  (.str "id", .str "a"), (.str "type", .str "image"), (.str "sortingKey", .str "0"),
  (.str "metadata", .map [(.str "deepnote_img_src", .str "http://a/&lt;'\" /><b>"),
    (.str "deepnote_img_width", .str "64\" onload=\"0"), (.str "deepnote_img_alignment", .str "RIGHT\"")])]

theorem brokenImage_tag : ∃ b s a, Block.read brokenImage = .ok b ∧
    b.markdown = .ok (tag (imageAttributes s "640" a)) ∧ Encodes s "http://a/&lt;'\" /><b>" ∧
    ∀ as, (∀ x ∈ as, x.Delimited) → tag as = tag (imageAttributes s "640" a) → as = imageAttributes s "640" a := by
  have h : ((Block.read brokenImage).toOption.map fun b => (b.form, b.metadata.text? "deepnote_img_src",
      b.metadata.text? "deepnote_img_width")) = some (some .image, some (ofString "http://a/&lt;'\" /><b>"),
        some (ofString "64\" onload=\"0")) := by
    rw [brokenImage]
    repeat rw [ofString_ofList]
    decide +kernel
  cases hb : Block.read brokenImage with
  | error is =>
    rw [hb] at h
    cases h
  | ok b =>
    rw [hb] at h
    simp only [Except.toOption, Option.map_some, Option.some_inj, Prod.mk.injEq] at h
    obtain ⟨hform, hsrcText, hwidthText⟩ := h
    obtain ⟨src, width, align, hsrc, hwidth, -, s, w, a, hmarkdown, hs, -, rfl, -, -, honly⟩ := image_tag hb hform
    obtain rfl : ofString "http://a/&lt;'\" /><b>" = src := by
      rw [← hsrc.getD, hsrcText]
      rfl
    obtain rfl : ofString "64\" onload=\"0" = width := by
      rw [← hwidth.getD, hwidthText]
      rfl
    have haddress : isImageAddress (ofString "http://a/&lt;'\" /><b>") = true := by decide +kernel
    have hdigits : (ofString "64\" onload=\"0").filter (·.satisfies isAsciiDigit) = ofString "640" := by decide +kernel
    rw [if_pos haddress] at hs
    rw [hdigits] at hmarkdown honly
    exact ⟨b, s, a, rfl, hmarkdown, hs, honly⟩

end BlockNotebook.Markdown
