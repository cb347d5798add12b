import BlockNotebook.Proofs.Code.Data
import BlockNotebook.Proofs.Text.Lines
/-!
Titles in the code of a big number.

The code is made by filling in two templates, one inside the other, whose own braces are doubled. What
is filled in is not looked at again, so the braces of a title stay as they are. Each title has a line of
its own, which reads in one way only (`TitleLine`): as a literal of the title, handed to the renderer
exactly if marks that open a template stand in the title with marks that close it behind them.
-/

namespace BlockNotebook.Code

open Text

/-! ## Templates with fields -/

def isBrace (c : Char) : Bool := c == '\x7b' || c == '\x7d'

/-- A template with the values of its fields in their places. A doubled brace stands for a single one, and a
single one begins or ends the name of a field; `name` is what is read of that name, backwards. There is no
result if a single brace does neither, or if a field has no value. -/
def fillFrom (values : List (String × Text)) : Option (List Char) → List Char → Option Text
  | none, [] => some []
  | none, [c] => if isBrace c then none else some [.char c]
  | none, c :: d :: rest =>
    if isBrace c && c == d then (fillFrom values none rest).map (.char c :: ·)
    else if c == '\x7b' then fillFrom values (some []) (d :: rest)
    else if c == '\x7d' then none
    else (fillFrom values none (d :: rest)).map (.char c :: ·)
  | some _, [] => none
  | some name, c :: rest =>
    if c == '\x7d' then
      (values.lookup (String.ofList name.reverse)).bind fun t => (fillFrom values none rest).map (t ++ ·)
    else fillFrom values (some (c :: name)) rest

def fill (template : String) (values : List (String × Text)) : Option Text := fillFrom values none template.toList

/-- Text as a template has it: every brace is doubled. -/
def doubled (cs : List Char) : List Char := cs.flatMap fun c => if isBrace c then [c, c] else [c]

/-- A field as a template has it. -/
def fieldMark (name : List Char) : List Char := '\x7b' :: (name ++ ['\x7d'])

section
variable (values : List (String × Text))

theorem fillFrom_plain {c : Char} (hc : isBrace c = false) (cs : List Char) :
    fillFrom values none (c :: cs) = (fillFrom values none cs).map (.char c :: ·) := by
  obtain ⟨hopen, hclose⟩ := Bool.or_eq_false_iff.1 hc
  cases cs with
  | nil => simp [fillFrom, hc]
  | cons d cs => simp [fillFrom, hc, hopen, hclose]

theorem fillFrom_brace {c : Char} (hc : isBrace c = true) (cs : List Char) :
    fillFrom values none (c :: c :: cs) = (fillFrom values none cs).map (.char c :: ·) := by
  simp [fillFrom, hc]

/-- The text of a template comes out as it is. -/
theorem fillFrom_doubled (cs rest : List Char) :
    fillFrom values none (doubled cs ++ rest) = (fillFrom values none rest).map (ofChars cs ++ ·) := by
  induction cs with
  | nil => exact Option.map_id.symm ▸ rfl
  | cons c cs ih =>
    rw [doubled, List.flatMap_cons, ← doubled, List.append_assoc]
    split
    · rename_i hc
      rw [List.cons_append, List.singleton_append, fillFrom_brace values hc, ih, Option.map_map]
      rfl
    · rename_i hc
      rw [List.singleton_append, fillFrom_plain values (by simpa using hc), ih, Option.map_map]
      rfl

theorem fillFrom_name {name : List Char} (hname : ∀ c ∈ name, isBrace c = false) (read rest : List Char) :
    fillFrom values (some read) (name ++ rest) = fillFrom values (some (name.reverse ++ read)) rest := by
  induction name generalizing read with
  | nil => rfl
  | cons c name ih =>
    obtain ⟨hc, hname⟩ := List.forall_mem_cons.1 hname
    rw [List.cons_append, fillFrom, if_neg (by simpa using (Bool.or_eq_false_iff.1 hc).2), ih hname, List.reverse_cons,
      List.append_assoc, List.singleton_append]

/-- The value of a field comes out as it is, whatever it holds. -/
theorem fillFrom_fieldMark {name : List Char} (hname : name.all (!isBrace ·)) {t : Text}
    (ht : values.lookup (String.ofList name) = some t) (rest : List Char) :
    fillFrom values none (fieldMark name ++ rest) = (fillFrom values none rest).map (t ++ ·) := by
  have hplain : ∀ c ∈ name, isBrace c = false := by simpa using hname
  have hopen : fillFrom values none (fieldMark name ++ rest) = fillFrom values (some []) (name ++ '\x7d' :: rest) := by
    have hne : name ++ '\x7d' :: rest = (name ++ ['\x7d']) ++ rest := by simp
    rw [fieldMark, List.cons_append, ← hne]
    cases name with
    | nil => simp [fillFrom, isBrace]
    | cons c name =>
      have hc : ¬ '\x7b' = c := by
        rintro rfl
        exact absurd (hplain _ List.mem_cons_self) (by decide)
      simp [fillFrom, hc]
  rw [hopen, fillFrom_name values hplain, fillFrom, if_pos (beq_self_eq_true _), List.append_nil, List.reverse_reverse, ht]
  rfl

end

/-- The template of a big number in front of its fields. -/
def templateHead : String :=
  "def __deepnote_big_number__():\n" ++
  "    import json\n" ++
  "    import jinja2\n" ++
  "    from jinja2 import meta\n" ++
  "\n" ++
  "    def render_template(template):\n" ++
  "        parsed_content = jinja2.Environment().parse(template)\n" ++
  "        required_variables = meta.find_undeclared_variables(parsed_content)\n" ++
  "        context = \x7b\x7b\n" ++
  "            variable_name: globals().get(variable_name)\n" ++
  "            for variable_name in required_variables\n" ++
  "        \x7d\x7d\n" ++
  "        return jinja2.Environment().from_string(template).render(context)\n" ++
  "\n" ++
  "    return json.dumps(\x7b\x7b\n"

def bigNumberTemplate : String :=
  templateHead ++ "\x7bfields\x7d" ++ "\n    \x7d\x7d)\n\n__deepnote_big_number__()\n"

/-- The template of one field of it. -/
def fieldTemplate : String := "        \"\x7bkey\x7d\": \x7bexpression\x7d,"

theorem doubled_append (a b : List Char) : doubled (a ++ b) = doubled a ++ doubled b := List.flatMap_append

theorem doubled_ofList {cs : List Char} (h : cs.all (!isBrace ·)) :
    doubled (String.ofList cs).toList = (String.ofList cs).toList := by
  rw [String.toList_ofList]
  induction cs with
  | nil => rfl
  | cons c cs ih => simp_all [doubled]

/-- Line by line, from the last one: only lines with braces are looked at as strings. -/
theorem templateHead_eq : templateHead.toList = doubled bigNumberHead.toList := by
  delta templateHead bigNumberHead
  simp only [String.toList_append, doubled_append, -String.reduceAppend]
  refine congrArg₂ HAppend.hAppend ?_ (by decide +kernel)
  iterate 2 refine congrArg₂ HAppend.hAppend ?_ (doubled_ofList (by decide)).symm
  refine congrArg₂ HAppend.hAppend ?_ (by decide +kernel)
  iterate 2 refine congrArg₂ HAppend.hAppend ?_ (doubled_ofList (by decide)).symm
  refine congrArg₂ HAppend.hAppend ?_ (by decide +kernel)
  iterate 7 refine congrArg₂ HAppend.hAppend ?_ (doubled_ofList (by decide)).symm
  exact (doubled_ofList (by decide)).symm

theorem bigNumberTemplate_eq : bigNumberTemplate.toList =
    doubled bigNumberHead.toList ++ (fieldMark "fields".toList ++ (doubled bigNumberTail.toList ++ [])) := by
  have hfield : "\x7bfields\x7d".toList = fieldMark "fields".toList := by decide +kernel
  have htail : "\n    \x7d\x7d)\n\n__deepnote_big_number__()\n".toList = doubled bigNumberTail.toList := by decide +kernel
  rw [bigNumberTemplate, String.toList_append, String.toList_append, templateHead_eq, hfield, htail, List.append_nil,
    List.append_assoc]

theorem fieldTemplate_eq : fieldTemplate.toList =
    doubled "        \"".toList ++ (fieldMark "key".toList ++ (doubled "\": ".toList ++
      (fieldMark "expression".toList ++ (doubled ",".toList ++ [])))) := by
  decide +kernel

theorem lookup_ofList_toList {values : List (String × Text)} {name : String} {t : Text}
    (h : values.lookup name = some t) : values.lookup (String.ofList name.toList) = some t := by
  rwa [String.ofList_toList]

theorem fill_bigNumberTemplate (fields : Text) :
    fill bigNumberTemplate [("fields", fields)] = some (bigNumberHead ++ fields ++ bigNumberTail) := by
  rw [fill, bigNumberTemplate_eq, fillFrom_doubled,
    fillFrom_fieldMark _ (by decide +kernel) (lookup_ofList_toList List.lookup_cons_self), fillFrom_doubled]
  simp only [fillFrom, Option.map_some, List.append_nil, List.append_assoc, Text.ofString]

theorem fill_fieldTemplate (key : String) (expression : Text) :
    fill fieldTemplate [("key", key), ("expression", expression)] = some (bigNumberField key expression) := by
  have hkey : [("key", (key : Text)), ("expression", expression)].lookup "key" = some (key : Text) := rfl
  have hexpression : [("key", (key : Text)), ("expression", expression)].lookup "expression" = some expression := rfl
  rw [fill, fieldTemplate_eq, fillFrom_doubled, fillFrom_fieldMark _ (by decide +kernel) (lookup_ofList_toList hkey),
    fillFrom_doubled, fillFrom_fieldMark _ (by decide +kernel) (lookup_ofList_toList hexpression), fillFrom_doubled]
  simp only [fillFrom, Option.map_some, List.append_nil, List.append_assoc, bigNumberField, Text.ofString]

/-! ## Templates in titles -/

/-- Two elements stand next to each other at a position of a list. -/
def StandsAt {α : Type} (a b : α) (t : List α) (i : Nat) : Prop := t[i]? = some a ∧ t[i + 1]? = some b

/-- One pair stands in the text, and behind it another one, which does not overlap it. -/
def Encloses {α : Type} (a b c d : α) (t : List α) : Prop := ∃ i j, StandsAt a b t i ∧ StandsAt c d t j ∧ i + 2 ≤ j

/-- Double braces around a part of the text, or braces with percent signs. -/
def HoldsTemplate (t : Text) : Prop :=
  Encloses (.char '\x7b') (.char '\x7b') (.char '\x7d') (.char '\x7d') t ∨
    Encloses (.char '\x7b') (.char '%') (.char '%') (.char '\x7d') t

theorem standsAt_drop {α : Type} {a b : α} {t : List α} {n i : Nat} :
    StandsAt a b (t.drop n) i ↔ StandsAt a b t (n + i) := by
  simp only [StandsAt, List.getElem?_drop, Nat.add_assoc]

/-- The search for a pair finds the first one. -/
theorem afterPair_eq_some {a b : Char} {cs rest : List Char} (h : afterPair a b cs = some rest) :
    ∃ i, StandsAt a b cs i ∧ rest = cs.drop (i + 2) ∧ ∀ k, StandsAt a b cs k → i ≤ k := by
  induction cs using afterPair.induct a b with
  | case1 x y tail hxy =>
    rw [afterPair, if_pos hxy] at h
    cases h
    simp only [Bool.and_eq_true, beq_iff_eq] at hxy
    obtain ⟨rfl, rfl⟩ := hxy
    exact ⟨0, ⟨rfl, rfl⟩, rfl, fun _ _ => Nat.zero_le _⟩
  | case2 x y tail hxy ih =>
    rw [afterPair, if_neg hxy] at h
    obtain ⟨i, hi, rfl, hfirst⟩ := ih h
    refine ⟨i + 1, hi, rfl, fun k hk => ?_⟩
    cases k with
    | zero =>
      obtain ⟨hx, hy⟩ := hk
      cases hx
      cases hy
      simp at hxy
    | succ k => exact Nat.succ_le_succ (hfirst k hk)
  | case3 cs hshort =>
    rw [afterPair] at h
    · cases h
    · exact hshort

theorem afterPair_isSome {a b : Char} {cs : List Char} {i : Nat} (h : StandsAt a b cs i) : (afterPair a b cs).isSome := by
  induction cs using afterPair.induct a b generalizing i with
  | case1 x y tail hxy => rw [afterPair, if_pos hxy]; rfl
  | case2 x y tail hxy ih =>
    rw [afterPair, if_neg hxy]
    cases i with
    | zero =>
      obtain ⟨hx, hy⟩ := h
      cases hx
      cases hy
      simp at hxy
    | succ i => exact ih h
  | case3 cs hshort =>
    obtain ⟨ha, hb⟩ := h
    match cs, ha, hb with
    | x :: y :: tail, _, _ => exact absurd rfl (hshort x y tail)
    | [x], _, hb => simp at hb

/-- Two searches, the second behind what the first one finds, find whatever pairs stand so. -/
theorem afterPair_bind_isSome {a b c d : Char} {cs : List Char} :
    ((afterPair a b cs).bind (afterPair c d)).isSome = true ↔ Encloses a b c d cs := by
  constructor
  · intro h
    obtain ⟨tail, htail⟩ := Option.isSome_iff_exists.1 h
    obtain ⟨rest, hrest, htail⟩ := Option.bind_eq_some_iff.1 htail
    obtain ⟨i, hi, rfl, -⟩ := afterPair_eq_some hrest
    obtain ⟨j, hj, -, -⟩ := afterPair_eq_some htail
    exact ⟨i, i + 2 + j, hi, standsAt_drop.1 hj, Nat.le_add_right _ _⟩
  · rintro ⟨i, j, hi, hj, hij⟩
    obtain ⟨rest, hrest⟩ := Option.isSome_iff_exists.1 (afterPair_isSome hi)
    obtain ⟨first, -, rfl, hfirst⟩ := afterPair_eq_some hrest
    rw [hrest, Option.bind_some]
    obtain ⟨gap, rfl⟩ := Nat.exists_eq_add_of_le (Nat.le_trans (Nat.add_le_add_right (hfirst i hi) 2) hij)
    exact afterPair_isSome (standsAt_drop.2 hj)

theorem getElem?_characters {t : Text} {i : Nat} {c : Char} (hc : c ≠ '\uFFFD') :
    t.characters[i]? = some c ↔ t[i]? = some (.char c) := by
  rw [characters, List.getElem?_map, Option.map_eq_some_iff]
  constructor
  · rintro ⟨p, hp, rfl⟩
    cases p with
    | char c => exact hp
    | surrogate n => exact absurd rfl hc
  · exact fun h => ⟨_, h, rfl⟩

theorem encloses_characters {t : Text} {a b c d : Char} (ha : a ≠ '\uFFFD') (hb : b ≠ '\uFFFD') (hc : c ≠ '\uFFFD')
    (hd : d ≠ '\uFFFD') :
    Encloses a b c d t.characters ↔ Encloses (CodePoint.char a) (.char b) (.char c) (.char d) t := by
  simp only [Encloses, StandsAt, getElem?_characters ha, getElem?_characters hb, getElem?_characters hc,
    getElem?_characters hd]

theorem hasTemplate_iff (t : Text) : hasTemplate t = true ↔ HoldsTemplate t := by
  rw [hasTemplate]
  simp only [Bool.or_eq_true, afterPair_bind_isSome]
  exact or_congr (encloses_characters (by decide) (by decide) (by decide) (by decide))
    (encloses_characters (by decide) (by decide) (by decide) (by decide))

/-! ## Lines of titles -/

/-- A line that gives a title under a key, as it is or handed to the renderer. -/
def titleFrame (key : String) (isRendered : Bool) : Frame :=
  fixed "        \"" ++ fixed key ++ fixed "\": " ++
    (if isRendered then fixed "render_template(" ++ [.literal] ++ fixed ")" else [.literal]) ++ fixed ","

/-- The line is filled in from the template of a field. It reads in one way only: its one literal stands for the
title, and is handed to the renderer exactly if the title holds a template. -/
structure TitleLine (key : String) (title line : Text) : Prop where
  filled : fill fieldTemplate [("key", key), ("expression", titleCode (some title))] = some line
  reads : ∃ body, unescape body = some title ∧ ∀ isRendered slots,
    ReadsAs (titleFrame key isRendered) line slots ↔ (isRendered = true ↔ HoldsTemplate title) ∧ slots = [.literal body]

theorem titleFrame_inj {key : String} {a b : Bool} (h : titleFrame key a = titleFrame key b) : a = b := by
  have hlength := congrArg List.length h
  revert hlength
  cases a <;> cases b <;> simp [titleFrame, fixed, Text.ofString, ofChars]

theorem Writes.title (key : String) (t : Text) :
    Writes (titleFrame key (hasTemplate t)) (bigNumberField key (titleCode (some t))) [.text t] := by
  have hkey : Writes _ _ [] := ((fixed "        \"").append (fixed key)).append (fixed "\": ")
  have hexpression : Writes (if hasTemplate t then Code.fixed "render_template(" ++ [.literal] ++ Code.fixed ")"
      else [.literal]) (titleCode (some t)) [.text t] := by
    unfold titleCode
    simp only [Option.getD_some]
    split
    · exact ((fixed "render_template(").append (literal t)).append (fixed ")")
    · exact .literal t
  exact (hkey.append hexpression).append (fixed ",")

theorem titleLine_of_unambiguous {key : String}
    (hkey : Frame.AreUnambiguous [titleFrame key true, titleFrame key false]) (t : Text) :
    TitleLine key t (bigNumberField key (titleCode (some t))) := by
  refine ⟨fill_fieldTemplate key _, escaped t, unescape_escaped t, fun isRendered slots => ?_⟩
  have hwrites := Writes.title key t
  have hmem (isRendered : Bool) : titleFrame key isRendered ∈ [titleFrame key true, titleFrame key false] := by
    cases isRendered <;> simp
  rw [← hasTemplate_iff, ← Bool.eq_iff_iff]
  constructor
  · intro h
    obtain ⟨hframe, rfl⟩ := h.unique_of_unambiguous hkey (hmem _) (hmem _) hwrites
    exact ⟨titleFrame_inj hframe, rfl⟩
  · rintro ⟨rfl, rfl⟩
    exact hwrites

theorem titleLine_title (t : Text) : TitleLine "title" t (bigNumberField "title" (titleCode (some t))) :=
  titleLine_of_unambiguous (by decide +kernel) t

theorem titleLine_comparisonTitle (t : Text) :
    TitleLine "comparisonTitle" t (bigNumberField "comparisonTitle" (titleCode (some t))) :=
  titleLine_of_unambiguous (by decide +kernel) t

/-! ## The code of a big number, line by line -/

/-- What a block gives in a field of its metadata; empty if it gives nothing. -/
def given (b : Block) (field : String) : Text := (b.metadata.text? field).getD []

/-- The lines of the code above those of its fields. -/
def linesAbove : List Text := (split (.char '\n') bigNumberHead).dropLast

/-- The lines of the code below those of its fields. -/
def linesBelow : List Text := (split (.char '\n') bigNumberTail).drop 1

/-- The fields of a big number: its title and value, and those of another number if one of the two is given. -/
def fieldLines (b : Block) : List Text :=
  let otherTitle := given b "deepnote_big_number_comparison_title"
  let otherValue := given b "deepnote_big_number_comparison_value"
  [bigNumberField "title" (titleCode (some (given b "deepnote_big_number_title"))),
    bigNumberField "value" (valueCode (given b "deepnote_big_number_value"))] ++
  (if otherTitle.isEmpty && otherValue.isEmpty then []
  else
    [bigNumberField "comparisonTitle" (titleCode (some otherTitle)),
      bigNumberField "comparisonValue" (if otherValue.isEmpty then "None" else valueCode otherValue)])

theorem bigNumber_eq (b : Block) : bigNumber b = bigNumberHead ++ joinWith "\n" (fieldLines b) ++ bigNumberTail := rfl

theorem bigNumberHead_eq : ∃ a : Text, Text.ofString bigNumberHead = a ++ [.char '\n'] := by
  have hlast : "    return json.dumps(\x7b\n".toList = "    return json.dumps(\x7b".toList ++ ['\n'] := by decide +kernel
  delta bigNumberHead
  rw [Text.ofString, String.toList_append, hlast, ← List.append_assoc, ofChars, List.map_append]
  exact ⟨_, rfl⟩

theorem bigNumberTail_eq : ∃ c : Text, Text.ofString bigNumberTail = .char '\n' :: c := ⟨_, rfl⟩

/-- Lines that hold no line feed are the lines of the code between those of the template. -/
theorem split_bigNumber {ls : List Text} (hne : ls ≠ []) (h : ∀ l ∈ ls, .char '\n' ∉ l) :
    split (CodePoint.char '\n') (bigNumberHead ++ joinWith "\n" ls ++ bigNumberTail) = linesAbove ++ ls ++ linesBelow := by
  obtain ⟨a, ha⟩ := bigNumberHead_eq
  obtain ⟨c, hc⟩ := bigNumberTail_eq
  have habove : linesAbove = split (.char '\n') a := by
    rw [linesAbove, ha, split_append_sep]
    exact List.dropLast_concat
  have hbelow : linesBelow = split (.char '\n') c := by
    rw [linesBelow, hc, ← List.nil_append (_ :: c), split_append_sep]
    rfl
  have hsep : Text.ofString "\n" = [.char '\n'] := rfl
  rw [ha, hc, habove, hbelow, hsep, List.append_assoc, List.append_assoc, List.singleton_append, split_append_sep,
    split_append_sep, split_joinWith hne h, List.append_assoc]

theorem titleCode_oneLine (title : Option Text) : .char '\n' ∉ titleCode title := by
  unfold titleCode
  extract_lets t
  split
  · simp only [List.mem_append, not_or]
    exact ⟨⟨by decide +kernel, literal_oneLine t⟩, by decide +kernel⟩
  · exact literal_oneLine t

theorem valueCode_oneLine (name : Text) : .char '\n' ∉ valueCode name := by
  have hname : CodePoint.char '\n' ∉ Text.ofString (nameOf name) := fun h => absurd ((nameOf_identifier name).holds _ h) (by decide)
  simp only [valueCode, List.mem_append, not_or]
  exact ⟨⟨by decide +kernel, hname⟩, by decide +kernel⟩

theorem bigNumberField_oneLine {key : String} {code : Text} (hkey : .char '\n' ∉ Text.ofString key)
    (hcode : .char '\n' ∉ code) : .char '\n' ∉ bigNumberField key code := by
  simp only [bigNumberField, List.mem_append, not_or]
  exact ⟨⟨⟨⟨by decide +kernel, hkey⟩, by decide +kernel⟩, hcode⟩, by decide +kernel⟩

theorem fieldLines_oneLine (b : Block) : ∀ l ∈ fieldLines b, .char '\n' ∉ l := by
  have hvalue (otherValue : Text) :
      CodePoint.char '\n' ∉ (if otherValue.isEmpty then (Text.ofString "None") else valueCode otherValue) := by
    split
    · decide +kernel
    · exact valueCode_oneLine otherValue
  refine List.forall_mem_append.2 ⟨List.forall_mem_cons.2 ⟨?_, List.forall_mem_cons.2 ⟨?_, nofun⟩⟩, ?_⟩
  · exact bigNumberField_oneLine (by decide +kernel) (titleCode_oneLine _)
  · exact bigNumberField_oneLine (by decide +kernel) (valueCode_oneLine _)
  split
  · exact nofun
  · refine List.forall_mem_cons.2 ⟨?_, List.forall_mem_cons.2 ⟨?_, nofun⟩⟩
    · exact bigNumberField_oneLine (by decide +kernel) (titleCode_oneLine _)
    · exact bigNumberField_oneLine (by decide +kernel) (hvalue _)

/-- The titles of a big number in its code. Two rounds of filling in templates make the code; its lines are those of
the template with those of the fields between them, the title first. A title to compare with has a line of its own
if it or the value to compare with is given. -/
theorem titles_in_code {b : Block} (hkind : b.kind? = some .bigNumber) (hform : b.form = some .bigNumber)
    (context : Option Context) :
    ∃ code titleLine valueLine others, b.code context = .ok code ∧
      fill bigNumberTemplate [("fields", joinWith "\n" (titleLine :: valueLine :: others))] = some code ∧
      split (.char '\n') code = linesAbove ++ (titleLine :: valueLine :: others) ++ linesBelow ∧
      TitleLine "title" (given b "deepnote_big_number_title") titleLine ∧
      (given b "deepnote_big_number_comparison_title" = [] ∧ given b "deepnote_big_number_comparison_value" = [] ∧
          others = [] ∨
        ¬ (given b "deepnote_big_number_comparison_title" = [] ∧ given b "deepnote_big_number_comparison_value" = []) ∧
          ∃ otherTitleLine otherValueLine, others = [otherTitleLine, otherValueLine] ∧
            TitleLine "comparisonTitle" (given b "deepnote_big_number_comparison_title") otherTitleLine) := by
  have hcode : b.code context = .ok (bigNumber b) := by
    rw [Block.code, hkind]
    dsimp only
    rw [hasForm, hform]
    rfl
  have hfill := fill_bigNumberTemplate (joinWith "\n" (fieldLines b))
  have hsplit := @split_bigNumber (fieldLines b) (by simp [fieldLines]) (fieldLines_oneLine b)
  rw [← bigNumber_eq] at hfill hsplit
  refine ⟨bigNumber b, _, _, _, hcode, hfill, hsplit, titleLine_title _, ?_⟩
  by_cases hnone : given b "deepnote_big_number_comparison_title" = [] ∧
      given b "deepnote_big_number_comparison_value" = []
  · exact .inl ⟨hnone.1, hnone.2, if_pos (by simpa using hnone)⟩
  · exact .inr ⟨hnone, _, _, if_neg (by simpa using hnone), titleLine_comparisonTitle _⟩

/-- A number whose title has a template on two lines, among other braces and quotes, and another title whose marks
overlap. -/
def bracedNumber : Value := .map [
  (.str "id", .str "b"), (.str "type", .str "big-number"), (.str "sortingKey", .str "0"),
  (.str "metadata", .map [
    (.str "deepnote_big_number_title", .str "\x7bfields\x7d it's \x7b\x7b\n\x7d\x7d"),
    (.str "deepnote_big_number_comparison_title", .str "\x7b%\x7d \x7d\x7d")])]

theorem bracedNumber_titles : ∃ b, Block.read bracedNumber = .ok b ∧ b.kind? = some .bigNumber ∧
    b.form = some .bigNumber ∧
    ∃ code titleLine valueLine otherTitleLine otherValueLine, b.code none = .ok code ∧
      split (.char '\n') code =
        linesAbove ++ [titleLine, valueLine, otherTitleLine, otherValueLine] ++ linesBelow ∧
      TitleLine "title" "\x7bfields\x7d it's \x7b\x7b\n\x7d\x7d" titleLine ∧
      TitleLine "comparisonTitle" "\x7b%\x7d \x7d\x7d" otherTitleLine := by
  have h : ((Block.read bracedNumber).toOption.map fun b => (b.kind?, b.form, given b "deepnote_big_number_title",
      given b "deepnote_big_number_comparison_title")) =
      some (some .bigNumber, some .bigNumber, Text.ofString "\x7bfields\x7d it's \x7b\x7b\n\x7d\x7d",
        Text.ofString "\x7b%\x7d \x7d\x7d") := by
    rw [bracedNumber]
    repeat rw [ofString_ofList]
    decide +kernel
  obtain ⟨b, hb, hparts⟩ := exists_of_toOption h
  simp only [Prod.mk.injEq] at hparts
  obtain ⟨hkind, hform, htitle, hotherTitle⟩ := hparts
  obtain ⟨code, titleLine, valueLine, others, hcode, -, hsplit, hline, hothers⟩ := titles_in_code hkind hform none
  rw [htitle] at hline
  rw [hotherTitle] at hothers
  rcases hothers with ⟨hnil, -⟩ | ⟨-, otherTitleLine, otherValueLine, rfl, hotherLine⟩
  · cases hnil
  · exact ⟨b, hb, hkind, hform, code, titleLine, valueLine, otherTitleLine, otherValueLine, hcode, hsplit, hline,
      hotherLine⟩

end BlockNotebook.Code
