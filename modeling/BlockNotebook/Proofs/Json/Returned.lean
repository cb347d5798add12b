import BlockNotebook.Json.Reader
import BlockNotebook.Proofs.Json.Written
import BlockNotebook.Proofs.Number.Reading
import BlockNotebook.Proofs.Value.Closed
/-!
Data that comes back from its JSON text.

`Tree` is the data that JSON has a form of its own for. It is written, and what is read from the text is
the data again, with its entries in their order (`read_of_write`). Each part of the writer has a lemma
that says what the reader makes of it in front of any text; a number needs a text that does not go on
with it.
-/

namespace BlockNotebook.Json

open Text Number

/-! ## Trees -/

/-- Data made of null, truth values, whole numbers of few digits, texts, lists, and mappings with texts as keys. -/
inductive Tree : Value → Prop
  | null : Tree .null
  | bool (b : Bool) : Tree (.bool b)
  | int {i : Int} (h : IsShort i) : Tree (.int i)
  | str (t : Text) : Tree (.str t)
  | list {items : List Value} (h : ∀ v ∈ items, Tree v) : Tree (.list items)
  | map {entries : List (Value × Value)} (hkeys : ∀ e ∈ entries, ∃ t, e.1 = .str t)
      (hdistinct : Value.KeysDistinct entries) (h : ∀ e ∈ entries, Tree e.2) : Tree (.map entries)

theorem Tree.hasText {v : Value} (h : Tree v) : HasText v := by
  induction h with
  | null => exact .null
  | bool b => exact .bool b
  | int h => exact .int h
  | str t => exact .str t
  | list _ ih => exact .list ih
  | map hkeys _ _ ih =>
    refine .map ?_ ih
    intro e he
    obtain ⟨t, ht⟩ := hkeys e he
    exact ht ▸ .str t

instance (i : Int) : Decidable (IsShort i) := inferInstanceAs (Decidable (_ < _))

instance (entries : List (Value × Value)) : Decidable (Value.KeysDistinct entries) :=
  inferInstanceAs (Decidable (List.Pairwise _ _))

mutual

/-- The test for trees. -/
def isTree : Value → Bool
  | .null | .bool _ | .str _ => true
  | .int i => decide (IsShort i)
  | .list items => areTrees items
  | .map entries => decide (Value.KeysDistinct entries) && areTreeEntries entries
  | _ => false

def areTrees : List Value → Bool
  | [] => true
  | v :: vs => isTree v && areTrees vs

def areTreeEntries : List (Value × Value) → Bool
  | [] => true
  | (.str _, v) :: rest => isTree v && areTreeEntries rest
  | _ => false

end

mutual

theorem isTree_iff : ∀ v : Value, isTree v = true ↔ Tree v
  | .null => ⟨fun _ => .null, fun _ => rfl⟩
  | .bool b => ⟨fun _ => .bool b, fun _ => rfl⟩
  | .str t => ⟨fun _ => .str t, fun _ => rfl⟩
  | .int i => by
    rw [isTree, decide_eq_true_iff]
    exact ⟨.int, fun h => by cases h; assumption⟩
  | .list items => by
    rw [isTree, areTrees_iff items]
    exact ⟨.list, fun h => by cases h; assumption⟩
  | .map entries => by
    rw [isTree, Bool.and_eq_true, decide_eq_true_iff, areTreeEntries_iff entries]
    exact ⟨fun h => .map h.2.1 h.1 h.2.2, fun h => by cases h with | map hkeys hdistinct h => exact ⟨hdistinct, hkeys, h⟩⟩
  | .float _ => ⟨nofun, nofun⟩
  | .bytes _ => ⟨nofun, nofun⟩
  | .date _ => ⟨nofun, nofun⟩
  | .moment _ => ⟨nofun, nofun⟩
  | .pair _ _ => ⟨nofun, nofun⟩
  | .set _ => ⟨nofun, nofun⟩
  | .enclosing _ => ⟨nofun, nofun⟩

theorem areTrees_iff : ∀ items : List Value, areTrees items = true ↔ ∀ v ∈ items, Tree v
  | [] => ⟨fun _ => nofun, fun _ => rfl⟩
  | v :: vs => by rw [areTrees, Bool.and_eq_true, isTree_iff v, areTrees_iff vs, List.forall_mem_cons]

theorem areTreeEntries_iff : ∀ entries : List (Value × Value), areTreeEntries entries = true ↔
    (∀ e ∈ entries, ∃ t, e.1 = .str t) ∧ ∀ e ∈ entries, Tree e.2
  | [] => ⟨fun _ => ⟨nofun, nofun⟩, fun _ => rfl⟩
  | (k, v) :: rest => by
    cases k with
    | str t =>
      rw [areTreeEntries, Bool.and_eq_true, isTree_iff v, areTreeEntries_iff rest, List.forall_mem_cons, List.forall_mem_cons]
      exact ⟨fun ⟨hv, hkeys, h⟩ => ⟨⟨⟨t, rfl⟩, hkeys⟩, hv, h⟩, fun ⟨⟨_, hkeys⟩, hv, h⟩ => ⟨hv, hkeys, h⟩⟩
    | _ =>
      refine ⟨nofun, fun h => ?_⟩
      obtain ⟨t, ht⟩ := h.1 _ List.mem_cons_self
      cases ht

end

instance : DecidablePred Tree := fun v => decidable_of_iff _ (isTree_iff v)

/-! ## Strings -/

theorem hexDigit?_hexDigit : ∀ n < 16, hexDigit? (.char (hexDigit n)) = some n := by decide +kernel

theorem hex_four (n : Nat) :
    hex 4 n = [hexDigit (n / 16 / 16 / 16 % 16), hexDigit (n / 16 / 16 % 16), hexDigit (n / 16 % 16), hexDigit (n % 16)] :=
  rfl

theorem hex4?_hexDigit {w x y z : Nat} (hw : w < 16) (hx : x < 16) (hy : y < 16) (hz : z < 16) :
    hex4? (hexDigit w) (hexDigit x) (hexDigit y) (hexDigit z) = some (((w * 16 + x) * 16 + y) * 16 + z) := by
  simp only [hex4?, hexDigit?_hexDigit, hw, hx, hy, hz]
  rfl

/-- An escape of a number that is below all surrogates stands on its own, whatever follows. -/
theorem readPoint_escape {a b c d : CodePoint} {n : Nat} (h : hex4? a b c d = some n) (hn : n < 0xD800) (rest : Text) :
    readPoint (.char '\\' :: .char 'u' :: a :: b :: c :: d :: rest) = (CodePoint.ofValue? n).map (·, rest) := by
  have hjoin (t : Option Nat) : t.bind (joinSurrogates n) = none := by
    cases t with
    | none => rfl
    | some low =>
      have hhigh : ¬ 0xD800 ≤ n := by omega
      simp [joinSurrogates, hhigh]
  rw [readPoint, h]
  dsimp only
  split
  · rw [hjoin]
  · rfl

theorem readPoint_plain {c : CodePoint} (h : c ≠ .char '\\') (rest : Text) : readPoint (c :: rest) = some (c, rest) := by
  rw [readPoint.eq_def]
  split <;> simp_all

theorem readPoint_letter {d e : Char} (hd : d ≠ 'u') (he : unescape? d = some e) (rest : Text) :
    readPoint (.char '\\' :: .char d :: rest) = some (.char e, rest) := by
  rw [readPoint.eq_def]
  split
  · rename_i heq
    exact absurd (CodePoint.char.inj (List.cons.inj (List.cons.inj heq).2).1) hd
  · rename_i heq
    obtain ⟨rfl, rfl⟩ := List.cons.inj (List.cons.inj heq).2
    rw [CodePoint.character, he]
    rfl
  · rename_i hnot heq
    obtain ⟨rfl, rfl⟩ := List.cons.inj heq
    exact (hnot _ _ rfl rfl).elim
  · rename_i heq
    cases heq

/-- A code point stands in a JSON string as a letter after a backslash, as an escape of its number, or as itself. -/
theorem escapePoint_cases (c : CodePoint) :
    (∃ d e, d ≠ 'u' ∧ 0x20 ≤ d.toNat ∧ unescape? d = some e ∧ c = .char e ∧ escapePoint c = [.char '\\', .char d]) ∨
      (∃ d, d.toNat < 0x20 ∧ c = .char d ∧ escapePoint c = ofChars ('\\' :: 'u' :: hex 4 d.toNat)) ∨
      (0x20 ≤ c.value ∧ c ≠ .char '"' ∧ c ≠ .char '\\' ∧ escapePoint c = [c]) := by
  by_cases hquote : c = .char '"'
  · subst hquote
    exact .inl ⟨'"', '"', by decide, by decide, rfl, rfl, rfl⟩
  by_cases hbackslash : c = .char '\\'
  · subst hbackslash
    exact .inl ⟨'\\', '\\', by decide, by decide, rfl, rfl, rfl⟩
  by_cases hline : c = .char '\n'
  · subst hline
    exact .inl ⟨'n', '\n', by decide, by decide, rfl, rfl, rfl⟩
  by_cases hreturn : c = .char '\r'
  · subst hreturn
    exact .inl ⟨'r', '\r', by decide, by decide, rfl, rfl, rfl⟩
  by_cases htab : c = .char '\t'
  · subst htab
    exact .inl ⟨'t', '\t', by decide, by decide, rfl, rfl, rfl⟩
  by_cases hfeed : c = .char '\x0c'
  · subst hfeed
    exact .inl ⟨'f', '\x0c', by decide, by decide, rfl, rfl, rfl⟩
  by_cases hback : c = .char '\x08'
  · subst hback
    exact .inl ⟨'b', '\x08', by decide, by decide, rfl, rfl, rfl⟩
  have hescape : escapePoint c = if c.value < 0x20 then ofChars ('\\' :: 'u' :: hex 4 c.value) else [c] := by
    simp [escapePoint, hquote, hbackslash, hline, hreturn, htab, hfeed, hback]
  by_cases hlow : c.value < 0x20
  · rw [hescape, if_pos hlow]
    cases c with
    | char d => exact .inr (.inl ⟨d, hlow, rfl, rfl⟩)
    | surrogate n =>
      simp only [CodePoint.value, CodePoint.firstSurrogate] at hlow
      omega
  · rw [hescape, if_neg hlow]
    exact .inr (.inr ⟨by omega, hquote, hbackslash, rfl⟩)

theorem readPoint_escapePoint (c : CodePoint) (rest : Text) : readPoint (escapePoint c ++ rest) = some (c, rest) := by
  rcases escapePoint_cases c with ⟨d, e, hd, -, he, rfl, hescape⟩ | ⟨d, hd, rfl, hescape⟩ | ⟨-, -, hbackslash, hescape⟩
  · rw [hescape]
    exact readPoint_letter hd he rest
  · have hnumber : CodePoint.ofValue? d.toNat = some (.char d) := by
      rw [CodePoint.ofValue?, dif_neg (by simp only [CodePoint.firstSurrogate]; omega), if_pos (by omega),
        Char.ofNat_toNat]
    have hhex : hex4? (hexDigit (d.toNat / 16 / 16 / 16 % 16)) (hexDigit (d.toNat / 16 / 16 % 16))
        (hexDigit (d.toNat / 16 % 16)) (hexDigit (d.toNat % 16)) = some d.toNat := by
      rw [hex4?_hexDigit (by omega) (by omega) (by omega) (by omega)]
      congr 1
      omega
    rw [hescape, hex_four]
    exact (readPoint_escape hhex (by omega) rest).trans (by rw [hnumber]; rfl)
  · rw [hescape]
    exact readPoint_plain hbackslash rest

/-- No quote that stands for itself begins an escape. -/
theorem head?_escapePoint (c : CodePoint) (rest : Text) : (escapePoint c ++ rest).head? ≠ some (.char '"') := by
  rcases escapePoint_cases c with ⟨d, e, -, -, -, -, h⟩ | ⟨d, -, -, h⟩ | ⟨-, hquote, -, h⟩
  · rw [h]
    exact (by decide : some (CodePoint.char '\\') ≠ some (.char '"'))
  · rw [h]
    exact (by decide : some (CodePoint.char '\\') ≠ some (.char '"'))
  · rw [h]
    exact fun heq => hquote (Option.some.inj heq)

theorem escapePoint_ne_nil (c : CodePoint) : escapePoint c ≠ [] := by
  rcases escapePoint_cases c with ⟨d, e, -, -, -, -, h⟩ | ⟨d, -, -, h⟩ | ⟨-, -, -, h⟩ <;> rw [h] <;> exact List.cons_ne_nil _ _

theorem readPoints_point {t rest : Text} {c : CodePoint} (hquote : t.head? ≠ some (.char '"'))
    (h : readPoint t = some (c, rest)) (fuel : Nat) :
    readPoints (fuel + 1) t = (readPoints fuel rest).map fun r => (c :: r.1, r.2) := by
  rw [readPoints.eq_def]
  dsimp only
  split
  · exact absurd rfl hquote
  · rw [h]

theorem readPoints_escaped {t : Text} {fuel : Nat} (hfuel : (t.flatMap escapePoint).length < fuel) (rest : Text) :
    readPoints fuel (t.flatMap escapePoint ++ .char '"' :: rest) = some (t, rest) := by
  induction t generalizing fuel with
  | nil =>
    cases fuel with
    | zero => cases hfuel
    | succ fuel => rfl
  | cons c t ih =>
    rw [List.flatMap_cons, List.length_append] at hfuel
    have hpos := List.length_pos_iff.2 (escapePoint_ne_nil c)
    cases fuel with
    | zero => cases hfuel
    | succ fuel =>
      rw [List.flatMap_cons, List.append_assoc, readPoints_point (head?_escapePoint c _) (readPoint_escapePoint c _),
        ih (by omega)]
      rfl

/-! ## Numbers -/

/-- The text does not go on with a number. -/
def EndsNumber (rest : Text) : Prop := ∀ c ∈ rest.head?, c.satisfies isNumberChar = false

theorem endsNumber_cons {c : CodePoint} (h : c.satisfies isNumberChar = false) (rest : Text) : EndsNumber (c :: rest) := by
  intro d hd
  cases hd
  exact h

theorem isAsciiDigit_of_mem_toDigits {n : Nat} {c : Char} (h : c ∈ Nat.toDigits 10 n) : isAsciiDigit c := by
  have hdigit := Nat.isDigit_of_mem_toDigits (by decide) (by decide) h
  simpa [Char.isDigit, isAsciiDigit, Char.le_def, UInt32.le_iff_toNat_le] using hdigit

theorem digitsValue_toDigits (n : Nat) : digitsValue (Nat.toDigits 10 n) = n := by
  have h := Nat.ofDigitChars_toDigits (b := 10) (n := n) (by decide) (by decide)
  rw [Nat.ofDigitChars] at h
  simpa [digitsValue, Nat.mul_comm] using h

theorem number?_digits (negative : Bool) (n : Nat) {cs : List Char}
    (h : splitSign cs = (negative, Nat.toDigits 10 n)) : number? cs = some (.int (withSign negative n)) := by
  have hall : (Nat.toDigits 10 n).all isAsciiDigit = true := List.all_eq_true.2 fun c hc => isAsciiDigit_of_mem_toDigits hc
  have hne : (Nat.toDigits 10 n).isEmpty = false := by simp
  unfold number?
  rw [h]
  simp [hall, hne, digitsValue_toDigits]

/-- The characters of a whole number in base ten. -/
theorem toList_toString (i : Int) :
    ∃ cs, (toString i).toList = cs ∧ cs ≠ [] ∧ (∀ c ∈ cs, isNumberChar c) ∧ number? cs = some (.int i) := by
  have hdigits (n : Nat) : ∀ c ∈ Nat.toDigits 10 n, isNumberChar c := by
    intro c hc
    simp [isNumberChar, isAsciiDigit_of_mem_toDigits hc]
  cases i with
  | ofNat n =>
    refine ⟨Nat.toDigits 10 n, ?_, Nat.toDigits_ne_nil, hdigits n, ?_⟩
    · show (Nat.repr n).toList = _
      rw [Nat.repr, String.toList_ofList]
    · have hsign : splitSign (Nat.toDigits 10 n) = (false, Nat.toDigits 10 n) := by
        unfold splitSign
        split
        · rename_i heq
          have hminus : isAsciiDigit '-' := isAsciiDigit_of_mem_toDigits (heq ▸ List.mem_cons_self)
          exact absurd hminus (by decide)
        · rename_i heq
          have hplus : isAsciiDigit '+' := isAsciiDigit_of_mem_toDigits (heq ▸ List.mem_cons_self)
          exact absurd hplus (by decide)
        · rfl
      exact number?_digits false n hsign
  | negSucc n =>
    refine ⟨'-' :: Nat.toDigits 10 (n + 1), ?_, List.cons_ne_nil _ _, ?_, ?_⟩
    · show ("-" ++ Nat.repr (n + 1)).toList = _
      rw [String.toList_append, Nat.repr, String.toList_ofList, String.toList_ofList]
      rfl
    · exact List.forall_mem_cons.2 ⟨by decide, hdigits _⟩
    · exact number?_digits true (n + 1) rfl

theorem integer_eq_ok {i : Int} {t : Text} (h : integer i = .ok t) : t = Text.ofString (toString i) := by
  unfold integer at h
  cases htext : integerText i with
  | error f =>
    rw [htext] at h
    cases h
  | ok s =>
    rw [htext] at h
    unfold integerText at htext
    split at htext
    · cases htext
      exact (Except.ok.inj h).symm
    · cases htext

/-! ## Values -/

theorem skipBlanks_of_not {c : CodePoint} (h : isJsonBlank c = false) (t : Text) : skipBlanks (c :: t) = c :: t :=
  List.dropWhile_cons_of_neg (by simp [h])

theorem takeWhile_number {cs : List Char} (hcs : ∀ c ∈ cs, isNumberChar c) {rest : Text} (hrest : EndsNumber rest) :
    (ofChars cs ++ rest).takeWhile (·.satisfies isNumberChar) = ofChars cs ∧
      (ofChars cs ++ rest).dropWhile (·.satisfies isNumberChar) = rest := by
  have hall : ∀ c ∈ ofChars cs, c.satisfies isNumberChar := by
    intro c hc
    obtain ⟨d, hd, rfl⟩ := List.mem_map.1 hc
    exact hcs d hd
  rw [List.takeWhile_append_of_pos hall, List.dropWhile_append_of_pos hall]
  cases rest with
  | nil => exact ⟨List.append_nil _, rfl⟩
  | cons c rest =>
    have hc : ¬ c.satisfies isNumberChar = true := by simp [hrest c rfl]
    rw [List.takeWhile_cons_of_neg hc, List.dropWhile_cons_of_neg hc]
    exact ⟨List.append_nil _, rfl⟩

/-- A number at the head of a text. -/
theorem readValue_number {cs : List Char} (hne : cs ≠ []) (hcs : ∀ c ∈ cs, isNumberChar c) {v : Value}
    (hv : number? cs = some v) {rest : Text} (hrest : EndsNumber rest) (fuel : Nat) :
    readValue (fuel + 1) (ofChars cs ++ rest) = some (v, rest) := by
  obtain ⟨htake, hdrop⟩ := takeWhile_number hcs hrest
  obtain ⟨c, cs', rfl⟩ := List.exists_cons_of_ne_nil hne
  have hc : isNumberChar c := hcs c List.mem_cons_self
  -- nothing else begins as a number does
  have hnot {d : Char} {t : Text} (heq : ofChars (c :: cs') ++ rest = .char d :: t) (hd : isNumberChar d = false) :
      False := by
    rw [CodePoint.char.inj (List.cons.inj heq).1, hd] at hc
    cases hc
  have hblank : isJsonBlank (.char c) = false := by
    by_contra hblank
    simp only [isJsonBlank, Bool.not_eq_false, Bool.or_eq_true, beq_iff_eq, CodePoint.char.injEq] at hblank
    rcases hblank with ((rfl | rfl) | rfl) | rfl <;> exact absurd hc (by decide)
  have hskip : skipBlanks (ofChars (c :: cs') ++ rest) = ofChars (c :: cs') ++ rest := skipBlanks_of_not hblank _
  rw [readValue.eq_def]
  dsimp only
  rw [hskip]
  split
  · next heq => exact (hnot heq (by decide)).elim
  · next heq => exact (hnot heq (by decide)).elim
  · next heq => exact (hnot heq (by decide)).elim
  · next heq => exact (hnot heq (by decide)).elim
  · next heq => exact (hnot heq (by decide)).elim
  · next heq => exact (hnot heq (by decide)).elim
  · rw [htake, hdrop, characters_ofChars, hv]
    rfl

theorem string_append (t rest : Text) :
    string t ++ rest = .char '"' :: (t.flatMap escapePoint ++ .char '"' :: rest) := by
  simp [string, Text.ofChars]

theorem readPoints_string (t rest : Text) :
    readPoints (t.flatMap escapePoint ++ .char '"' :: rest).length (t.flatMap escapePoint ++ .char '"' :: rest) =
      some (t, rest) := by
  rw [readPoints_escaped (by simp only [List.length_append, List.length_cons]; omega)]

theorem readValue_string (t rest : Text) (fuel : Nat) :
    readValue (fuel + 1) (string t ++ rest) = some (.str t, rest) := by
  have hquote (inner : Text) : readValue (fuel + 1) (.char '"' :: inner) =
      (readPoints inner.length inner).map fun r => (.str r.1, r.2) := rfl
  rw [string_append, hquote, readPoints_string]
  rfl

/-- A list that is not empty begins with an item. -/
theorem readValue_bracket {c : CodePoint} (hblank : isJsonBlank c = false) (hc : c ≠ .char ']') (t : Text) (fuel : Nat) :
    readValue (fuel + 1) (.char '[' :: c :: t) = (readItems fuel (c :: t)).map fun r => (.list r.1, r.2) := by
  have hbracket : skipBlanks (.char '[' :: c :: t) = .char '[' :: c :: t := rfl
  rw [readValue, hbracket]
  simp only [skipBlanks_of_not hblank]
  split
  · next heq => exact absurd (List.cons.inj heq).1 hc
  · rfl

theorem readValue_brace (t : Text) (fuel : Nat) :
    readValue (fuel + 1) (.char '\x7b' :: .char '"' :: t) =
      (readEntries fuel [] (.char '"' :: t)).map fun r => (.map r.1, r.2) := rfl

theorem readItems_comma {t rest : Text} {v : Value} {fuel : Nat} (h : readValue fuel t = some (v, .char ',' :: rest)) :
    readItems (fuel + 1) t = (readItems fuel rest).map fun r => (v :: r.1, r.2) := by
  rw [readItems, h]
  rfl

theorem readItems_bracket {t rest : Text} {v : Value} {fuel : Nat} (h : readValue fuel t = some (v, .char ']' :: rest)) :
    readItems (fuel + 1) t = some ([v], rest) := by
  rw [readItems, h]
  rfl

/-- After the value of a key, a comma goes on to further entries, and a brace ends them. -/
theorem readEntries_key {key t rest : Text} {v : Value} {c : CodePoint} {fuel : Nat}
    (h : readValue fuel t = some (v, c :: rest)) (known : List (Value × Value)) :
    (c = .char ',' → readEntries (fuel + 1) known (string key ++ .char ':' :: t) =
        readEntries fuel (Value.insert known (.str key) v) rest) ∧
      (c = .char '\x7d' → readEntries (fuel + 1) known (string key ++ .char ':' :: t) =
        some (Value.insert known (.str key) v, rest)) := by
  have hquote (inner : Text) : skipBlanks (.char '"' :: inner) = .char '"' :: inner := rfl
  have hcolon : skipBlanks (.char ':' :: t) = .char ':' :: t := rfl
  rw [string_append, readEntries, hquote]
  constructor
  · rintro rfl
    have hcomma : skipBlanks (.char ',' :: rest) = .char ',' :: rest := rfl
    simp only [readPoints_string, hcolon, h, hcomma]
  · rintro rfl
    have hbrace : skipBlanks (.char '\x7d' :: rest) = .char '\x7d' :: rest := rfl
    simp only [readPoints_string, hcolon, h, hbrace]

/-! ## Data -/

/-- The text of the data: it is printable, begins with something, and is read as the data in front of any text that
does not go on with a number. The first argument of a reader is large enough if it is no less than the length. -/
structure Returns (v : Value) (t : Text) : Prop where
  starts : ∃ c rest, t = c :: rest ∧ isJsonBlank c = false ∧ c ≠ .char ']'
  printable : ∀ c ∈ t, 0x20 ≤ c.value
  reads : ∀ {fuel : Nat} {rest : Text}, t.length ≤ fuel → EndsNumber rest → readValue fuel (t ++ rest) = some (v, rest)

theorem printable_string (t : Text) : ∀ c ∈ string t, 0x20 ≤ c.value := by
  have hhex : ∀ n < 0x20, ∀ c ∈ ofChars ('\\' :: 'u' :: hex 4 n), 0x20 ≤ c.value := by decide +kernel
  intro c hc
  simp only [string, Text.ofChars, List.mem_append, List.map_cons, List.map_nil, List.mem_singleton, List.mem_flatMap] at hc
  rcases hc with (rfl | ⟨d, -, hc⟩) | rfl
  · decide
  · rcases escapePoint_cases d with ⟨e, f, -, he, -, -, hescape⟩ | ⟨e, he, -, hescape⟩ | ⟨hd, -, -, hescape⟩
    · rw [hescape] at hc
      rcases List.mem_cons.1 hc with rfl | hc
      · decide
      · cases List.mem_singleton.1 hc
        exact he
    · rw [hescape] at hc
      exact hhex _ he c hc
    · rw [hescape] at hc
      cases List.mem_singleton.1 hc
      exact hd
  · decide

theorem returns_string (t : Text) : Returns (.str t) (string t) where
  starts := ⟨.char '"', _, rfl, by decide, by decide⟩
  printable := printable_string t
  reads := by
    intro fuel rest hfuel _
    cases fuel with
    | zero => cases hfuel
    | succ fuel => exact readValue_string t rest fuel

theorem printable_number {c : Char} (h : isNumberChar c) : 0x20 ≤ c.toNat ∧ isJsonBlank (.char c) = false ∧ c ≠ ']' := by
  have hascii : c.toNat < 128 := by
    simp only [isNumberChar, Bool.or_eq_true, beq_iff_eq] at h
    rcases h with ((((h | rfl) | rfl) | rfl) | rfl) | rfl
    · exact toNat_lt_of_isAsciiDigit h
    all_goals decide
  have hall : ∀ n < 128, isNumberChar (Char.ofNat n) →
      0x20 ≤ (Char.ofNat n).toNat ∧ isJsonBlank (.char (Char.ofNat n)) = false ∧ Char.ofNat n ≠ ']' := by decide +kernel
  exact forall_ascii (p := fun c => isNumberChar c → 0x20 ≤ c.toNat ∧ isJsonBlank (.char c) = false ∧ c ≠ ']')
    hall hascii h

theorem returns_integer {i : Int} {t : Text} (h : integer i = .ok t) : Returns (.int i) t := by
  obtain ⟨cs, hcs, hne, hall, hnumber⟩ := toList_toString i
  obtain rfl := integer_eq_ok h
  rw [Text.ofString, hcs]
  refine ⟨?_, ?_, ?_⟩
  · obtain ⟨c, cs', rfl⟩ := List.exists_cons_of_ne_nil hne
    obtain ⟨-, hblank, hbracket⟩ := printable_number (hall c List.mem_cons_self)
    exact ⟨.char c, ofChars cs', rfl, hblank, fun heq => hbracket (CodePoint.char.inj heq)⟩
  · intro c hc
    obtain ⟨d, hd, rfl⟩ := List.mem_map.1 hc
    exact (printable_number (hall d hd)).1
  · intro fuel rest hfuel hrest
    cases fuel with
    | zero =>
      rw [ofChars, List.length_map, Nat.le_zero, List.length_eq_zero_iff] at hfuel
      exact absurd hfuel hne
    | succ fuel => exact readValue_number hne hall hnumber hrest fuel

/-- The first item of a list, and the text of the others. -/
theorem writeItems_cons {v : Value} {vs : List Value} {parts : Text} (h : writeItems (v :: vs) = .ok parts) :
    ∃ first others, write v = .ok first ∧ writeItems vs = .ok others ∧
      parts = first ++ (if vs = [] then [] else .char ',' :: others) := by
  obtain ⟨first, hfirst, h⟩ := bind_eq_ok h
  obtain ⟨others, hothers, h⟩ := bind_eq_ok h
  refine ⟨first, others, hfirst, hothers, ?_⟩
  rw [← Except.ok.inj h]
  simp only [List.isEmpty_iff]

/-- The items of a list in front of its closing bracket. -/
theorem readItems_written {items : List Value} (hitems : ∀ v ∈ items, ∀ t, write v = .ok t → Returns v t)
    (hne : items ≠ []) {parts : Text} (h : writeItems items = .ok parts) {fuel : Nat} (hfuel : parts.length < fuel)
    (rest : Text) : readItems fuel (parts ++ .char ']' :: rest) = some (items, rest) := by
  induction items generalizing parts fuel with
  | nil => exact absurd rfl hne
  | cons v vs ih =>
    obtain ⟨hv, hvs⟩ := List.forall_mem_cons.1 hitems
    obtain ⟨first, others, hfirst, hothers, rfl⟩ := writeItems_cons h
    have hreturns := hv first hfirst
    cases fuel with
    | zero => cases hfuel
    | succ fuel =>
      rw [List.length_append] at hfuel
      by_cases hnil : vs = []
      · rw [if_pos hnil, List.append_nil, hnil]
        exact readItems_bracket (hreturns.reads (by omega) (endsNumber_cons (by decide) _))
      · rw [if_neg hnil, List.length_cons] at hfuel
        rw [if_neg hnil, List.append_assoc, List.cons_append,
          readItems_comma (hreturns.reads (by omega) (endsNumber_cons (by decide) _)), ih hvs hnil hothers (by omega)]
        rfl

theorem printable_items {items : List Value} (hitems : ∀ v ∈ items, ∀ t, write v = .ok t → Returns v t) {parts : Text}
    (h : writeItems items = .ok parts) : ∀ c ∈ parts, 0x20 ≤ c.value := by
  induction items generalizing parts with
  | nil =>
    cases h
    exact nofun
  | cons v vs ih =>
    obtain ⟨hv, hvs⟩ := List.forall_mem_cons.1 hitems
    obtain ⟨first, others, hfirst, hothers, rfl⟩ := writeItems_cons h
    refine List.forall_mem_append.2 ⟨(hv first hfirst).printable, ?_⟩
    split
    · exact nofun
    · exact List.forall_mem_cons.2 ⟨by decide, ih hvs hothers⟩

theorem returns_list {items : List Value} (hitems : ∀ v ∈ items, ∀ t, write v = .ok t → Returns v t) {t : Text}
    (h : write (.list items) = .ok t) : Returns (.list items) t := by
  obtain ⟨parts, hparts, h⟩ := bind_eq_ok h
  obtain rfl : t = .char '[' :: (parts ++ [CodePoint.char ']']) := (Except.ok.inj h).symm
  refine ⟨⟨_, _, rfl, by decide, by decide⟩, ?_, ?_⟩
  · refine List.forall_mem_cons.2 ⟨by decide, List.forall_mem_append.2 ⟨printable_items hitems hparts, ?_⟩⟩
    exact List.forall_mem_singleton.2 (by decide)
  · intro fuel rest hfuel _
    rw [List.length_cons, List.length_append] at hfuel
    cases fuel with
    | zero => cases hfuel
    | succ fuel =>
      rw [List.cons_append, List.append_assoc, List.singleton_append]
      cases items with
      | nil =>
        cases hparts
        rfl
      | cons v vs =>
        obtain ⟨first, others, hfirst, -, hwhole⟩ := writeItems_cons hparts
        obtain ⟨c, tail, rfl, hblank, hbracket⟩ := (hitems v List.mem_cons_self first hfirst).starts
        have hread := readItems_written hitems (List.cons_ne_nil _ _) hparts
          (by simp only [List.length_singleton] at hfuel; omega : parts.length < fuel) rest
        rw [hwhole, List.cons_append, List.cons_append] at hread ⊢
        rw [readValue_bracket hblank hbracket, hread]
        rfl

/-- The first entry of a mapping, and the text of the others. -/
theorem writeEntries_cons {key : Text} {v : Value} {es : List (Value × Value)} {parts : Text}
    (h : writeEntries ((.str key, v) :: es) = .ok parts) :
    ∃ value others, write v = .ok value ∧ writeEntries es = .ok others ∧
      parts = string key ++ .char ':' :: (value ++ (if es = [] then [] else .char ',' :: others)) := by
  obtain ⟨key', hkey, h⟩ := bind_eq_ok h
  obtain ⟨value, hvalue, h⟩ := bind_eq_ok h
  obtain ⟨others, hothers, h⟩ := bind_eq_ok h
  obtain rfl := Except.ok.inj hkey
  refine ⟨value, others, hvalue, hothers, ?_⟩
  rw [← Except.ok.inj h]
  simp [Text.ofChars, List.isEmpty_iff]

/-- The entries of a mapping in front of its closing brace: they are added to those before. -/
theorem readEntries_written {entries : List (Value × Value)} (hkeys : ∀ e ∈ entries, ∃ t, e.1 = .str t)
    (hvalues : ∀ e ∈ entries, ∀ t, write e.2 = .ok t → Returns e.2 t) (hne : entries ≠ []) {parts : Text}
    (h : writeEntries entries = .ok parts) {fuel : Nat} (hfuel : parts.length < fuel) (known : List (Value × Value))
    (rest : Text) : readEntries fuel known (parts ++ .char '\x7d' :: rest) = some (Value.gather known entries, rest) := by
  induction entries generalizing parts fuel known with
  | nil => exact absurd rfl hne
  | cons e es ih =>
    obtain ⟨k, v⟩ := e
    obtain ⟨⟨key, hkey⟩, hrestKeys⟩ := List.forall_mem_cons.1 hkeys
    obtain ⟨hvalue, hrestValues⟩ := List.forall_mem_cons.1 hvalues
    obtain rfl : k = .str key := hkey
    obtain ⟨value, others, hv, hothers, rfl⟩ := writeEntries_cons h
    have hreturns := hvalue value hv
    cases fuel with
    | zero => cases hfuel
    | succ fuel =>
      rw [List.length_append, List.length_cons, List.length_append] at hfuel
      rw [List.append_assoc, List.cons_append, List.append_assoc]
      by_cases hnil : es = []
      · rw [if_pos hnil, List.nil_append, hnil]
        exact (readEntries_key (hreturns.reads (by omega) (endsNumber_cons (by decide) _)) known).2 rfl
      · rw [if_neg hnil, List.length_cons] at hfuel
        rw [if_neg hnil, List.cons_append,
          (readEntries_key (hreturns.reads (by omega) (endsNumber_cons (by decide) _)) known).1 rfl]
        exact ih hrestKeys hrestValues hnil hothers (by omega) _

theorem printable_entries {entries : List (Value × Value)} (hkeys : ∀ e ∈ entries, ∃ t, e.1 = .str t)
    (hvalues : ∀ e ∈ entries, ∀ t, write e.2 = .ok t → Returns e.2 t) {parts : Text}
    (h : writeEntries entries = .ok parts) : ∀ c ∈ parts, 0x20 ≤ c.value := by
  induction entries generalizing parts with
  | nil =>
    cases h
    exact nofun
  | cons e es ih =>
    obtain ⟨k, v⟩ := e
    obtain ⟨⟨key, hkey⟩, hrestKeys⟩ := List.forall_mem_cons.1 hkeys
    obtain ⟨hvalue, hrestValues⟩ := List.forall_mem_cons.1 hvalues
    obtain rfl : k = .str key := hkey
    obtain ⟨value, others, hv, hothers, rfl⟩ := writeEntries_cons h
    refine List.forall_mem_append.2 ⟨printable_string key, List.forall_mem_cons.2 ⟨by decide, ?_⟩⟩
    refine List.forall_mem_append.2 ⟨(hvalue value hv).printable, ?_⟩
    split
    · exact nofun
    · exact List.forall_mem_cons.2 ⟨by decide, ih hrestKeys hrestValues hothers⟩

theorem returns_map {entries : List (Value × Value)} (hkeys : ∀ e ∈ entries, ∃ t, e.1 = .str t)
    (hdistinct : Value.KeysDistinct entries) (hvalues : ∀ e ∈ entries, ∀ t, write e.2 = .ok t → Returns e.2 t)
    {t : Text} (h : write (.map entries) = .ok t) : Returns (.map entries) t := by
  obtain ⟨parts, hparts, h⟩ := bind_eq_ok h
  obtain rfl : t = .char '\x7b' :: (parts ++ [CodePoint.char '\x7d']) := (Except.ok.inj h).symm
  refine ⟨⟨_, _, rfl, by decide, by decide⟩, ?_, ?_⟩
  · refine List.forall_mem_cons.2 ⟨by decide, List.forall_mem_append.2 ⟨printable_entries hkeys hvalues hparts, ?_⟩⟩
    exact List.forall_mem_singleton.2 (by decide)
  · intro fuel rest hfuel _
    rw [List.length_cons, List.length_append] at hfuel
    cases fuel with
    | zero => cases hfuel
    | succ fuel =>
      rw [List.cons_append, List.append_assoc, List.singleton_append]
      cases entries with
      | nil =>
        cases hparts
        rfl
      | cons e es =>
        obtain ⟨k, v⟩ := e
        obtain ⟨key, hkey⟩ := hkeys _ List.mem_cons_self
        obtain rfl : k = .str key := hkey
        obtain ⟨value, others, -, -, hwhole⟩ := writeEntries_cons hparts
        have hread := readEntries_written hkeys hvalues (List.cons_ne_nil _ _) hparts
          (by simp only [List.length_singleton] at hfuel; omega : parts.length < fuel) [] rest
        have hgather : Value.gather [] ((.str key, v) :: es) = (.str key, v) :: es := Value.gather_of_keysDistinct hdistinct
        rw [hgather, hwhole] at hread
        rw [hwhole]
        exact (readValue_brace _ fuel).trans (congrArg _ hread)

theorem Tree.returns {v : Value} (hv : Tree v) : ∀ t, write v = .ok t → Returns v t := by
  have hword {v : Value} {t : Text} (hstart : ∃ c rest, t = c :: rest ∧ isJsonBlank c = false ∧ c ≠ .char ']')
      (hprintable : ∀ c ∈ t, 0x20 ≤ c.value) (hread : ∀ fuel rest, readValue (fuel + 1) (t ++ rest) = some (v, rest)) :
      Returns v t := by
    refine ⟨hstart, hprintable, ?_⟩
    intro fuel rest hfuel _
    obtain ⟨c, tail, rfl, -⟩ := hstart
    cases fuel with
    | zero => cases hfuel
    | succ fuel => exact hread fuel rest
  induction hv with
  | null =>
    rintro t h
    cases h
    exact hword ⟨_, _, rfl, by decide, by decide⟩ (by decide) fun _ _ => rfl
  | bool b =>
    rintro t h
    cases h
    cases b
    · exact hword ⟨_, _, rfl, by decide, by decide⟩ (by decide) fun _ _ => rfl
    · exact hword ⟨_, _, rfl, by decide, by decide⟩ (by decide) fun _ _ => rfl
  | int _ => exact fun t h => returns_integer h
  | str s =>
    rintro t h
    cases h
    exact returns_string s
  | list _ ih => exact fun t h => returns_list ih h
  | map hkeys hdistinct _ ih => exact fun t h => returns_map hkeys hdistinct ih h

/-- A tree is written, without control characters, and read back as the same tree. -/
theorem Tree.read_of_write {v : Value} (hv : Tree v) :
    ∃ t, write v = .ok t ∧ read t = some v ∧ ∀ c ∈ t, 0x20 ≤ c.value := by
  cases ht : write v with
  | error f =>
    have hok := (isOk_write v).2 hv.hasText
    rw [ht] at hok
    cases hok
  | ok t =>
    have hreturns := hv.returns t ht
    have hread : readValue (t.length + 1) (t ++ []) = some (v, []) := hreturns.reads (Nat.le_succ t.length) nofun
    rw [List.append_nil] at hread
    refine ⟨t, rfl, ?_, hreturns.printable⟩
    rw [read, hread]
    rfl

end BlockNotebook.Json
