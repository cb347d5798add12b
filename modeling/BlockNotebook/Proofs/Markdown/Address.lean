import BlockNotebook.Markdown.Address
import BlockNotebook.Proofs.Number.Reading
import BlockNotebook.Proofs.Text.Split
import Mathlib.Data.List.Forall2
import Mathlib.Data.List.TakeWhile
/-!
Where the address of an image leads.

An address is kept if its own text begins like that of an image in an address, or if what a browser reads of it
leads to a host of the web (`isImageAddress_iff`). A browser reads less than what is written: it passes over
tabs and line ends, and over controls in front. So no address that is kept has another scheme in a browser,
however the scheme is written (`isImageAddress_safe`).
-/

namespace BlockNotebook.Markdown

open Text

/-! ## Words in letters of either case -/

/-- Letters outside ASCII that match a letter of a pattern when case is ignored. -/
def otherLetters : List (Char × Char) := [('i', 'İ'), ('i', 'ı'), ('s', 'ſ'), ('k', '\u212A')]

/-- The code point matches a character of a pattern when case is ignored. -/
inductive Alike (p : Char) : CodePoint → Prop
  | ascii {c : Char} (h : asciiLower c = p) : Alike p c
  | other {c : Char} (h : (p, c) ∈ otherLetters) : Alike p c

/-- The text begins with a word, in letters of either case. -/
def Begins (word : String) (t : Text) : Prop := ∃ front back, t = front ++ back ∧ List.Forall₂ Alike word.toList front

theorem sameLetter_iff {p : Char} (hp : p ≠ '\uFFFD') (c : CodePoint) : sameLetter p c.character = true ↔ Alike p c := by
  cases c with
  | char c =>
    simp only [sameLetter, CodePoint.character, Bool.or_eq_true, Bool.and_eq_true, beq_iff_eq]
    constructor
    · rintro (((h | ⟨rfl, rfl | rfl⟩) | ⟨rfl, rfl⟩) | ⟨rfl, rfl⟩)
      · exact .ascii h.symm
      all_goals exact .other (by decide)
    · rintro (h | h)
      · exact .inl (.inl (.inl h.symm))
      · simp only [otherLetters, List.mem_cons, Prod.mk.injEq, List.not_mem_nil, or_false] at h
        grind
  | surrogate n =>
    constructor
    · intro h
      have hstand : sameLetter p '\uFFFD' = true := h
      exact absurd (by simpa [sameLetter, asciiLower] using hstand) hp
    · intro h
      cases h

/-- What is left behind a word. -/
theorem afterWord_iff {word : List Char} (hword : '\uFFFD' ∉ word) {t : Text} {rest : List Char} :
    afterWord word t.characters = some rest ↔
      ∃ front back, t = front ++ back ∧ back.characters = rest ∧ List.Forall₂ Alike word front := by
  induction word generalizing t with
  | nil =>
    rw [afterWord, Option.some_inj]
    constructor
    · exact fun h => ⟨[], t, rfl, h, .nil⟩
    · rintro ⟨front, back, rfl, h, hfront⟩
      cases hfront
      exact h
  | cons p ps ih =>
    obtain ⟨hp, hps⟩ := not_or.1 (mt List.mem_cons.2 hword)
    cases t with
    | nil =>
      constructor
      · intro h
        cases h
      · rintro ⟨front, back, h, -, hfront⟩
        cases hfront
        cases h
    | cons c t =>
      rw [characters, List.map_cons, ← characters, afterWord]
      split
      · next hc =>
        have hc := (sameLetter_iff (Ne.symm hp) c).1 hc
        rw [ih hps]
        constructor
        · rintro ⟨front, back, rfl, h, hfront⟩
          exact ⟨c :: front, back, rfl, h, .cons hc hfront⟩
        · rintro ⟨front, back, ht, h, hfront⟩
          cases hfront with
          | cons _ hfront =>
            obtain ⟨rfl, rfl⟩ := List.cons.inj ht
            exact ⟨_, back, rfl, h, hfront⟩
      · next hc =>
        constructor
        · intro h
          cases h
        · rintro ⟨front, back, ht, -, hfront⟩
          cases hfront with
          | cons hfirst _ =>
            obtain ⟨rfl, -⟩ := List.cons.inj ht
            exact absurd ((sameLetter_iff (Ne.symm hp) c).2 hfirst) hc

theorem startsWith_iff {word : String} (hword : '\uFFFD' ∉ word.toList) (t : Text) :
    startsWith word t.characters = true ↔ Begins word t := by
  rw [startsWith, Option.isSome_iff_exists]
  simp only [afterWord_iff hword]
  exact ⟨fun ⟨_, front, back, ht, _, hfront⟩ => ⟨front, back, ht, hfront⟩,
    fun ⟨front, back, ht, hfront⟩ => ⟨_, front, back, ht, rfl, hfront⟩⟩

theorem afterWord_append (a b cs : List Char) : afterWord (a ++ b) cs = (afterWord a cs).bind (afterWord b) := by
  induction a generalizing cs with
  | nil => rfl
  | cons p a ih =>
    cases cs with
    | nil => rfl
    | cons c cs =>
      rw [List.cons_append, afterWord, afterWord]
      split
      · exact ih cs
      · rfl

/-! ## Images in addresses -/

/-- What may stand between the kind of an image and its data. -/
def imageMarks : List String := [",", ";base64,"]

/-- The address begins like that of an image of a known kind. -/
def HoldsImage (t : Text) : Prop :=
  ∃ kind ∈ imageTypes, ∃ mark ∈ imageMarks, Begins ("data:image/" ++ kind ++ mark) t

theorem holdsImage_eq (cs : List Char) : holdsImage cs = imageTypes.any fun kind =>
    imageMarks.any fun mark => startsWith ("data:image/" ++ kind ++ mark) cs := by
  have hword (kind mark : String) : startsWith ("data:image/" ++ kind ++ mark) cs =
      (((afterWord "data:image/".toList cs).bind (afterWord kind.toList)).bind (afterWord mark.toList)).isSome := by
    rw [startsWith, String.toList_append, String.toList_append, afterWord_append, afterWord_append]
  simp only [hword, holdsImage]
  cases afterWord "data:image/".toList cs with
  | none => simp
  | some rest =>
    refine congrArg imageTypes.any (funext fun kind => ?_)
    rw [Option.bind_some]
    cases afterWord kind.toList rest with
    | none => simp
    | some rest => simp [imageMarks, startsWith]

theorem holdsImage_iff (t : Text) : holdsImage t.characters = true ↔ HoldsImage t := by
  have hword : ∀ kind ∈ imageTypes, ∀ mark ∈ imageMarks, '\uFFFD' ∉ ("data:image/" ++ kind ++ mark).toList := by
    decide +kernel
  rw [holdsImage_eq]
  simp only [List.any_eq_true, HoldsImage]
  constructor
  · rintro ⟨kind, hkind, mark, hmark, h⟩
    exact ⟨kind, hkind, mark, hmark, (startsWith_iff (hword kind hkind mark hmark) t).1 h⟩
  · rintro ⟨kind, hkind, mark, hmark, h⟩
    exact ⟨kind, hkind, mark, hmark, (startsWith_iff (hword kind hkind mark hmark) t).2 h⟩

/-! ## What a browser reads -/

/-- What a browser reads of an address: no control or space in front, no tabs and line ends, and a stand-in for each
surrogate. -/
def browserText (t : Text) : List Char := (t.characters.dropWhile isControlOrSpace).filter (!isPassedOver ·)

/-- What is read begins with a scheme, in letters of either case, and a colon. -/
def HasScheme (scheme : String) (cs : List Char) : Prop :=
  ∃ word rest, cs = word ++ ':' :: rest ∧ word.map asciiLower = scheme.toList

/-- The characters that end the host of an address. -/
def hostEnds : List Char := ['/', '?', '#']

/-- What is read leads to a host under a scheme. -/
def LeadsTo (scheme : String) (host cs : List Char) : Prop :=
  ∃ word rest, cs = word ++ ':' :: '/' :: '/' :: (host ++ rest) ∧ word.map asciiLower = scheme.toList ∧
    (∀ c ∈ host, c ∉ hostEnds) ∧ ∀ c ∈ rest.head?, c ∈ hostEnds

theorem LeadsTo.hasScheme {scheme : String} {host cs : List Char} (h : LeadsTo scheme host cs) : HasScheme scheme cs := by
  obtain ⟨word, rest, hcs, hword, -, -⟩ := h
  exact ⟨word, _, hcs, hword⟩

/-- A scheme holds no colon, so there is one at most. -/
theorem HasScheme.unique {a b : String} (ha : ':' ∉ a.toList) (hb : ':' ∉ b.toList) {cs : List Char}
    (h : HasScheme a cs) (h' : HasScheme b cs) : a = b := by
  have hcolon {word : List Char} {s : String} (hs : ':' ∉ s.toList) (hword : word.map asciiLower = s.toList) :
      ':' ∉ word := by
    intro hmem
    have hlower : asciiLower ':' ∈ word.map asciiLower := List.mem_map_of_mem hmem
    exact hs (hword ▸ hlower)
  obtain ⟨word, rest, rfl, hword⟩ := h
  obtain ⟨word', rest', hcs, hword'⟩ := h'
  obtain ⟨rfl, -⟩ := append_cons_inj (hcolon ha hword) (hcolon hb hword') hcs
  exact String.toList_inj.1 (hword.symm.trans hword')

theorem splitScheme_eq {cs scheme rest : List Char} (h : splitScheme cs = (scheme, rest)) (hne : scheme ≠ []) :
    ∃ word, cs = word ++ ':' :: rest ∧ word.map asciiLower = scheme := by
  rw [splitScheme, drop_length_takeWhile] at h
  split at h
  · next first others c tail hword htail =>
    split at h
    · obtain ⟨rfl, rfl⟩ := Prod.mk.inj h
      have hcolon : c = ':' := by
        have hhead := List.head?_dropWhile_not (· != ':') cs
        rw [htail] at hhead
        simpa using hhead
      rw [hcolon] at htail
      exact ⟨cs.takeWhile (· != ':'), by rw [← htail, List.takeWhile_append_dropWhile], rfl⟩
    · exact absurd (Prod.mk.inj h).1.symm hne
  · exact absurd (Prod.mk.inj h).1.symm hne

theorem splitScheme_of_letters {word : List Char} (hne : word ≠ []) (hword : ∀ c ∈ word, isAsciiLetter c)
    (rest : List Char) : splitScheme (word ++ ':' :: rest) = (word.map asciiLower, rest) := by
  have hcolon : ∀ c ∈ word, (c != ':') = true := fun c hc => by
    have hletter := hword c hc
    revert hletter
    rw [bne_iff_ne]
    rintro hletter rfl
    exact absurd hletter (by decide)
  have htake : (word ++ ':' :: rest).takeWhile (· != ':') = word := by
    rw [List.takeWhile_append_of_pos hcolon]
    exact List.append_nil word
  have hall : word.all isSchemeChar := List.all_eq_true.2 fun c hc => by simp [isSchemeChar, hword c hc]
  rw [splitScheme, htake, List.drop_left]
  cases word with
  | nil => exact absurd rfl hne
  | cons first others => simp only [hall, hword first List.mem_cons_self, Bool.and_self, if_true]

theorem isAsciiLetter_of_asciiLower {c : Char} (h : isAsciiLetter (asciiLower c)) : isAsciiLetter c := by
  unfold asciiLower at h
  split at h
  · next hc => simp [isAsciiLetter, hc]
  · exact h

theorem hostPart_slashes (rest : List Char) :
    hostPart ('/' :: '/' :: rest) = rest.takeWhile (!hostEnds.contains ·) := by
  have hends : (fun c => c != '/' && c != '?' && c != '#') = fun c => !hostEnds.contains c := by
    funext c
    rw [Bool.eq_iff_iff]
    simp [hostEnds, and_assoc]
  rw [hostPart, hends]

theorem hostPart_eq {host rest : List Char} (hhost : ∀ c ∈ host, c ∉ hostEnds) (hrest : ∀ c ∈ rest.head?, c ∈ hostEnds) :
    hostPart ('/' :: '/' :: (host ++ rest)) = host := by
  rw [hostPart_slashes, List.takeWhile_append_of_pos fun c hc => by simpa using hhost c hc]
  cases rest with
  | nil => simp
  | cons c rest => simp [hrest c rfl]

theorem exists_of_hostPart {rest : List Char} (h : hostPart rest ≠ []) : ∃ after,
    rest = '/' :: '/' :: (hostPart rest ++ after) ∧ (∀ c ∈ hostPart rest, c ∉ hostEnds) ∧
      ∀ c ∈ after.head?, c ∈ hostEnds := by
  obtain ⟨rest, rfl⟩ : ∃ r, rest = '/' :: '/' :: r := by
    unfold hostPart at h
    split at h
    · exact ⟨_, rfl⟩
    · exact absurd rfl h
  rw [hostPart_slashes]
  refine ⟨rest.dropWhile (!hostEnds.contains ·), by rw [List.takeWhile_append_dropWhile], ?_, ?_⟩
  · intro c hc
    simpa using List.mem_takeWhile_imp hc
  · intro c hc
    have hhead := List.head?_dropWhile_not (!hostEnds.contains ·) rest
    rw [Option.mem_def.1 hc] at hhead
    simpa using hhead

/-- The schemes of the web. -/
def webSchemes : List String := ["http", "https"]

theorem letters_of_webScheme : ∀ scheme ∈ webSchemes, scheme.toList ≠ [] ∧ scheme.toList.all isAsciiLetter := by
  decide +kernel

theorem leadsToWeb_iff (t : Text) : leadsToWeb t.characters = true ↔
    ∃ scheme ∈ webSchemes, ∃ host, LeadsTo scheme host (browserText t) ∧ isHost host := by
  rw [leadsToWeb, ← browserText]
  constructor
  · intro h
    rcases hsplit : splitScheme (browserText t) with ⟨scheme, rest⟩
    simp only [hsplit, Bool.and_eq_true, Bool.or_eq_true, beq_iff_eq] at h
    obtain ⟨hscheme, hhost⟩ := h
    obtain ⟨name, hname, rfl⟩ : ∃ name ∈ webSchemes, name.toList = scheme := by
      rcases hscheme with rfl | rfl
      · exact ⟨"http", by decide, rfl⟩
      · exact ⟨"https", by decide, rfl⟩
    have hne : hostPart rest ≠ [] := by
      intro hnil
      rw [hnil] at hhost
      exact absurd hhost (by decide)
    obtain ⟨word, hcs, hword⟩ := splitScheme_eq hsplit (letters_of_webScheme name hname).1
    obtain ⟨after, hrest, hin, hafter⟩ := exists_of_hostPart hne
    exact ⟨name, hname, hostPart rest, ⟨word, after, by rw [hcs, ← hrest], hword, hin, hafter⟩, hhost⟩
  · rintro ⟨scheme, hscheme, host, ⟨word, rest, hcs, hword, hhost, hrest⟩, hisHost⟩
    have hnames : ∀ s ∈ webSchemes, s.toList = "http".toList ∨ s.toList = "https".toList := by decide +kernel
    obtain ⟨hne, hall⟩ := letters_of_webScheme scheme hscheme
    have hne : word ≠ [] := by
      rintro rfl
      exact hne hword.symm
    have hletters : ∀ c ∈ word, isAsciiLetter c := fun c hc =>
      isAsciiLetter_of_asciiLower (List.all_eq_true.1 hall _ (hword ▸ List.mem_map_of_mem hc))
    rw [hcs, splitScheme_of_letters hne hletters, hword]
    simp only [hostPart_eq hhost hrest, hisHost, Bool.and_true, Bool.or_eq_true, beq_iff_eq]
    exact hnames scheme hscheme

/-! ## What is written and what is read -/

/-- A character that only an ASCII letter matches, and that a browser does not pass over. -/
def isPlainLetter (p : Char) : Bool := !(otherLetters.map (·.1)).contains p && decide (0x20 < p.toNat)

theorem asciiLower_of_alike {p : Char} (hp : isPlainLetter p) {c : CodePoint} (h : Alike p c) :
    asciiLower c.character = p := by
  cases h with
  | ascii h => exact h
  | other h =>
    have hmem : p ∈ otherLetters.map (·.1) := List.mem_map_of_mem (f := (·.1)) h
    simp [isPlainLetter, hmem] at hp

theorem not_isControlOrSpace {c : Char} (h : 0x20 < (asciiLower c).toNat) : isControlOrSpace c = false := by
  unfold asciiLower at h
  split at h
  · next hc =>
    simp only [Bool.and_eq_true, decide_eq_true_eq] at hc
    have hcapital : 'A'.toNat ≤ c.toNat := hc.1
    have hvalue : 'A'.toNat = 0x41 := rfl
    simp only [isControlOrSpace, decide_eq_false_iff_not]
    omega
  · simpa [isControlOrSpace] using h

theorem isControlOrSpace_of_isPassedOver {c : Char} (h : isPassedOver c) : isControlOrSpace c := by
  simp only [isPassedOver, Bool.or_eq_true, beq_iff_eq] at h
  rcases h with (rfl | rfl) | rfl <;> decide

/-- A word that stands at the very start of an address is read as it stands. -/
theorem browserText_of_alike {word : List Char} (hword : ∀ p ∈ word, isPlainLetter p) {front : Text}
    (h : List.Forall₂ Alike word front) (hne : word ≠ []) (back : Text) :
    ∃ rest, browserText (front ++ back) = front.characters ++ rest ∧ front.characters.map asciiLower = word := by
  have hlower : front.characters.map asciiLower = word := by
    clear hne
    induction h with
    | nil => rfl
    | cons hc _ ih =>
      obtain ⟨hp, hps⟩ := List.forall_mem_cons.1 hword
      rw [characters, List.map_cons, List.map_cons, ← characters, ih hps, asciiLower_of_alike hp hc]
  have hread : ∀ c ∈ front.characters, isControlOrSpace c = false := fun c hc => by
    have hplain := hword _ (hlower ▸ List.mem_map_of_mem (f := asciiLower) hc)
    simp only [isPlainLetter, Bool.and_eq_true, decide_eq_true_eq] at hplain
    exact not_isControlOrSpace hplain.2
  have hkept : front.characters.filter (!isPassedOver ·) = front.characters := by
    refine List.filter_eq_self.2 fun c hc => ?_
    by_contra hpassed
    have hcontrol := isControlOrSpace_of_isPassedOver (by simpa using hpassed)
    rw [hread c hc] at hcontrol
    cases hcontrol
  have hstart : (front.characters ++ back.characters).dropWhile isControlOrSpace =
      front.characters ++ back.characters := by
    cases hfront : front.characters with
    | nil =>
      rw [hfront] at hlower
      exact absurd hlower.symm hne
    | cons c rest => exact List.dropWhile_cons_of_neg (by simp [hread c (hfront ▸ List.mem_cons_self)])
  refine ⟨back.characters.filter (!isPassedOver ·), ?_, hlower⟩
  rw [browserText, characters, List.map_append, ← characters, ← characters, hstart, List.filter_append, hkept]

/-- The letter that begins what a browser reads, in lower case. -/
def firstLetter? (t : Text) : Option Char := (browserText t).head?.map asciiLower

theorem Begins.firstLetter? {word : String} {t : Text} (h : Begins word t) {p : Char} (hp : word.toList.head? = some p)
    (hplain : isPlainLetter p) : firstLetter? t = some p := by
  obtain ⟨front, back, rfl, hfront⟩ := h
  obtain ⟨ps, hword⟩ := List.head?_eq_some_iff.1 hp
  rw [hword] at hfront
  cases hfront with
  | @cons _ c _ front hc _ =>
    obtain ⟨rest, hread, hlower⟩ := browserText_of_alike (List.forall_mem_singleton.2 hplain)
      (List.Forall₂.cons hc .nil) (List.cons_ne_nil p []) (front ++ back)
    rw [Markdown.firstLetter?, List.cons_append, ← List.singleton_append, hread]
    simpa [characters] using hlower

theorem Begins.of_prefix {word start : String} {t : Text} (h : Begins word t) (hstart : start.toList <+: word.toList) :
    Begins start t := by
  obtain ⟨front, back, rfl, hfront⟩ := h
  obtain ⟨more, hword⟩ := hstart
  rw [← hword] at hfront
  have htake := List.forall₂_take_append front start.toList more hfront.flip
  refine ⟨front.take start.toList.length, front.drop start.toList.length ++ back, ?_, htake.flip⟩
  rw [← List.append_assoc, List.take_append_drop]

theorem LeadsTo.firstLetter? {scheme : String} (hscheme : scheme ∈ webSchemes) {host : List Char} {t : Text}
    (h : LeadsTo scheme host (browserText t)) : Markdown.firstLetter? t = some 'h' := by
  have hhead : ∀ s ∈ webSchemes, s.toList.head? = some 'h' := by decide +kernel
  obtain ⟨word, rest, hcs, hword, -, -⟩ := h
  have hhead := hhead scheme hscheme
  rw [← hword] at hhead
  cases word with
  | nil => cases hhead
  | cons c word => simpa [Markdown.firstLetter?, hcs] using hhead

theorem HoldsImage.begins {t : Text} (h : HoldsImage t) : Begins "data:" t := by
  obtain ⟨kind, -, mark, -, h⟩ := h
  refine h.of_prefix ⟨"image/".toList ++ kind.toList ++ mark.toList, ?_⟩
  simp only [String.toList_append, ← List.append_assoc]
  rfl

theorem eq_colon_of_asciiLower {c : Char} (h : asciiLower c = ':') : c = ':' := by
  by_cases hc : c.toNat < 128
  · exact Number.forall_ascii (p := fun c => asciiLower c = ':' → c = ':') (by decide +kernel) hc h
  · unfold asciiLower at h
    split at h
    · next hcapital =>
      simp only [Bool.and_eq_true, decide_eq_true_eq] at hcapital
      have hhigh : c.toNat ≤ 90 := hcapital.2
      omega
    · exact h

/-- A browser reads the address of an image under the scheme of data. -/
theorem HoldsImage.hasScheme {t : Text} (h : HoldsImage t) : HasScheme "data" (browserText t) := by
  obtain ⟨front, back, rfl, hfront⟩ := h.begins
  have hplain : "data:".toList.all isPlainLetter := by decide +kernel
  obtain ⟨rest, hread, hlower⟩ := browserText_of_alike (List.all_eq_true.1 hplain) hfront (by decide) back
  obtain ⟨word, colon, hsplit, hword, hcolon⟩ := List.map_eq_append_iff.1
    (hlower.trans (show "data:".toList = "data".toList ++ [':'] from rfl))
  obtain ⟨c, rfl, hc⟩ := List.map_eq_singleton_iff.1 hcolon
  refine ⟨word, rest, ?_, hword⟩
  rw [hread, hsplit, eq_colon_of_asciiLower hc, List.append_assoc, List.singleton_append]

/-! ## Addresses of images -/

/-- The addresses that are kept: those that begin like that of an image in an address, and those that lead a browser to
a host of the web. -/
theorem isImageAddress_iff (t : Text) : isImageAddress t = true ↔
    t = [] ∨ HoldsImage t ∨ ∃ scheme ∈ webSchemes, ∃ host, LeadsTo scheme host (browserText t) ∧ isHost host := by
  have hletter {p q : Char} (hp : firstLetter? t = some p) (hq : firstLetter? t = some q) : p = q :=
    Option.some_inj.1 (hp.symm.trans hq)
  have hd (h : Begins "data:" t) : firstLetter? t = some 'd' := h.firstLetter? rfl (by decide)
  by_cases hempty : t = []
  · simp [isImageAddress, hempty, characters]
  have hnotEmpty : t.characters.isEmpty = false := by simpa [characters] using hempty
  simp only [isImageAddress, hnotEmpty, hempty, Bool.false_eq_true, if_false, false_or]
  by_cases hscript : startsWith "javascript:" t.characters = true
  · have hj : firstLetter? t = some 'j' :=
      ((startsWith_iff (by decide) t).1 hscript).firstLetter? rfl (by decide)
    rw [if_pos hscript]
    constructor
    · intro h
      cases h
    · rintro (h | ⟨scheme, hscheme, host, hleads, -⟩)
      · exact absurd (hletter hj (hd h.begins)) (by decide)
      · exact absurd (hletter hj (hleads.firstLetter? hscheme)) (by decide)
  rw [if_neg hscript]
  by_cases hdata : startsWith "data:" t.characters = true
  · rw [if_pos hdata, holdsImage_iff]
    refine ⟨.inl, ?_⟩
    rintro (h | ⟨scheme, hscheme, host, hleads, -⟩)
    · exact h
    · exact absurd (hletter (hd ((startsWith_iff (by decide) t).1 hdata)) (hleads.firstLetter? hscheme)) (by decide)
  · rw [if_neg hdata, leadsToWeb_iff]
    refine ⟨.inr, ?_⟩
    rintro (h | h)
    · exact absurd ((startsWith_iff (by decide) t).2 h.begins) hdata
    · exact h

/-- An address that is kept begins like that of an image, or leads a browser to a host of the web; no browser finds
another scheme in it. -/
theorem isImageAddress_safe {t : Text} (hne : t ≠ []) (h : isImageAddress t = true) :
    (HoldsImage t ∨ ∃ scheme ∈ webSchemes, ∃ c host, LeadsTo scheme (c :: host) (browserText t)) ∧
      (∃ scheme ∈ "data" :: webSchemes, HasScheme scheme (browserText t)) ∧
        ∀ scheme ∈ ["javascript", "vbscript", "file"], ¬ HasScheme scheme (browserText t) := by
  have hschemes : ∀ s ∈ "data" :: webSchemes, ':' ∉ s.toList ∧
      ∀ other ∈ ["javascript", "vbscript", "file"], ':' ∉ other.toList ∧ s ≠ other := by
    decide +kernel
  have hleads : HoldsImage t ∨ ∃ scheme ∈ webSchemes, ∃ c host, LeadsTo scheme (c :: host) (browserText t) := by
    refine ((isImageAddress_iff t).1 h |>.resolve_left hne).imp_right ?_
    rintro ⟨scheme, hscheme, host, hleads, hhost⟩
    cases host with
    | nil => exact absurd hhost (by decide)
    | cons c host => exact ⟨scheme, hscheme, c, host, hleads⟩
  obtain ⟨scheme, hscheme, hhas⟩ : ∃ scheme ∈ "data" :: webSchemes, HasScheme scheme (browserText t) := by
    rcases hleads with himage | ⟨scheme, hscheme, c, host, hleads⟩
    · exact ⟨"data", List.mem_cons_self, himage.hasScheme⟩
    · exact ⟨scheme, List.mem_cons_of_mem _ hscheme, hleads.hasScheme⟩
  refine ⟨hleads, ⟨scheme, hscheme, hhas⟩, fun other hother hhas' => ?_⟩
  obtain ⟨hcolon, hothers⟩ := hschemes scheme hscheme
  obtain ⟨hcolon', hne'⟩ := hothers other hother
  exact hne' (hhas.unique hcolon hcolon' hhas')

/-- An address with a control and a space in front, whose scheme is in letters of both cases with a tab and a line end
between them. -/
def splitAddress : Text := "\x01 hT\ttP\ns://a/b"

theorem splitAddress_safe : splitAddress ≠ [] ∧ isImageAddress splitAddress = true ∧
    (∃ scheme ∈ webSchemes, ∃ c host, LeadsTo scheme (c :: host) (browserText splitAddress)) ∧
      ∀ scheme ∈ ["javascript", "vbscript", "file"], ¬ HasScheme scheme (browserText splitAddress) := by
  have hne : splitAddress ≠ [] := by decide
  have hkept : isImageAddress splitAddress = true := by decide +kernel
  have hnot : ¬ HoldsImage splitAddress := by
    rw [← holdsImage_iff]
    decide +kernel
  obtain ⟨hleads, -, hothers⟩ := isImageAddress_safe hne hkept
  exact ⟨hne, hkept, hleads.resolve_left hnot, hothers⟩

end BlockNotebook.Markdown
