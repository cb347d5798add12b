import BlockNotebook.Proofs.Code.Literal
import BlockNotebook.Code.Name
import Mathlib.Data.List.Pairwise
/-!
Code as a frame with places filled in.

A frame is fixed text with places for a name, for a literal and for a list of
literals. `ReadsAs` says that code is a frame with its places filled, and by
what. Two checks on frames make the reading the only one: names end where
something else begins (`Frame.isDelimited`), and two frames part at some place
whatever fills them (`Frame.isApart`).
-/

namespace BlockNotebook.Code

open Text

/-! ## Names -/

def isNamePoint (c : CodePoint) : Bool := c.satisfies isNameChar

/-- A name: an ASCII letter or a low line, then more of these and digits. -/
structure Identifier (t : Text) : Prop where
  starts : ∃ c rest, t = .char c :: rest ∧ startsName c
  holds : ∀ c ∈ t, isNamePoint c

theorem identifierPart_identifier {cs : List Char} (h : identifierPart cs ≠ []) :
    Identifier (ofChars (identifierPart cs)) := by
  constructor
  · cases he : identifierPart cs with
    | nil => exact absurd he h
    | cons c rest =>
      have hstart := List.head?_dropWhile_not (fun c => !startsName c) ((joinBlanks false cs).filter isNameChar)
      rw [← identifierPart, he] at hstart
      exact ⟨c, ofChars rest, rfl, by simpa using hstart⟩
  · intro p hp
    obtain ⟨c, hc, rfl⟩ := List.mem_map.1 hp
    exact (List.mem_filter.1 ((List.dropWhile_sublist _).subset hc)).2

/-- The variable name that an author's becomes is a name. -/
theorem nameOf_identifier (name : Text) : Identifier (nameOf name) := by
  unfold nameOf variableName
  split
  · exact ⟨⟨'i', _, rfl, rfl⟩, by decide⟩
  · rename_i hne
    rw [Text.ofString, String.toList_ofList]
    exact identifierPart_identifier hne

theorem Identifier.dropWhile_append {t : Text} (h : Identifier t) (rest : Text) :
    (t ++ rest).dropWhile isNamePoint = rest.dropWhile isNamePoint :=
  List.dropWhile_append_of_pos h.holds

/-- A name ends before the first character that no name holds. -/
theorem Identifier.split {a b s t : Text} (ha : Identifier a) (hb : Identifier b)
    (hs : s.dropWhile isNamePoint = s) (ht : t.dropWhile isNamePoint = t) (h : a ++ s = b ++ t) : a = b ∧ s = t := by
  obtain rfl : s = t :=
    calc s = s.dropWhile isNamePoint := hs.symm
      _ = (a ++ s).dropWhile isNamePoint := (ha.dropWhile_append s).symm
      _ = (b ++ t).dropWhile isNamePoint := by rw [h]
      _ = t.dropWhile isNamePoint := hb.dropWhile_append t
      _ = t := ht
  exact ⟨List.append_cancel_right h, rfl⟩

/-! ## Frames -/

/-- A piece of a frame: a character, or a place that is left open. -/
inductive Piece
  | point (c : CodePoint)
  | name
  | literal
  | literals
  deriving DecidableEq, Repr

/-- What fills a place. -/
inductive Slot
  | name (t : Text)
  | literal (body : Text)
  | literals (bodies : List Text)
  deriving DecidableEq, Repr

abbrev Frame := List Piece

/-- Fixed text. -/
def fixed (s : String) : Frame := (ofString s).map .point

/-- Code is the frame with its places filled by the slots. -/
inductive ReadsAs : Frame → Text → List Slot → Prop
  | done : ReadsAs [] [] []
  | point (c : CodePoint) {p : Frame} {t : Text} {slots : List Slot} (h : ReadsAs p t slots) :
      ReadsAs (.point c :: p) (c :: t) slots
  | name {name : Text} {p : Frame} {t : Text} {slots : List Slot} (hname : Identifier name) (h : ReadsAs p t slots) :
      ReadsAs (.name :: p) (name ++ t) (.name name :: slots)
  | literal {body : Text} {p : Frame} {t : Text} {slots : List Slot} (hbody : LiteralBody body)
      (h : ReadsAs p t slots) : ReadsAs (.literal :: p) (quoted body ++ t) (.literal body :: slots)
  | literals {bodies : List Text} {p : Frame} {t : Text} {slots : List Slot}
      (hbodies : ∀ body ∈ bodies, LiteralBody body) (h : ReadsAs p t slots) :
      ReadsAs (.literals :: p) (listed bodies ++ t) (.literals bodies :: slots)

namespace ReadsAs

theorem fixed (s : String) : ReadsAs (Code.fixed s) (ofString s) [] := by
  unfold Code.fixed
  induction ofString s with
  | nil => exact .done
  | cons c rest ih => exact .point c ih

theorem append {p q : Frame} {t u : Text} {slots others : List Slot} (h : ReadsAs p t slots)
    (h' : ReadsAs q u others) : ReadsAs (p ++ q) (t ++ u) (slots ++ others) := by
  induction h with
  | done => exact h'
  | point c _ ih => exact .point c ih
  | name hname _ ih => rw [List.append_assoc]; exact .name hname ih
  | literal hbody _ ih => rw [List.append_assoc]; exact .literal hbody ih
  | literals hbodies _ ih => rw [List.append_assoc]; exact .literals hbodies ih

end ReadsAs

namespace Frame

/-- The frame begins with nothing that could go on with a name. -/
def endsName : Frame → Bool
  | .point c :: _ => !isNamePoint c
  | .name :: _ => false
  | _ => true

/-- Every place for a name is followed by something else. -/
def isDelimited : Frame → Bool
  | [] => true
  | .name :: p => endsName p && isDelimited p
  | _ :: p => isDelimited p

/-- The frame after the characters at its head that a name holds. -/
def afterName : Frame → Frame
  | .point c :: p => if isNamePoint c then afterName p else .point c :: p
  | p => p

/-- The frames part at some place: no code reads as both. The test is not symmetric. -/
def isApart : Frame → Frame → Bool
  | .point c :: p, .point d :: q => c != d || isApart p q
  | .point c :: _, .literal :: _ => c != '\''
  | .point c :: _, .literals :: _ => c != '['
  | .name :: p, .name :: q => isApart p q
  | .name :: p, .point c :: q => endsName (afterName (.point c :: q)) && isApart p (afterName (.point c :: q))
  | .literal :: p, .literal :: q => isApart p q
  | .literal :: _, .literals :: _ => true
  | _, _ => false

/-- No code reads as two of the frames, or as one of them in two ways. -/
def AreUnambiguous (frames : List Frame) : Prop :=
  (∀ p ∈ frames, isDelimited p) ∧ frames.Pairwise fun p q => isApart p q ∨ isApart q p

instance (frames : List Frame) : Decidable (AreUnambiguous frames) :=
  inferInstanceAs (Decidable (_ ∧ _))

end Frame

/-! ## One reading only -/

theorem ReadsAs.dropWhile_of_endsName {p : Frame} {t : Text} {slots : List Slot} (h : ReadsAs p t slots)
    (hp : p.endsName) : t.dropWhile isNamePoint = t := by
  cases h with
  | done => rfl
  | point c _ =>
    have hc : isNamePoint c = false := by simpa [Frame.endsName] using hp
    rw [List.dropWhile_cons, hc]
    rfl
  | name _ _ => cases hp
  | literal _ _ => rfl
  | literals _ _ => rfl

theorem ReadsAs.afterName {p : Frame} {t : Text} {slots : List Slot} (h : ReadsAs p t slots)
    (hp : p.afterName.endsName) : ReadsAs p.afterName (t.dropWhile isNamePoint) slots := by
  induction h with
  | done => exact .done
  | point c h ih =>
    unfold Frame.afterName at hp ⊢
    rw [List.dropWhile_cons]
    split
    · rename_i hc
      rw [if_pos hc] at hp
      exact ih hp
    · exact .point c h
  | name _ _ => cases hp
  | literal hbody h => exact .literal hbody h
  | literals hbodies h => exact .literals hbodies h

/-- Code reads as a frame in one way at most. -/
theorem ReadsAs.unique {p : Frame} {t : Text} {slots slots' : List Slot} (hp : p.isDelimited)
    (h : ReadsAs p t slots) (h' : ReadsAs p t slots') : slots = slots' := by
  induction h generalizing slots' with
  | done => cases h'; rfl
  | point c _ ih =>
    cases h' with
    | point _ h' => exact ih hp h'
  | @name name p t _ hname h ih =>
    obtain ⟨hends, hp⟩ := Bool.and_eq_true_iff.1 hp
    generalize ht : name ++ t = code at h'
    cases h' with
    | name hname' h' =>
      obtain ⟨rfl, rfl⟩ := hname.split hname' (h.dropWhile_of_endsName hends) (h'.dropWhile_of_endsName hends) ht
      rw [ih hp h']
  | @literal body p t _ hbody _ ih =>
    generalize ht : quoted body ++ t = code at h'
    cases h' with
    | literal hbody' h' =>
      obtain ⟨rfl, rfl⟩ := quoted_split hbody hbody' ht
      rw [ih hp h']
  | @literals bodies p t _ hbodies _ ih =>
    generalize ht : listed bodies ++ t = code at h'
    cases h' with
    | literals hbodies' h' =>
      obtain ⟨rfl, rfl⟩ := listed_split hbodies hbodies' ht
      rw [ih hp h']

theorem Frame.isDelimited_afterName {p : Frame} (h : p.isDelimited) : p.afterName.isDelimited := by
  induction p with
  | nil => rfl
  | cons piece p ih =>
    cases piece with
    | point c =>
      unfold Frame.afterName
      split
      · exact ih h
      · exact h
    | _ => exact h

/-- No code reads as two frames that part. -/
theorem ReadsAs.not_of_isApart {p q : Frame} {t : Text} {slots slots' : List Slot} (hp : p.isDelimited)
    (hq : q.isDelimited) (hpq : p.isApart q) (h : ReadsAs p t slots) : ¬ ReadsAs q t slots' := by
  intro h'
  induction h generalizing q slots' with
  | done => cases hpq
  | @point c p t _ _ ih =>
    generalize ht : c :: t = code at h'
    cases h' with
    | done => cases ht
    | @point d q _ _ h' =>
      obtain ⟨rfl, rfl⟩ := List.cons.inj ht
      have hrest : p.isApart q := by simpa [Frame.isApart] using hpq
      exact ih hp (q := q) hq hrest h'
    | name _ _ => cases hpq
    | literal _ _ =>
      have hc : c ≠ '\'' := by simpa [Frame.isApart] using hpq
      exact hc (List.cons.inj ht).1
    | literals _ _ =>
      have hc : c ≠ '[' := by simpa [Frame.isApart] using hpq
      exact hc (List.cons.inj ht).1
  | @name name p t _ hname h ih =>
    obtain ⟨hends, hp⟩ := Bool.and_eq_true_iff.1 hp
    have ht := h.dropWhile_of_endsName hends
    generalize hcode : name ++ t = code at h'
    cases h' with
    | name hname' h' =>
      obtain ⟨hends', hq⟩ := Bool.and_eq_true_iff.1 hq
      obtain ⟨-, rfl⟩ := hname.split hname' ht (h'.dropWhile_of_endsName hends') hcode
      exact ih hp hq hpq h'
    | point d h' =>
      -- The name takes the characters at the head of the other frame that a name holds, and no more.
      obtain ⟨hends', hpq⟩ := Bool.and_eq_true_iff.1 hpq
      have hafter := (ReadsAs.point d h').afterName hends'
      rw [← hcode, hname.dropWhile_append, ht] at hafter
      exact ih hp (Frame.isDelimited_afterName hq) hpq hafter
    | _ => cases hpq
  | @literal body p t _ hbody _ ih =>
    generalize ht : quoted body ++ t = code at h'
    cases h' with
    | @literal _ q _ _ hbody' h' =>
      obtain ⟨-, rfl⟩ := quoted_split hbody hbody' ht
      exact ih hp (q := q) hq hpq h'
    | literals _ _ => exact absurd (List.cons.inj ht).1 (by decide)
    | _ => cases hpq
  | literals _ _ _ => cases hpq

/-- Code reads as one frame of a list that is unambiguous, and in one way. -/
theorem ReadsAs.unique_of_unambiguous {frames : List Frame} (h : Frame.AreUnambiguous frames) {p q : Frame}
    (hp : p ∈ frames) (hq : q ∈ frames) {t : Text} {slots slots' : List Slot} (hpt : ReadsAs p t slots)
    (hqt : ReadsAs q t slots') : p = q ∧ slots = slots' := by
  obtain ⟨hdelimited, hapart⟩ := h
  obtain rfl : p = q := by
    by_contra hne
    have : Std.Symm fun p q : Frame => p.isApart q = true ∨ q.isApart p = true := ⟨fun _ _ => Or.symm⟩
    rcases hapart.forall hp hq hne with hpq | hqp
    · exact hpt.not_of_isApart (hdelimited p hp) (hdelimited q hq) hpq hqt
    · exact hqt.not_of_isApart (hdelimited q hq) (hdelimited p hp) hqp hpt
  exact ⟨rfl, hpt.unique (hdelimited p hp) hqt⟩

end BlockNotebook.Code
