import BlockNotebook.Calendar
import BlockNotebook.Proofs.Notebook.Order
import BlockNotebook.Proofs.Number.Reading
import Mathlib.Algebra.Group.Nat.Defs
import Mathlib.Data.Fintype.Basic
import Mathlib.Data.List.Induction
import Mathlib.Tactic.FinCases
/-!
Numbers in figures.

A number that is padded with zeros is one figure after another (`padded_number`). Such texts of one length are in the
order of their numbers (`figures_lt_iff`), and digits are read back from them (`digits_figures`).
-/

namespace BlockNotebook.Calendar

open Text

/-! ## Figures -/

/-- The number that figures stand for. -/
def number (ds : List (Fin 10)) : Nat := ds.foldl (fun n d => n * 10 + d.val) 0

/-- Figures as characters. -/
def figures (ds : List (Fin 10)) : List Char := ds.map fun d => Nat.digitChar d.val

theorem number_concat (ds : List (Fin 10)) (d : Fin 10) : number (ds ++ [d]) = number ds * 10 + d.val :=
  List.foldl_concat ..

theorem number_cons (d : Fin 10) (ds : List (Fin 10)) : number (d :: ds) = d.val * 10 ^ ds.length + number ds := by
  induction ds using List.reverseRecOn with
  | nil => simp [number]
  | append_singleton ds e ih =>
    rw [← List.cons_append, number_concat, ih, number_concat, List.length_append, List.length_singleton, Nat.pow_succ,
      Nat.add_mul, Nat.mul_assoc, Nat.add_assoc]

theorem number_lt (ds : List (Fin 10)) : number ds < 10 ^ ds.length := by
  induction ds using List.reverseRecOn with
  | nil => exact Nat.one_pos
  | append_singleton ds d ih =>
    rw [number_concat, List.length_append, List.length_singleton, Nat.pow_succ]
    omega

theorem exists_number {width n : Nat} (h : n < 10 ^ width) : ∃ ds : List (Fin 10), ds.length = width ∧ number ds = n := by
  induction width generalizing n with
  | zero => exact ⟨[], rfl, by simp [number] at h ⊢; omega⟩
  | succ width ih =>
    rw [Nat.pow_succ] at h
    obtain ⟨ds, hlength, hnumber⟩ := ih (n := n / 10) (by omega)
    refine ⟨ds ++ [⟨n % 10, by omega⟩], by simp [hlength], ?_⟩
    rw [number_concat, hnumber]
    simp only
    omega

theorem padded_succ {width : Nat} (hwidth : 0 < width) (n : Nat) :
    padded (width + 1) n = padded width (n / 10) ++ [Nat.digitChar (n % 10)] := by
  by_cases hn : n < 10
  · obtain ⟨width, rfl⟩ : ∃ k, width = k + 1 := ⟨width - 1, by omega⟩
    have hzeros : List.replicate (width + 1) '0' = List.replicate width '0' ++ ['0'] := List.replicate_succ'
    rw [padded, padded, Nat.toDigits_of_lt_base hn, Nat.div_eq_of_lt hn, Nat.toDigits_of_lt_base (by decide),
      Nat.mod_eq_of_lt hn]
    exact congrArg (· ++ [Nat.digitChar n]) hzeros
  · rw [padded, padded, Nat.toDigits_of_base_le (by decide) (Nat.le_of_not_lt hn), List.length_append,
      List.length_singleton, Nat.add_sub_add_right, List.append_assoc]

/-- A number is padded by the zeros in front of its figures. -/
theorem padded_number {ds : List (Fin 10)} (hne : ds ≠ []) : padded ds.length (number ds) = figures ds := by
  induction ds using List.reverseRecOn with
  | nil => exact absurd rfl hne
  | append_singleton ds d ih =>
    cases ds with
    | nil =>
      rw [List.nil_append, padded, show number [d] = d.val from Nat.zero_add _, Nat.toDigits_of_lt_base d.isLt]
      rfl
    | cons e ds =>
      have hlength : 0 < (e :: ds).length := Nat.succ_pos _
      have hwhole : (number (e :: ds) * 10 + d.val) / 10 = number (e :: ds) := by omega
      have hlast : (number (e :: ds) * 10 + d.val) % 10 = d.val := by omega
      rw [List.length_append, List.length_singleton, padded_succ hlength, number_concat, hwhole, hlast,
        ih (List.cons_ne_nil _ _), figures, figures, List.map_append]
      rfl

theorem digitChar_lt_iff (d e : Fin 10) :
    CodePoint.char (Nat.digitChar d.val) < CodePoint.char (Nat.digitChar e.val) ↔ d.val < e.val := by
  rw [CodePoint.lt_iff, CodePoint.value, CodePoint.value, Nat.toNat_digitChar_of_lt_ten d.isLt,
    Nat.toNat_digitChar_of_lt_ten e.isLt]
  omega

theorem digitChar_inj {d e : Fin 10} (h : CodePoint.char (Nat.digitChar d.val) = .char (Nat.digitChar e.val)) : d = e := by
  have hvalue := congrArg CodePoint.value h
  rw [CodePoint.value, CodePoint.value, Nat.toNat_digitChar_of_lt_ten d.isLt, Nat.toNat_digitChar_of_lt_ten e.isLt] at hvalue
  omega

/-- A greater first figure outweighs all that follow. -/
theorem mul_add_lt_iff {d e x y weight : Nat} (hx : x < weight) (hy : y < weight) :
    d * weight + x < e * weight + y ↔ d < e ∨ d = e ∧ x < y := by
  rcases Nat.lt_trichotomy d e with h | rfl | h
  · have hmul := Nat.mul_le_mul_right weight (Nat.succ_le_of_lt h)
    rw [Nat.succ_mul] at hmul
    omega
  · omega
  · have hmul := Nat.mul_le_mul_right weight (Nat.succ_le_of_lt h)
    rw [Nat.succ_mul] at hmul
    omega

/-- Among numbers in as many figures, the order of the texts is that of the numbers. -/
theorem figures_lt_iff {ds es : List (Fin 10)} (hlength : ds.length = es.length) :
    ofChars (figures ds) < ofChars (figures es) ↔ number ds < number es := by
  induction ds generalizing es with
  | nil =>
    obtain rfl := List.length_eq_zero_iff.1 hlength.symm
    simp [figures, ofChars, List.lt_irrefl]
  | cons d ds ih =>
    cases es with
    | nil => cases hlength
    | cons e es =>
      have hrest : ds.length = es.length := Nat.succ.inj hlength
      have hsame : CodePoint.char (Nat.digitChar d.val) = .char (Nat.digitChar e.val) ↔ d.val = e.val :=
        ⟨fun h => congrArg Fin.val (digitChar_inj h), fun h => by rw [h]⟩
      have hds : number ds < 10 ^ es.length := hrest ▸ number_lt ds
      rw [number_cons, number_cons, hrest, mul_add_lt_iff hds (number_lt es), ← ih hrest, ← digitChar_lt_iff, ← hsame]
      exact List.cons_lt_cons_iff

theorem figures_eq_iff {ds es : List (Fin 10)} (hlength : ds.length = es.length) :
    ofChars (figures ds) = ofChars (figures es) ↔ number ds = number es := by
  have hlt := figures_lt_iff hlength
  have hgt := figures_lt_iff hlength.symm
  constructor
  · intro h
    rw [h] at hlt hgt
    have hsame := List.lt_irrefl (ofChars (figures es))
    exact Nat.le_antisymm (Nat.not_lt.1 fun hless => hsame (hgt.2 hless)) (Nat.not_lt.1 fun hless => hsame (hlt.2 hless))
  · intro h
    exact Text.le_antisymm (List.not_lt.1 fun hless => absurd (hgt.1 hless) (by omega))
      (List.not_lt.1 fun hless => absurd (hlt.1 hless) (by omega))

/-! ## Reading figures -/

theorem digitValue?_digitChar (d : Fin 10) : digitValue? (Nat.digitChar d.val) = some d.val := by
  fin_cases d <;> rfl

theorem isDecimal_digitChar (d : Fin 10) : isDecimal (Nat.digitChar d.val) := by
  rw [isDecimal, digitValue?_digitChar]
  rfl

/-- The decimal digits of ASCII are the ten figures. -/
theorem exists_digitChar {c : Char} (hc : c.toNat < 128) (h : isDecimal c) : ∃ d : Fin 10, c = Nat.digitChar d.val :=
  @Number.forall_ascii (fun c => isDecimal c → ∃ d : Fin 10, c = Nat.digitChar d.val) (by decide +kernel) _ hc h

theorem digits_figures (ds : List (Fin 10)) : digits (figures ds) = number ds := by
  rw [digits, figures, number, List.foldl_map]
  simp only [digitValue?_digitChar, Option.getD_some]

theorem exists_figures {cs : List Char} (hascii : ∀ c ∈ cs, c.toNat < 128) (h : cs.all isDecimal) :
    ∃ ds : List (Fin 10), ds.length = cs.length ∧ cs = figures ds := by
  induction cs with
  | nil => exact ⟨[], rfl, rfl⟩
  | cons c cs ih =>
    obtain ⟨hc, hcs⟩ := List.forall_mem_cons.1 hascii
    rw [List.all_cons, Bool.and_eq_true] at h
    obtain ⟨d, rfl⟩ := exists_digitChar hc h.1
    obtain ⟨ds, hlength, rfl⟩ := ih hcs h.2
    exact ⟨d :: ds, congrArg Nat.succ hlength, rfl⟩

end BlockNotebook.Calendar
