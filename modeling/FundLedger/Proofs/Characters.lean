import Mathlib.Algebra.Group.Nat.Defs
import Mathlib.Data.List.Basic
import FundLedger.Text.Blank
import FundLedger.Text.Digits
/-!
# Digits and blanks

A number is read back from its digits, with or without zeros in front, in base ten and sixteen.

* `readDigits`: the number read so far, with some more digits.
* `readDigits_zeroPadded`, `natOfBase?_zeroPadded`: a number is read back from its padded digits.
* `natOfDigits?_padded`, `natOfHex?_zeroPadded`: in the two bases.
* `isDigit_of_mem_padded`, `length_padded`: what decimal digits are, and how many there are.
* `isBlank_of_isDigit`, `trimStart_of_head`: what is no blank stays.
-/

namespace FundLedger

/-- The number read so far, with some more digits. -/
def readDigits (base : Nat) (value? : Char → Option Nat) (n : Nat) (cs : List Char) : Option Nat :=
  cs.foldlM (fun n c => (value? c).map (n * base + ·)) n

section Base

variable {base : Nat} {value? : Char → Option Nat}

theorem natOfBase?_of_ne_nil {cs : List Char} (h : cs ≠ []) : natOfBase? base value? cs = readDigits base value? 0 cs := by
  cases cs with
  | nil => exact absurd rfl h
  | cons c cs => rfl

theorem readDigits_append (n : Nat) (cs cs' : List Char) :
    readDigits base value? n (cs ++ cs') = (readDigits base value? n cs).bind (readDigits base value? · cs') :=
  List.foldlM_append

theorem readDigits_cons (n : Nat) (c : Char) (cs : List Char) :
    readDigits base value? n (c :: cs) = (value? c).bind fun d => readDigits base value? (n * base + d) cs := by
  unfold readDigits
  rw [List.foldlM_cons]
  cases value? c <;> rfl

/-- What is read as a number is made of digits. -/
theorem isSome_of_readDigits {n m : Nat} {cs : List Char} (h : readDigits base value? n cs = some m) :
    ∀ c ∈ cs, (value? c).isSome = true := by
  induction cs generalizing n with
  | nil => exact fun c hc => absurd hc List.not_mem_nil
  | cons d rest ih =>
    rw [readDigits_cons] at h
    obtain ⟨v, hv, hrest⟩ := Option.bind_eq_some_iff.mp h
    exact List.forall_mem_cons.mpr ⟨by rw [hv]; rfl, ih hrest⟩

/-- More digits make no smaller number. -/
theorem le_of_readDigits (hbase : 0 < base) {n m : Nat} {cs : List Char} (h : readDigits base value? n cs = some m) :
    n ≤ m := by
  induction cs generalizing n with
  | nil => exact Nat.le_of_eq (Option.some.inj h)
  | cons d rest ih =>
    rw [readDigits_cons] at h
    obtain ⟨v, -, hrest⟩ := Option.bind_eq_some_iff.mp h
    exact Nat.le_trans (Nat.le_add_right_of_le (Nat.le_mul_of_pos_right n hbase)) (ih hrest)

/-- The digits that numbers are written with are read as their values. -/
def ReadsDigits (base : Nat) (value? : Char → Option Nat) : Prop :=
  1 < base ∧ ∀ d < base, value? d.digitChar = some d

theorem readDigits_toDigits (h : ReadsDigits base value?) (n : Nat) :
    readDigits base value? 0 (Nat.toDigits base n) = some n := by
  obtain ⟨hbase, hdigit⟩ := h
  induction n using Nat.strongRecOn with
  | ind n ih =>
    rw [Nat.toDigits_eq_if hbase]
    split
    · rename_i hlt
      rw [readDigits_cons, hdigit n hlt, Option.bind_some, Nat.zero_mul, Nat.zero_add]
      rfl
    · rename_i hle
      have hlt : n / base < n := Nat.div_lt_self (by omega) hbase
      rw [readDigits_append, ih (n / base) hlt, Option.bind_some, readDigits_cons,
        hdigit (n % base) (Nat.mod_lt n (by omega)), Option.bind_some, Nat.mul_comm, Nat.div_add_mod]
      rfl

theorem readDigits_zeros (h : ReadsDigits base value?) (k : Nat) :
    readDigits base value? 0 (List.replicate k '0') = some 0 := by
  have hzero : value? '0' = some 0 := h.2 0 (Nat.zero_lt_of_lt h.1)
  induction k with
  | zero => rfl
  | succ k ih => rw [List.replicate_succ, readDigits_cons, hzero, Option.bind_some, Nat.zero_mul, ih]

/-- A number is read back from its padded digits. -/
theorem readDigits_zeroPadded (h : ReadsDigits base value?) (width n : Nat) :
    readDigits base value? 0 (zeroPadded width (Nat.toDigits base n)) = some n := by
  unfold zeroPadded
  rw [readDigits_append, readDigits_zeros h]
  exact readDigits_toDigits h n

theorem natOfBase?_zeroPadded (h : ReadsDigits base value?) (width n : Nat) :
    natOfBase? base value? (zeroPadded width (Nat.toDigits base n)) = some n := by
  have hne : zeroPadded width (Nat.toDigits base n) ≠ [] := by
    simp [zeroPadded]
  rw [natOfBase?_of_ne_nil hne]
  exact readDigits_zeroPadded h width n

end Base

/-! ## The two bases -/

theorem readsDigits_hex : ReadsDigits 16 hexValue? := by
  refine ⟨by decide, ?_⟩
  decide

theorem readsDigits_decimal : ReadsDigits 10 digitValue? := by
  refine ⟨by decide, ?_⟩
  decide

theorem natOfHex?_zeroPadded (width n : Nat) : natOfHex? (zeroPadded width (Nat.toDigits 16 n)) = some n :=
  natOfBase?_zeroPadded readsDigits_hex width n

theorem readDigits_padded (width n : Nat) : readDigits 10 digitValue? 0 (padded width n) = some n :=
  readDigits_zeroPadded readsDigits_decimal width n

theorem natOfDigits?_padded (width n : Nat) : natOfDigits? (padded width n) = some n :=
  natOfBase?_zeroPadded readsDigits_decimal width n

theorem isDigit_of_isSome {c : Char} (h : (digitValue? c).isSome = true) : c.isDigit = true := by
  unfold digitValue? at h
  split at h
  · assumption
  · cases h

theorem isDigit_of_mem_padded {width n : Nat} {c : Char} (h : c ∈ padded width n) : c.isDigit = true :=
  isDigit_of_isSome (isSome_of_readDigits (readDigits_padded width n) c h)

theorem length_padded {width n : Nat} (hwidth : 0 < width) (h : n < 10 ^ width) : (padded width n).length = width := by
  have hlength : (Nat.toDigits 10 n).length ≤ width := (Nat.length_toDigits_le_iff (by decide) hwidth).mpr h
  simp only [padded, zeroPadded, List.length_append, List.length_replicate]
  omega

theorem le_length_padded (width n : Nat) : width ≤ (padded width n).length := by
  simp only [padded, zeroPadded, List.length_append, List.length_replicate]
  omega

/-- A digit is one of ten neighbouring characters. -/
theorem isDigit_iff {c : Char} : c.isDigit = true ↔ 48 ≤ c.toNat ∧ c.toNat ≤ 57 := by
  simp only [Char.isDigit, Bool.and_eq_true, decide_eq_true_eq, ge_iff_le, UInt32.le_iff_toNat_le]
  rfl

theorem isBlank_of_isDigit {c : Char} (h : c.isDigit = true) : isBlank c = false := by
  rw [isDigit_iff] at h
  simp only [isBlank, Bool.or_eq_false_iff, Bool.and_eq_false_iff, decide_eq_false_iff_not, beq_eq_false_iff_ne]
  omega

theorem trimStart_of_head {c : Char} (h : isBlank c = false) (rest : List Char) : trimStart (c :: rest) = c :: rest := by
  unfold trimStart
  rw [List.dropWhile_cons_of_neg (by simp [h])]

end FundLedger
