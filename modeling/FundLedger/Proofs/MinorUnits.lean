import Mathlib.Tactic.Linarith
import Mathlib.Tactic.Ring
import FundLedger.Money
/-!
# Amounts counted in minor units

A decimal whose value is a whole number of minor units is counted by that number.  Sums, differences and roundings
of such decimals are exact as long as the numbers stay below `2 ^ 96`, whatever scales the decimals are kept at.

* `Counts p d n`: the decimal `d` is `n` units of `10 ^ -p`.
* `fit_exact`: the nearest decimal to a value that has room is that value.
* `nearest p u`: the whole number of units that a value is rounded to; `counts_round`.
* `Counts.add`, `Counts.sub`, `Counts.neg`, `Counts.maximum`, `Counts.round`: arithmetic on the numbers.
* `counts_sum`: a sum is exact when the magnitudes together have room.
-/

namespace FundLedger

namespace Decimal

/-- How many units of `10 ^ -28` make one unit with so many places. -/
def minorUnit (places : Nat) : Int := Nat.pow 10 (28 - places)

/-- The value is a whole number of units with so many places, namely this one. -/
def Counts (places : Nat) (d : Decimal) (n : Int) : Prop := d.units = n * minorUnit places

/-- The number of whole units with so many places. -/
def minor (places : Nat) (d : Decimal) : Int := d.units / minorUnit places

section Basics

variable {p : Nat} {a b : Decimal} {m n : Int}

theorem minorUnit_pos (p : Nat) : 0 < minorUnit p :=
  Int.natCast_pos.mpr (Nat.pow_pos (by decide))

theorem mul_minorUnit_injective (p : Nat) : Function.Injective (· * minorUnit p) := fun _ _ =>
  Int.eq_of_mul_eq_mul_right (minorUnit_pos p).ne'

theorem natAbs_signed (a : Decimal) : a.signed.natAbs = a.mantissa := by
  unfold signed
  split <;> omega

theorem natAbs_units (a : Decimal) : a.units.natAbs = a.mantissa * 10 ^ (28 - a.scale) := by
  unfold units
  rw [Int.natAbs_mul, natAbs_signed, Int.natAbs_natCast, Nat.pow_eq]

theorem Counts.minor_eq (h : Counts p a n) : minor p a = n := by
  unfold minor
  rw [h]
  exact Int.mul_ediv_cancel n (minorUnit_pos p).ne'

theorem Counts.counts_minor (h : Counts p a n) : Counts p a (minor p a) := by
  rwa [h.minor_eq]

theorem Counts.unique (h : Counts p a m) (h' : Counts p a n) : m = n :=
  h.minor_eq.symm.trans h'.minor_eq

theorem Counts.equiv_iff (ha : Counts p a m) (hb : Counts p b n) : a ≈ b ↔ m = n := by
  rw [Decimal.equiv_iff, ha, hb]
  exact Int.mul_eq_mul_right_iff (minorUnit_pos p).ne'

theorem counts_zero (p : Nat) : Counts p zero 0 := by
  unfold Counts
  rw [units_zero, Int.zero_mul]

theorem Counts.neg (h : Counts p a n) : Counts p (-a) (-n) := by
  unfold Counts
  rw [units_neg, h, Int.neg_mul]

theorem Counts.maximum (ha : Counts p a m) (hb : Counts p b n) : Counts p (maximum a b) (max m n) := by
  unfold Counts
  rw [units_maximum, ha, hb]
  exact (max_mul_of_nonneg m n (minorUnit_pos p).le).symm

theorem Counts.eq_zero (h : Counts p a n) (ha : a.mantissa = 0) : n = 0 := by
  have h0 : a.units = 0 := (units_eq_zero_iff a).mpr ha
  rw [h] at h0
  exact (Int.mul_eq_zero.mp h0).resolve_right (minorUnit_pos p).ne'

end Basics

/-! ## Exact results -/

theorem quotientHalfEven_mul (q : Nat) {d : Nat} (hd : 0 < d) : quotientHalfEven (q * d) d = q := by
  unfold quotientHalfEven
  rw [Nat.mul_mod_left, Nat.mul_div_cancel q hd, if_neg (by omega)]

/-- The first of the numbers that something is found at. -/
theorem findSome?_range_cases {α : Type} (f : Nat → Option α) (n : Nat) :
    (∃ j < n, (∀ i < j, f i = none) ∧ (f j).isSome ∧ (List.range n).findSome? f = f j) ∨
      (∀ i < n, f i = none) ∧ (List.range n).findSome? f = none := by
  induction n with
  | zero => exact .inr ⟨by simp, rfl⟩
  | succ n ih =>
    rw [List.range_succ, List.findSome?_append]
    rcases ih with ⟨j, hj, hbefore, hsome, hfind⟩ | ⟨hnone, hfind⟩
    · refine .inl ⟨j, by omega, hbefore, hsome, ?_⟩
      obtain ⟨a, ha⟩ := Option.isSome_iff_exists.mp hsome
      simp [hfind, ha]
    · rw [hfind]
      cases hn : f n with
      | some a => exact .inl ⟨n, by omega, hnone, by simp [hn], by simp [hn]⟩
      | none =>
        refine .inr ⟨fun i hi => ?_, by simp [hn]⟩
        rcases Nat.lt_succ_iff_lt_or_eq.mp hi with hi | rfl
        · exact hnone i hi
        · exact hn

/-- Something is found no later than at a number that has something. -/
theorem findSome?_range_of_isSome {α : Type} (f : Nat → Option α) {k n : Nat} (hk : k < n) (hf : (f k).isSome) :
    ∃ j ≤ k, (List.range n).findSome? f = f j ∧ (f j).isSome := by
  have hne : f k ≠ none := Option.isSome_iff_ne_none.mp hf
  rcases findSome?_range_cases f n with ⟨j, -, hbefore, hsome, hfind⟩ | ⟨hnone, -⟩
  · exact ⟨j, Nat.not_lt.mp fun hlt => hne (hbefore k hlt), hfind, hsome⟩
  · exact absurd (hnone k hk) hne

/-- A value with room for its digits, once some zeros at its end are dropped, is kept exactly. -/
theorem fit_exact (negative : Bool) {y k s : Nat} (hy : y < mantissaLimit) (hk : k ≤ s) (hs : s ≤ 28) :
    ∃ d j, fit negative (y * 10 ^ k) s = some d ∧ j ≤ k ∧ d.mantissa * 10 ^ j = y * 10 ^ k ∧ d.scale = s - j ∧
      d.negative = (negative && d.mantissa != 0) := by
  -- dropping no more than the `k` zeros loses nothing
  have hq : ∀ j ≤ k, quotientHalfEven (y * 10 ^ k) (Nat.pow 10 j) = y * 10 ^ (k - j) := by
    intro j hj
    have hsplit : y * 10 ^ k = y * 10 ^ (k - j) * Nat.pow 10 j := by
      rw [Nat.mul_assoc, Nat.pow_eq, ← pow_add, Nat.sub_add_cancel hj]
    rw [hsplit]
    exact quotientHalfEven_mul _ (Nat.pow_pos (by decide))
  unfold fit
  obtain ⟨j, hj, he, hsome⟩ := findSome?_range_of_isSome
    (fun dropped =>
      ofParts? (negative && quotientHalfEven (y * 10 ^ k) (Nat.pow 10 dropped) != 0)
        (quotientHalfEven (y * 10 ^ k) (Nat.pow 10 dropped)) (s - dropped))
    (n := s + 1) (k := k) (by omega) (by
      simp only [hq k le_rfl, Nat.sub_self, pow_zero, Nat.mul_one]
      unfold ofParts?
      rw [dif_pos ⟨hy, by omega⟩]
      rfl)
  obtain ⟨d, hd⟩ := Option.isSome_iff_exists.mp hsome
  refine ⟨d, j, he.trans hd, hj, ?_⟩
  simp only [hq j hj] at hd
  obtain ⟨hneg, hmant, hscale⟩ := ofParts?_eq_some hd
  refine ⟨?_, hscale, ?_⟩
  · rw [hmant, Nat.mul_assoc, ← pow_add, Nat.sub_add_cancel hj]
  · rw [hneg, hmant]

theorem minorUnit_split {s p : Nat} (hsp : s ≤ p) (hp : p ≤ 28) :
    minorUnit s = (10 ^ (p - s) : Nat) * minorUnit p := by
  unfold minorUnit
  rw [Nat.pow_eq, Nat.pow_eq, ← Int.natCast_mul, ← pow_add]
  congr 2
  omega

theorem signedAt_mul_minorUnit (a : Decimal) {s : Nat} (ha : a.scale ≤ s) (hs : s ≤ 28) :
    a.signedAt s * minorUnit s = a.units := by
  have h := minorUnit_split ha hs
  unfold signedAt units
  change a.signed * (10 ^ (s - a.scale) : Nat) * minorUnit s = a.signed * minorUnit a.scale
  rw [h, mul_assoc]

/-- A value whose digits end in zeros, all that has no room being zeros. -/
theorem exists_trailing_zeros {p s : Nat} {x n : Int} (hp : p ≤ 28) (hs : s ≤ 28)
    (hx : x * minorUnit s = n * minorUnit p) (hn : n.natAbs < mantissaLimit) :
    ∃ y k, x.natAbs = y * 10 ^ k ∧ y < mantissaLimit ∧ k ≤ s := by
  by_cases hsp : s ≤ p
  · refine ⟨x.natAbs, 0, by simp, ?_, Nat.zero_le s⟩
    rw [minorUnit_split hsp hp, ← mul_assoc] at hx
    have hxn : x * (10 ^ (p - s) : Nat) = n := Int.eq_of_mul_eq_mul_right (minorUnit_pos p).ne' hx
    have habs : x.natAbs * 10 ^ (p - s) = n.natAbs := by rw [← hxn, Int.natAbs_mul, Int.natAbs_natCast]
    have hle : x.natAbs ≤ x.natAbs * 10 ^ (p - s) := Nat.le_mul_of_pos_right _ (Nat.pow_pos (by decide))
    omega
  · refine ⟨n.natAbs, s - p, ?_, hn, Nat.sub_le s p⟩
    rw [minorUnit_split (Nat.le_of_not_le hsp) hs, ← mul_assoc] at hx
    have hxn : x = n * (10 ^ (s - p) : Nat) := Int.eq_of_mul_eq_mul_right (minorUnit_pos s).ne' hx
    rw [hxn, Int.natAbs_mul, Int.natAbs_natCast]

/-- A result with room for its minor units is exact. -/
theorem ofScaled_counts (operation : Overflow) {p s : Nat} {x n : Int} (hp : p ≤ 28) (hs : s ≤ 28)
    (hx : x * minorUnit s = n * minorUnit p) (hn : n.natAbs < mantissaLimit) :
    ∃ c, ofScaled operation x s = .ok c ∧ Counts p c n := by
  obtain ⟨y, k, hy, hlt, hk⟩ := exists_trailing_zeros hp hs hx hn
  obtain ⟨d, j, hfit, hj, hmant, hscale, hneg⟩ := fit_exact (decide (x < 0)) hlt hk hs
  rw [← hy] at hfit hmant
  refine ⟨d, by unfold ofScaled; rw [hfit], ?_⟩
  have hsigned : d.signed * (10 ^ j : Nat) = x := by
    unfold signed
    by_cases hx0 : x < 0
    · have hne : d.mantissa ≠ 0 := by
        intro h0
        rw [h0, Nat.zero_mul] at hmant
        omega
      simp only [hneg, hx0, decide_true, Bool.true_and, bne_iff_ne, ne_eq, hne, not_false_eq_true, if_true]
      rw [Int.neg_mul, ← Int.natCast_mul, hmant]
      omega
    · simp only [hneg, hx0, decide_false, Bool.false_and, Bool.false_eq_true, if_false]
      rw [← Int.natCast_mul, hmant]
      omega
  have hunit : minorUnit d.scale = (10 ^ j : Nat) * minorUnit s := by
    rw [hscale, minorUnit_split (Nat.sub_le s j) hs]
    congr 3
    omega
  unfold Counts
  change d.signed * minorUnit d.scale = _
  rw [hunit, ← mul_assoc, hsigned, hx]

/-! ## Rounded values -/

/-- Common factors do not change a rounded quotient. -/
theorem quotientHalfEven_mul_right (m d : Nat) {k : Nat} (hk : 0 < k) :
    quotientHalfEven (m * k) (d * k) = quotientHalfEven m d := by
  unfold quotientHalfEven
  rw [Nat.mul_mod_mul_right, Nat.mul_div_mul_right m d hk, ← Nat.mul_assoc]
  simp only [gt_iff_lt, Nat.mul_lt_mul_right hk, Nat.mul_left_inj hk.ne']

/-- The nearest whole number of units with so many places, from the middle the even one; the value is given in units of
`10 ^ -28`. -/
def nearest (places : Nat) (units : Int) : Int := units.sign * quotientHalfEven units.natAbs (10 ^ (28 - places))

theorem nearest_mul_minorUnit (p : Nat) (n : Int) : nearest p (n * minorUnit p) = n := by
  have hpos := minorUnit_pos p
  have hunit : (minorUnit p).natAbs = 10 ^ (28 - p) := rfl
  unfold nearest
  rw [Int.natAbs_mul, hunit, quotientHalfEven_mul _ (Nat.pow_pos (by decide)), Int.sign_mul,
    Int.sign_eq_one_of_pos hpos, Int.mul_one, Int.sign_mul_natAbs]

theorem sign_units (a : Decimal) : a.units.sign = a.signed.sign := by
  have hpos : (0 : Int) < (10 ^ (28 - a.scale) : Nat) := Int.natCast_pos.mpr (Nat.pow_pos (by decide))
  unfold units
  rw [Nat.pow_eq, Int.sign_mul, Int.sign_eq_one_of_pos hpos, Int.mul_one]

section Round

variable {p : Nat} {a : Decimal}

/-- A rounded decimal keeps its sign, unless nothing is left of it. -/
theorem signed_round (hscale : ¬a.scale ≤ p) :
    (a.round p).signed = a.signed.sign * quotientHalfEven a.mantissa (10 ^ (a.scale - p)) := by
  have hle := quotientHalfEven_le a.mantissa (10 ^ (a.scale - p))
  have hsigned : (a.round p).signed = if (a.round p).negative then -((a.round p).mantissa : Int) else (a.round p).mantissa :=
    rfl
  rw [hsigned, negative_round hscale, mantissa_round hscale, Nat.pow_eq]
  generalize quotientHalfEven a.mantissa (10 ^ (a.scale - p)) = q at hle
  unfold signed
  rcases Nat.eq_zero_or_pos a.mantissa with hm | hm
  · obtain rfl : q = 0 := by omega
    simp
  · cases a.negative
    · simp [Int.sign_eq_one_of_pos (Int.natCast_pos.mpr hm)]
    · have hsign : (-(a.mantissa : Int)).sign = -1 := Int.sign_eq_neg_one_of_neg (by omega)
      rcases Nat.eq_zero_or_pos q with rfl | hq
      · simp
      · simp [hsign, hq.ne']

/-- A rounded decimal counts the nearest whole number to its value. -/
theorem counts_round (a : Decimal) (hp : p ≤ 28) : Counts p (a.round p) (nearest p a.units) := by
  by_cases hscale : a.scale ≤ p
  · rw [round_of_scale_le hscale]
    have hunits : a.units = a.signedAt p * minorUnit p := (signedAt_mul_minorUnit a hscale hp).symm
    have hcounts : Counts p a (a.signedAt p) := hunits
    rwa [hunits, nearest_mul_minorUnit]
  · have hsplit : 10 ^ (28 - p) = 10 ^ (a.scale - p) * 10 ^ (28 - a.scale) := by
      have hle := a.scale_le
      rw [← pow_add]
      congr 1
      omega
    have hunits : (a.round p).units = (a.round p).signed * minorUnit (a.round p).scale := rfl
    unfold Counts nearest
    rw [hunits, scale_round hscale, signed_round hscale, sign_units, natAbs_units, hsplit,
      quotientHalfEven_mul_right _ _ (Nat.pow_pos (by decide))]

/-- Rounding keeps what is a whole number of units already. -/
theorem Counts.round {n : Int} (ha : Counts p a n) : Counts p (a.round p) n := by
  by_cases hscale : a.scale ≤ p
  · rw [round_of_scale_le hscale]
    exact ha
  · have hround := counts_round a ((Nat.le_of_not_le hscale).trans a.scale_le)
    rwa [ha, nearest_mul_minorUnit] at hround

end Round

/-! ## Arithmetic -/

section Arithmetic

variable {p : Nat} {a b : Decimal} {m n : Int}

theorem Counts.addAs (operation : Overflow) (hp : p ≤ 28) (ha : Counts p a m) (hb : Counts p b n)
    (small : (m + n).natAbs < mantissaLimit) : ∃ c, addAs operation a b = .ok c ∧ Counts p c (m + n) := by
  unfold Decimal.addAs
  by_cases ha0 : a.mantissa = 0
  · rw [if_pos ha0, ha.eq_zero ha0, Int.zero_add]
    exact ⟨b, rfl, hb⟩
  rw [if_neg ha0]
  by_cases hb0 : b.mantissa = 0
  · rw [if_pos hb0, hb.eq_zero hb0, Int.add_zero]
    exact ⟨a, rfl, ha⟩
  rw [if_neg hb0]
  have hs : max a.scale b.scale ≤ 28 := max_le a.scale_le b.scale_le
  refine ofScaled_counts operation hp hs ?_ small
  rw [add_mul, signedAt_mul_minorUnit a (le_max_left _ _) hs, signedAt_mul_minorUnit b (le_max_right _ _) hs, ha, hb,
    add_mul]

theorem Counts.add (hp : p ≤ 28) (ha : Counts p a m) (hb : Counts p b n)
    (small : (m + n).natAbs < mantissaLimit) : ∃ c, a.add b = .ok c ∧ Counts p c (m + n) :=
  ha.addAs .addition hp hb small

theorem Counts.sub (hp : p ≤ 28) (ha : Counts p a m) (hb : Counts p b n)
    (small : (m - n).natAbs < mantissaLimit) : ∃ c, a.sub b = .ok c ∧ Counts p c (m - n) := by
  unfold Decimal.sub
  by_cases hb0 : b.mantissa = 0
  · rw [if_pos hb0, hb.eq_zero hb0, Int.sub_zero]
    by_cases ha0 : a.mantissa = 0
    · rw [if_pos ha0]
      have h0 := hb.eq_zero hb0
      exact ⟨b, rfl, by rw [ha.eq_zero ha0, ← h0]; exact hb⟩
    · rw [if_neg ha0]
      exact ⟨a, rfl, ha⟩
  · rw [if_neg hb0, Int.sub_eq_add_neg]
    exact ha.addAs .subtraction hp hb.neg (by rw [← Int.sub_eq_add_neg]; exact small)

/-- Adding some decimals to one that is there already. -/
theorem Counts.foldlM_add {α : Type} {f : α → Decimal} {n : α → Int} (hp : p ≤ 28) {l : List α}
    (hl : ∀ x ∈ l, Counts p (f x) (n x)) (ha : Counts p a m)
    (small : m.natAbs + (l.map fun x => (n x).natAbs).sum < mantissaLimit) :
    ∃ c, (l.map f).foldlM Decimal.add a = .ok c ∧ Counts p c (m + (l.map n).sum) := by
  induction l generalizing a m with
  | nil => exact ⟨a, rfl, by simpa using ha⟩
  | cons x rest ih =>
    simp only [List.map_cons, List.sum_cons] at small ⊢
    have htri := Int.natAbs_add_le m (n x)
    obtain ⟨c, hc, hcount⟩ := ha.add hp (hl x List.mem_cons_self) (by omega)
    obtain ⟨e, he, hsum⟩ := ih (fun y hy => hl y (List.mem_cons_of_mem x hy)) hcount (by omega)
    refine ⟨e, ?_, by rw [← Int.add_assoc]; exact hsum⟩
    rw [List.foldlM_cons, hc]
    exact he

/-- A sum is exact when the magnitudes together have room. -/
theorem counts_sum {α : Type} {f : α → Decimal} {n : α → Int} (hp : p ≤ 28) {l : List α}
    (hl : ∀ x ∈ l, Counts p (f x) (n x)) (small : (l.map fun x => (n x).natAbs).sum < mantissaLimit) :
    ∃ c, Decimal.sum (l.map f) = .ok c ∧ Counts p c (l.map n).sum := by
  obtain ⟨c, hc, hcount⟩ := (counts_zero p).foldlM_add hp hl (by simpa using small)
  exact ⟨c, hc, by simpa using hcount⟩

end Arithmetic

end Decimal

end FundLedger
