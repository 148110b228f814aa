import Mathlib.Algebra.Order.Field.Basic
import Mathlib.Data.Rat.Lemmas
import Mathlib.Tactic.Linarith
import Mathlib.Tactic.FieldSimp
import FundLedger.Proofs.Quotients
/-!
# Percentages

A percentage is rounded twice: the quotient to the last digit that a decimal has room for, and what comes of it to two
places.  The first rounding does no harm.  A ratio that is no tie is at least half a unit of its denominator away from
one, which is more than the quotient is off; and a ratio that is a tie has so few digits that the quotient is exact.  So
the percentage is the exact ratio rounded once.

* `Decimal.value`, `Decimal.IsHalfEven`: numbers as fractions, and fractions rounded half to even.
* `Decimal.quotientHalfEven_twice`: a quotient that is rounded to finer units first.
* `Decimal.IsNearest.exists_places`: how many places the quotient of two amounts has.
* `percentage_eq`, `percentage_isHalfEven`: the percentage of a part in a whole.
-/

namespace FundLedger

namespace Decimal

/-! ## Rounding twice -/

section QuotientHalfEven

variable {m d e k : Nat}

/-- The nearest number to a quotient, from the middle the even one. -/
theorem quotientHalfEven_eq_iff (hd : 0 < d) :
    quotientHalfEven m d = k ↔
      2 * m ≤ 2 * (k * d) + d ∧ 2 * (k * d) ≤ 2 * m + d ∧
        (2 * m = 2 * (k * d) + d ∨ 2 * (k * d) = 2 * m + d → k % 2 = 0) := by
  have hmod := Nat.div_add_mod' m d
  have hlt := Nat.mod_lt m hd
  constructor
  · rintro rfl
    unfold quotientHalfEven
    split
    · rw [Nat.add_mul]
      omega
    · omega
  · rintro ⟨hlow, hhigh, heven⟩
    -- within half a divisor there are the quotient and the next number only
    have hle : m / d ≤ k := by
      refine Nat.lt_succ_iff.mp (Nat.lt_of_mul_lt_mul_right (a := d) ?_)
      rw [Nat.succ_mul]
      omega
    have hge : k ≤ m / d + 1 := by
      refine Nat.lt_succ_iff.mp (Nat.lt_of_mul_lt_mul_right (a := d) ?_)
      rw [Nat.succ_mul, Nat.succ_mul]
      omega
    unfold quotientHalfEven
    rcases Nat.eq_or_lt_of_le hle with rfl | hgt
    · split <;> omega
    · obtain rfl : k = m / d + 1 := by omega
      rw [Nat.add_mul] at hlow hhigh heven
      split <;> omega

/-- In finer units a half is exact, so that it is rounded once only. -/
theorem quotientHalfEven_twice_of_half (hd : 0 < d) (he : 0 < e) (hk : 2 * m = k * d) :
    quotientHalfEven (quotientHalfEven (m * (2 * e)) d) (2 * e) = quotientHalfEven m d := by
  have hexact : quotientHalfEven (m * (2 * e)) d = k * e := by
    rw [← quotientHalfEven_mul (k * e) hd, Nat.mul_right_comm k, ← hk]
    congr 1
    ring
  calc quotientHalfEven (quotientHalfEven (m * (2 * e)) d) (2 * e)
    _ = quotientHalfEven k 2 := by rw [hexact, quotientHalfEven_mul_right k 2 he]
    _ = quotientHalfEven (m * 2) (d * 2) := by
        rw [← quotientHalfEven_mul_right k 2 hd, ← hk, Nat.mul_comm m, Nat.mul_comm d]
    _ = quotientHalfEven m d := quotientHalfEven_mul_right m d (by decide)

/-- Elsewhere the distance from the middle is more than what the finer units are off. -/
theorem quotientHalfEven_twice_of_nearer (hd : 0 < d) (hde : d < 2 * e) (hbelow : 2 * m < 2 * (k * d) + d)
    (habove : 2 * (k * d) < 2 * m + d) : quotientHalfEven (quotientHalfEven (m * (2 * e)) d) (2 * e) = k := by
  have he : 0 < 2 * e := by omega
  obtain ⟨hlow, hhigh⟩ := quotientHalfEven_error (m * (2 * e)) hd
  generalize quotientHalfEven (m * (2 * e)) d = r at hlow hhigh
  have hrhigh : 2 * r < 2 * (k * (2 * e)) + 2 * e := by
    refine Nat.lt_of_mul_lt_mul_right (a := d) ?_
    calc 2 * r * d
      _ = 2 * (r * d) := by ring
      _ ≤ 2 * (m * (2 * e)) + d := hhigh
      _ < (2 * m + 1) * (2 * e) := by rw [Nat.add_mul, Nat.mul_assoc]; omega
      _ ≤ (2 * (k * d) + d) * (2 * e) := Nat.mul_le_mul_right _ hbelow
      _ = (2 * (k * (2 * e)) + 2 * e) * d := by ring
  have hrlow : 2 * (k * (2 * e)) < 2 * r + 2 * e := by
    refine Nat.lt_of_mul_lt_mul_right (a := d) ?_
    have hroom : (2 * (k * d) + 1) * (2 * e) ≤ (2 * m + d) * (2 * e) := Nat.mul_le_mul_right _ habove
    have hleft : (2 * (k * d) + 1) * (2 * e) = 2 * (k * (2 * e)) * d + 2 * e := by ring
    have hright : (2 * m + d) * (2 * e) = 2 * (m * (2 * e)) + 2 * e * d := by ring
    have hsum : (2 * r + 2 * e) * d = 2 * (r * d) + 2 * e * d := by ring
    omega
  rw [quotientHalfEven_eq_iff he]
  exact ⟨hrhigh.le, hrlow.le, fun htie => by omega⟩

/-- A quotient may be rounded to an even number of finer units first, if there are more of them than its denominator can
tell apart. -/
theorem quotientHalfEven_twice (hd : 0 < d) (hde : d < 2 * e) :
    quotientHalfEven (quotientHalfEven (m * (2 * e)) d) (2 * e) = quotientHalfEven m d := by
  have he : 0 < e := by omega
  obtain ⟨hlow, hhigh⟩ := quotientHalfEven_error m hd
  rcases Nat.lt_or_eq_of_le hlow with hbelow | hmiddle
  swap
  · refine quotientHalfEven_twice_of_half hd he (k := 2 * quotientHalfEven m d + 1) ?_
    rw [hmiddle]
    ring
  rcases Nat.lt_or_eq_of_le hhigh with habove | hmiddle
  swap
  · refine quotientHalfEven_twice_of_half hd he (k := 2 * quotientHalfEven m d - 1) ?_
    rw [Nat.sub_mul, Nat.mul_assoc, hmiddle]
    omega
  exact quotientHalfEven_twice_of_nearer hd hde hbelow habove

end QuotientHalfEven

/-! ## Fractions -/

/-- The value as a fraction. -/
def value (a : Decimal) : ℚ := a.units / 10 ^ 28

/-- A fraction with so many places that is nearest to another one, from the middle the one with an even last digit. -/
def IsHalfEven (places : Nat) (x y : ℚ) : Prop :=
  ∃ k : ℤ, y = k / 10 ^ places ∧ |x * 10 ^ places - k| ≤ 1 / 2 ∧ (|x * 10 ^ places - k| = 1 / 2 → Even k)

section IsHalfEven

variable {places m d : Nat} {x y y' : ℚ}

/-- There is one such fraction only. -/
theorem IsHalfEven.unique (h : IsHalfEven places x y) (h' : IsHalfEven places x y') : y = y' := by
  obtain ⟨k, rfl, hk, heven⟩ := h
  obtain ⟨k', rfl, hk', heven'⟩ := h'
  suffices hsame : k = k' by rw [hsame]
  by_contra hne
  have hfar : (1 : ℚ) ≤ |(k : ℚ) - k'| := by exact_mod_cast Int.one_le_abs (sub_ne_zero.mpr hne)
  have htri : |(k : ℚ) - k'| ≤ |(k : ℚ) - x * 10 ^ places| + |x * 10 ^ places - k'| := abs_sub_le _ _ _
  rw [abs_sub_comm (k : ℚ) (x * 10 ^ places)] at htri
  -- two of them would be on both sides of the middle, and both be even
  have hparity := (heven (by linarith)).sub (heven' (by linarith))
  have hnear : |(k : ℚ) - k'| ≤ 1 := by linarith
  have hnear' : |k - k'| ≤ 1 := by exact_mod_cast hnear
  obtain ⟨j, hj⟩ := hparity
  have hodd := abs_le.mp hnear'
  omega

/-- The sign does not matter. -/
theorem IsHalfEven.sign_mul (h : IsHalfEven places x y) (z : ℤ) : IsHalfEven places (z.sign * x) (z.sign * y) := by
  obtain ⟨k, rfl, hk, heven⟩ := h
  refine ⟨z.sign * k, by push_cast; ring, ?_⟩
  have hdistance : (z.sign : ℚ) * x * 10 ^ places - ((z.sign * k : ℤ) : ℚ) = z.sign * (x * 10 ^ places - k) := by
    push_cast
    ring
  rw [hdistance]
  rcases Int.sign_trichotomy z with hz | hz | hz
  · rw [hz, Int.cast_one, one_mul, Int.one_mul]
    exact ⟨hk, heven⟩
  · rw [hz, Int.cast_zero, zero_mul, abs_zero, Int.zero_mul]
    exact ⟨by norm_num, fun _ => Even.zero⟩
  · rw [hz, Int.cast_neg, Int.cast_one, neg_one_mul, abs_neg, Int.neg_one_mul]
    exact ⟨hk, fun htie => (heven htie).neg⟩

/-- A quotient of numbers that is rounded half to even. -/
theorem isHalfEven_quotient (places m : Nat) (hd : 0 < d) :
    IsHalfEven places (m / d) (quotientHalfEven (m * 10 ^ places) d / 10 ^ places) := by
  obtain ⟨hlow, hhigh, heven⟩ := (quotientHalfEven_eq_iff hd).mp (rfl : quotientHalfEven (m * 10 ^ places) d = _)
  generalize quotientHalfEven (m * 10 ^ places) d = k at hlow hhigh heven
  have hpos : (0 : ℚ) < d := by exact_mod_cast hd
  refine ⟨k, by push_cast; rfl, ?_⟩
  have hdistance : (m : ℚ) / d * 10 ^ places - ((k : ℤ) : ℚ) = (m * 10 ^ places - k * d) / d := by
    push_cast
    field_simp
  rw [hdistance, abs_div, abs_of_pos hpos, div_le_iff₀ hpos, div_eq_iff hpos.ne']
  have hlow' : (2 : ℚ) * (m * 10 ^ places) ≤ 2 * (k * d) + d := by exact_mod_cast hlow
  have hhigh' : (2 : ℚ) * (k * d) ≤ 2 * (m * 10 ^ places) + d := by exact_mod_cast hhigh
  refine ⟨abs_le.mpr ⟨by linarith, by linarith⟩, fun htie => ?_⟩
  have hmiddle : 2 * (m * 10 ^ places) = 2 * (k * d) + d ∨ 2 * (k * d) = 2 * (m * 10 ^ places) + d := by
    rcases abs_cases ((m : ℚ) * 10 ^ places - k * d) with ⟨habs, -⟩ | ⟨habs, -⟩
    · have hsum : (2 : ℚ) * (m * 10 ^ places) = 2 * (k * d) + d := by linarith
      exact .inl (by exact_mod_cast hsum)
    · have hsum : (2 : ℚ) * (k * d) = 2 * (m * 10 ^ places) + d := by linarith
      exact .inr (by exact_mod_cast hsum)
  exact_mod_cast Nat.even_iff.mpr (heven hmiddle)

end IsHalfEven

/-! ## The quotient and its percents -/

section Percent

variable {a b : Decimal} {M N q s u p : Nat} {m n : Int}

/-- The quotient of amounts of this size has places enough to tell a ratio from a tie. -/
theorem IsNearest.exists_places (hN : 0 < N) (hM : M ≤ 10 ^ 18) (hN' : N ≤ 10 ^ 18) (h : IsNearest M N u) :
    ∃ s, 5 ≤ s ∧ s ≤ 28 ∧ ratioAt M N s < mantissaLimit ∧ u = ratioAt M N s * 10 ^ (28 - s) ∧ N < 10 ^ (s - 4) := by
  obtain ⟨s, hs, hroom, hfull, hu⟩ := h
  have hfive : 5 ≤ s := by
    by_contra hlt
    -- nine places have room in any case
    have hnine : ratioAt M N 9 ≤ M * 10 ^ 9 := quotientHalfEven_le _ _
    have hover := hfull 9 (by decide) (by omega)
    unfold mantissaLimit at hover
    omega
  refine ⟨s, hfive, hs, hroom, hu, ?_⟩
  obtain ⟨j, rfl⟩ : ∃ j, s = j + 4 := ⟨s - 4, by omega⟩
  rw [Nat.add_sub_cancel]
  rcases Nat.eq_or_lt_of_le hs with heq | hlt
  · obtain rfl : j = 24 := by omega
    exact Nat.lt_of_le_of_lt hN' (by decide)
  · have hover : mantissaLimit ≤ ratioAt M N (j + 4 + 1) := hfull _ hlt (Nat.lt_succ_self _)
    have herror : 2 * (ratioAt M N (j + 4 + 1) * N) ≤ 2 * (M * 10 ^ (j + 4 + 1)) + N := (quotientHalfEven_error _ hN).2
    have hcount : mantissaLimit * N ≤ ratioAt M N (j + 4 + 1) * N := Nat.mul_le_mul_right N hover
    have hsize : M * 10 ^ (j + 4 + 1) ≤ 10 ^ 18 * 10 ^ (j + 4 + 1) := Nat.mul_le_mul_right _ hM
    have hpow : 10 ^ (j + 4 + 1) = 100000 * 10 ^ j := by ring
    unfold mantissaLimit at hcount
    omega

/-- A quotient that leaves room for two digits before its point has percents without any rounding. -/
theorem mul_hundred_eq (hs : 2 ≤ s) (hs' : s ≤ 28) (hq : q < mantissaLimit) (ha : a.units.natAbs = q * 10 ^ (28 - s)) :
    ∃ c, a.mul hundred = .ok c ∧ c.units = 100 * a.units := by
  have hpos : 0 < 10 ^ 56 := Nat.pow_pos (by decide)
  have hunits : hundred.units.natAbs = 10 ^ 30 := by decide
  obtain ⟨j, rfl⟩ : ∃ j, s = j + 2 := ⟨s - 2, by omega⟩
  have hexact : a.units.natAbs * hundred.units.natAbs * 10 ^ j = q * 10 ^ 56 := by
    have hsplit : 10 ^ 56 = 10 ^ (28 - (j + 2)) * 10 ^ 30 * 10 ^ j := by
      rw [← pow_add, ← pow_add]
      congr 1
      omega
    rw [ha, hunits, hsplit, Nat.mul_assoc, Nat.mul_assoc, Nat.mul_assoc]
  have hnearest := isNearest_of_exact hpos (by omega : j ≤ 28) hq hexact
  rcases isRounded_mul a hundred a.scale_le with ⟨c, hc, hnearest', hsign⟩ | ⟨-, hover⟩
  · refine ⟨c, hc, ?_⟩
    have hmagnitude : c.units.natAbs = 100 * a.units.natAbs := by
      rw [hnearest'.unique hpos hpos rfl hnearest, ha, show 28 - j = 28 - (j + 2) + 2 by omega]
      ring
    rw [hsign, hmagnitude, show hundred.units.sign = 1 by decide, Int.mul_one, Nat.cast_mul, mul_left_comm,
      Int.sign_mul_natAbs]
    rfl
  · exact absurd hnearest.ratioAt_zero_lt (Nat.not_lt.mpr hover)

/-- The percents of a quotient, rounded to two places, are those of the ratio. -/
theorem IsNearest.hundredfold (hN : 0 < N) (hM : M ≤ 10 ^ 18) (hN' : N ≤ 10 ^ 18) (h : IsNearest M N u) :
    quotientHalfEven (100 * u) (10 ^ 26) = quotientHalfEven (100 * M * 10 ^ 2) N := by
  obtain ⟨s, hfive, hs, -, rfl, hsmall⟩ := h.exists_places hN hM hN'
  obtain ⟨j, rfl⟩ : ∃ j, s = j + 5 := ⟨s - 5, by omega⟩
  have heven : 10 ^ (j + 5 - 4) = 2 * (5 * 10 ^ j) := by
    rw [Nat.add_sub_assoc (by decide)]
    ring
  have hscaled : M * 10 ^ (j + 5) = 100 * M * 10 ^ 2 * (2 * (5 * 10 ^ j)) := by ring
  have hplaces :
      100 * (ratioAt M N (j + 5) * 10 ^ (28 - (j + 5))) = ratioAt M N (j + 5) * 10 ^ (28 - (j + 5) + 2) := by ring
  have hunit : 10 ^ 26 = 2 * (5 * 10 ^ j) * 10 ^ (28 - (j + 5) + 2) := by
    rw [← heven, ← pow_add]
    congr 1
    omega
  rw [heven] at hsmall
  rw [hplaces, hunit, quotientHalfEven_mul_right _ _ (Nat.pow_pos (by decide)), ratioAt, hscaled]
  exact quotientHalfEven_twice hN hsmall

theorem nearest_sign_mul (p : Nat) (z : Int) (u : Nat) :
    nearest p (z.sign * u) = z.sign * quotientHalfEven u (10 ^ (28 - p)) := by
  rcases Int.sign_trichotomy z with hz | hz | hz
  · rw [hz, Int.one_mul, Int.one_mul]
    exact nearest_of_nonneg p (Int.natCast_nonneg u)
  · rw [hz, Int.zero_mul, Int.zero_mul, nearest, Int.sign_zero, Int.zero_mul]
  · rw [hz, Int.neg_one_mul, Int.neg_one_mul]
    rcases Nat.eq_zero_or_pos u with rfl | hu
    · simp [nearest, quotientHalfEven]
    · rw [nearest_of_neg p (by omega), Int.natAbs_neg, Int.natAbs_natCast]

/-- The quotient of two amounts is the nearest decimal to their ratio; it always has room. -/
theorem Counts.div (ha : Counts p a m) (hb : Counts p b n) (hn : n ≠ 0) (hm : m.natAbs ≤ 10 ^ 18) :
    ∃ c, a.div b = .ok c ∧ IsNearest m.natAbs n.natAbs c.units.natAbs ∧ c.units = (m * n).sign * c.units.natAbs := by
  have hunit := minorUnit_pos p
  have hunit' : 0 < (minorUnit p).natAbs := Int.natAbs_pos.mpr hunit.ne'
  have hN : 0 < n.natAbs := Int.natAbs_pos.mpr hn
  have hb0 : b.mantissa ≠ 0 := fun h0 => hn (hb.eq_zero h0)
  have hquotient := isRounded_div a hb0
  rw [ha, hb, Int.natAbs_mul, Int.natAbs_mul, Int.sign_mul, Int.sign_mul, Int.sign_eq_one_of_pos hunit, Int.mul_one,
    Int.mul_one, ← Int.sign_mul] at hquotient
  have hd : 0 < n.natAbs * (minorUnit p).natAbs := Nat.mul_pos hN hunit'
  have hratio : m.natAbs * (minorUnit p).natAbs * n.natAbs = m.natAbs * (n.natAbs * (minorUnit p).natAbs) := by ring
  rcases hquotient with ⟨c, hc, hnearest, hsign⟩ | ⟨-, hover⟩
  · exact ⟨c, hc, hnearest.congr hd hN hratio, hsign⟩
  · rw [ratioAt_congr hd hN hratio 0, ratioAt, pow_zero, Nat.mul_one] at hover
    have hle := quotientHalfEven_le m.natAbs n.natAbs
    unfold mantissaLimit at hover
    omega

/-- A number of minor units as a fraction. -/
theorem Counts.value_eq (ha : Counts p a m) (hp : p ≤ 28) : a.value = (m : ℚ) / 10 ^ p := by
  have hunit : (minorUnit p : ℚ) = 10 ^ (28 - p) := Int.cast_natCast (10 ^ (28 - p)) |>.trans (Nat.cast_pow _ _)
  have hsplit : (10 : ℚ) ^ 28 = 10 ^ p * 10 ^ (28 - p) := by rw [← pow_add, Nat.add_sub_cancel' hp]
  unfold value
  rw [ha, Int.cast_mul, hunit, hsplit, mul_div_mul_right _ _ (pow_ne_zero _ (by norm_num))]

/-- The ratio of two amounts is that of the numbers of minor units. -/
theorem Counts.value_div (ha : Counts p a m) (hb : Counts p b n) : a.value / b.value = (m : ℚ) / n := by
  have hunit : (minorUnit p : ℚ) ≠ 0 := by exact_mod_cast (minorUnit_pos p).ne'
  unfold value
  rw [div_div_div_cancel_right₀ (by norm_num), ha, hb, Int.cast_mul, Int.cast_mul, mul_div_mul_right _ _ hunit]

theorem sign_mul_natAbs_div (m : Int) (hn : n ≠ 0) : ((m * n).sign : ℚ) * (m.natAbs / n.natAbs) = m / n := by
  have hm : (m.sign : ℚ) * m.natAbs = m := by
    rw [Nat.cast_natAbs]
    exact_mod_cast Int.sign_mul_abs m
  rw [Int.sign_mul, Int.cast_mul, mul_comm (m.sign : ℚ), mul_assoc, ← mul_div_assoc, hm]
  rcases lt_or_gt_of_ne hn with hneg | hpos
  · have habs : (n.natAbs : ℚ) = -n := by rw [Nat.cast_natAbs, abs_of_neg hneg, Int.cast_neg]
    rw [Int.sign_eq_neg_one_of_neg hneg, habs, div_neg, Int.cast_neg, Int.cast_one, neg_one_mul, neg_neg]
  · have habs : (n.natAbs : ℚ) = n := by rw [Nat.cast_natAbs, abs_of_pos hpos]
    rw [Int.sign_eq_one_of_pos hpos, habs, Int.cast_one, one_mul]

end Percent

end Decimal

open Decimal

section Percentage

variable {places : Nat} {part whole : Decimal} {m n : Int}

/-- Amounts of up to `10 ^ 18` minor units have a percentage, and both roundings together round their ratio once. -/
theorem percentage_eq (hpart : part.Counts places m) (hwhole : whole.Counts places n) (hn : n ≠ 0)
    (hm : m.natAbs ≤ 10 ^ 18) (hn' : n.natAbs ≤ 10 ^ 18) :
    ∃ percent, percentage part whole = .ok (some percent) ∧
      percent.Counts 2 ((m * n).sign * quotientHalfEven (100 * m.natAbs * 10 ^ 2) n.natAbs) := by
  have hN : 0 < n.natAbs := Int.natAbs_pos.mpr hn
  obtain ⟨share, hshare, hnearest, hsign⟩ := hpart.div hwhole hn hm
  obtain ⟨s, hfive, hs, hroom, hdigits, -⟩ := hnearest.exists_places hN hm hn'
  obtain ⟨c, hc, hunits⟩ := mul_hundred_eq (by omega) hs hroom hdigits
  have hwhole0 : whole.isZero = false := by
    rw [← Bool.not_eq_true, isZero_iff, hwhole]
    exact mul_ne_zero hn (minorUnit_pos places).ne'
  refine ⟨c.round 2, ?_, ?_⟩
  · simp only [percentage, hwhole0, hshare, hc, bind, Except.bind, pure, Except.pure, Bool.false_eq_true, if_false]
  have hvalue : c.units = (m * n).sign * (100 * share.units.natAbs : Nat) := by
    calc c.units
      _ = 100 * ((m * n).sign * share.units.natAbs) := hunits.trans (congrArg (100 * ·) hsign)
      _ = (m * n).sign * (100 * share.units.natAbs : Nat) := mul_left_comm _ _ _
  have hrounded := counts_round c (by decide : 2 ≤ 28)
  rwa [hvalue, nearest_sign_mul, hnearest.hundredfold hN hm hn'] at hrounded

/-- The ratio of two amounts in percent, rounded half to even. -/
theorem isHalfEven_ratio (hpart : part.Counts places m) (hwhole : whole.Counts places n) (hn : n ≠ 0) :
    IsHalfEven 2 (100 * part.value / whole.value)
      (((m * n).sign * quotientHalfEven (100 * m.natAbs * 10 ^ 2) n.natAbs : ℤ) / 10 ^ 2) := by
  have hquotient := (isHalfEven_quotient 2 (100 * m.natAbs) (Int.natAbs_pos.mpr hn)).sign_mul (m * n)
  have hratio : ((m * n).sign : ℚ) * ((100 * m.natAbs : Nat) / n.natAbs) = 100 * part.value / whole.value := by
    rw [mul_div_assoc, hpart.value_div hwhole, ← sign_mul_natAbs_div m hn]
    push_cast
    ring
  rwa [hratio, ← mul_div_assoc, ← Int.cast_natCast (quotientHalfEven _ _), ← Int.cast_mul] at hquotient

/-- A percentage is the exact ratio of part and whole in percent, rounded once, half to even, to two places.  Amounts of
up to `10 ^ 18` minor units always have one, whatever the currency, the signs and the scales they are kept at. -/
theorem percentage_isHalfEven (hpart : part.Counts places m) (hwhole : whole.Counts places n) (hn : n ≠ 0)
    (hm : m.natAbs ≤ 10 ^ 18) (hn' : n.natAbs ≤ 10 ^ 18) :
    ∃ percent, percentage part whole = .ok (some percent) ∧
      ∀ y : ℚ, IsHalfEven 2 (100 * part.value / whole.value) y ↔ y = percent.value := by
  obtain ⟨percent, hpercent, hcounts⟩ := percentage_eq hpart hwhole hn hm hn'
  refine ⟨percent, hpercent, fun y => ?_⟩
  have hhalf := isHalfEven_ratio hpart hwhole hn
  rw [← hcounts.value_eq (by decide)] at hhalf
  constructor
  · intro hy
    exact hy.unique hhalf
  · rintro rfl
    exact hhalf

end Percentage

/-- A cent in eight dollars is an eighth of a percent, in the middle between `0.12` and `0.13`. -/
theorem percentage_cent_of_eight_dollars :
    ∃ percent, percentage ⟨false, 1, 2, by decide, by decide⟩ ⟨false, 800, 2, by decide, by decide⟩ = .ok (some percent) ∧
      percent.text = "0.12" ∧ IsHalfEven 2 (1 / 8) percent.value := by
  have hcent : Counts 2 ⟨false, 1, 2, by decide, by decide⟩ 1 := rfl
  have hdollars : Counts 2 ⟨false, 800, 2, by decide, by decide⟩ 800 := rfl
  obtain ⟨percent, hpercent, hround⟩ := percentage_isHalfEven hcent hdollars (by decide) (by decide) (by decide)
  have hresult : percentage ⟨false, 1, 2, by decide, by decide⟩ ⟨false, 800, 2, by decide, by decide⟩ =
      .ok (some ⟨false, 12, 2, by decide, by decide⟩) := by decide +kernel
  obtain rfl := Option.some.inj (Except.ok.inj (hpercent.symm.trans hresult))
  refine ⟨_, hpercent, by decide +kernel, ?_⟩
  have hhalf := (hround _).mpr rfl
  rw [mul_div_assoc, hcent.value_div hdollars] at hhalf
  convert hhalf using 1
  norm_num

end FundLedger
