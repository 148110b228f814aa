import FundLedger.Proofs.Headroom
import FundLedger.Proofs.NearestDecimal
/-!
# Quotients of decimals

A long division adds digits, as many at a time as have room, to a quotient that stands for the whole ratio together with
its remainder.  It ends with the nearest decimal to the ratio, or when even the integer part has no room.  So a quotient
depends on the values of the operands alone, whatever scales they are kept at, and so does a percentage.

* `Decimal.IsPartial`: a quotient and a remainder that stand for a ratio.
* `Decimal.longDivision_isQuotient`: the rounds of the division.
* `Decimal.isRounded_div`, `Decimal.isRounded_mul`: quotients and products of decimals.
* `percentage_congr`: percentages of equal values.
-/

namespace FundLedger

namespace Decimal

/-! ## Rounds of the division -/

/-- A rounded quotient is not below a whole number that the exact one reaches. -/
theorem le_quotientHalfEven_of_mul_le {m q d : Nat} (hd : 0 < d) (h : q * d ≤ m) : q ≤ quotientHalfEven m d := by
  have hle := quotientHalfEven_le_of_le (d := d) h
  rwa [quotientHalfEven_mul q hd] at hle

/-- What is divided is `q * divisor + r` with so many places: the ratio `m / d` is that over the divisor. -/
structure IsPartial (m d divisor q r : Nat) (places : Int) : Prop where
  rest : r < divisor
  value : ∀ s j : Nat, (s : Int) = places + j → m * 10 ^ s * divisor = (q * divisor + r) * 10 ^ j * d

section IsPartial

variable {m d divisor q r s j p : Nat} {places : Int}

theorem IsPartial.ratioAt_eq (h : IsPartial m d divisor q r places) (hd : 0 < d) (hs : (s : Int) = places + j) :
    ratioAt m d s = quotientHalfEven ((q * divisor + r) * 10 ^ j) divisor := by
  have hdivisor : 0 < divisor := Nat.zero_lt_of_lt h.rest
  unfold ratioAt
  rw [← quotientHalfEven_mul_right _ d hdivisor, h.value s j hs, Nat.mul_comm d divisor,
    quotientHalfEven_mul_right _ divisor hd]

/-- The ratio has the digits of the quotient. -/
theorem IsPartial.le_ratioAt (h : IsPartial m d divisor q r places) (hd : 0 < d) (hs : (s : Int) = places + j) :
    q * 10 ^ j ≤ ratioAt m d s := by
  rw [h.ratioAt_eq hd hs]
  refine le_quotientHalfEven_of_mul_le (Nat.zero_lt_of_lt h.rest) ?_
  rw [Nat.mul_right_comm]
  exact Nat.mul_le_mul_right _ (Nat.le_add_right _ _)

/-- More digits, and what remains then. -/
theorem IsPartial.addDigits (h : IsPartial m d divisor q r places) (p : Nat) :
    IsPartial m d divisor (q * 10 ^ p + r * 10 ^ p / divisor) (r * 10 ^ p % divisor) (places + p) where
  rest := Nat.mod_lt _ (Nat.zero_lt_of_lt h.rest)
  value := by
    intro s j hs
    have hdigits : (q * 10 ^ p + r * 10 ^ p / divisor) * divisor + r * 10 ^ p % divisor = (q * divisor + r) * 10 ^ p := by
      rw [Nat.add_mul, Nat.add_assoc, Nat.div_add_mod', Nat.add_mul, Nat.mul_right_comm]
    rw [hdigits, Nat.mul_assoc _ (10 ^ p), ← pow_add]
    exact h.value s (p + j) (by omega)

end IsPartial

/-- What a division results in: the nearest decimal to the ratio, unless its integer part has no room. -/
def IsQuotient (m d : Nat) : Option (Nat × Int × Bool) → Prop
  | some (q, places, _) =>
    q < mantissaLimit ∧ 0 ≤ places ∧ places ≤ 28 ∧ IsNearest m d (q * 10 ^ (28 - places.toNat))
  | none => mantissaLimit ≤ ratioAt m d 0

section Rounds

variable {m d divisor q r : Nat} {places : Int}

/-- The largest of the numbers up to `n` with a property that zero has. -/
theorem find?_range_reverse {f : Nat → Bool} (h0 : f 0 = true) (n : Nat) :
    ∃ p ≤ n, (List.range (n + 1)).reverse.find? f = some p ∧ f p = true ∧ ∀ i ≤ n, p < i → f i = false := by
  induction n with
  | zero => exact ⟨0, le_rfl, by simp [h0], h0, fun i hi hlt => absurd hlt (by omega)⟩
  | succ n ih =>
    rw [List.range_succ, List.reverse_append, List.reverse_singleton, List.singleton_append]
    cases hf : f (n + 1) with
    | true => exact ⟨n + 1, le_rfl, List.find?_cons_of_pos hf, hf, fun i hi hlt => absurd hlt (by omega)⟩
    | false =>
      obtain ⟨p, hp, hfind, hfp, hlast⟩ := ih
      refine ⟨p, by omega, (List.find?_cons_of_neg (by simp [hf])).trans hfind, hfp, fun i hi hlt => ?_⟩
      rcases Nat.lt_or_ge n i with hni | hin
      · rwa [show i = n + 1 by omega]
      · exact hlast i hin hlt

/-- The digits that a round adds have room, and one more has none unless all are added that may be. -/
theorem digitsToAdd_spec (hq : q < mantissaLimit) (hr : r ≠ 0) (places : Int) :
    digitsToAdd q r places ≤ 9 ∧ q * 10 ^ digitsToAdd q r places < mantissaLimit ∧
      (digitsToAdd q r places < 9 → (digitsToAdd q r places : Int) + places < 28 →
        mantissaLimit ≤ q * 10 ^ (digitsToAdd q r places + 1)) := by
  obtain ⟨p, hp, hfind, hroom, hlast⟩ :=
    find?_range_reverse (f := fun p => decide (q * Nat.pow 10 p < mantissaLimit)) (by simpa using hq)
      (min 9 (28 - places).toNat)
  have hdigits : digitsToAdd q r places = p := by
    unfold digitsToAdd
    rw [if_neg hr, hfind]
    rfl
  rw [hdigits]
  refine ⟨by omega, of_decide_eq_true hroom, fun h9 hplaces => ?_⟩
  exact Nat.not_lt.mp (of_decide_eq_false (hlast (p + 1) (by omega) (Nat.lt_succ_self p)))

/-- With nothing left, digits are added until the point is reached. -/
theorem digitsToAdd_zero (q : Nat) (places : Int) : digitsToAdd q 0 places = min 9 (-places).toNat := by
  unfold digitsToAdd
  rw [if_pos rfl]

/-- When no digit is added, something remains, or there is nothing more to do. -/
theorem ne_zero_of_digitsToAdd (hmore : ¬(r = 0 ∧ 0 ≤ places)) (hp : digitsToAdd q r places = 0) : r ≠ 0 := by
  rintro rfl
  rw [digitsToAdd_zero] at hp
  omega

/-- Rounded to one place less, when the last digits have no room. -/
theorem oneDigitLess_isQuotient (hd : 0 < d) (h : IsPartial m d divisor q r places) (hplaces : places ≤ 28)
    (hq : q < 2 * mantissaLimit) (hfull : ∀ s j : Nat, (s : Int) = places + j → mantissaLimit ≤ ratioAt m d s) :
    IsQuotient m d (oneDigitLess divisor q r places) := by
  have hdivisor : 0 < divisor := Nat.zero_lt_of_lt h.rest
  unfold oneDigitLess
  split
  · rename_i hpositive
    obtain ⟨s, hs⟩ : ∃ s : Nat, (s : Int) = places - 1 := ⟨(places - 1).toNat, by omega⟩
    have hratio : ratioAt m d s = quotientHalfEven (q * divisor + r) (10 * divisor) := by
      have hvalue := h.value (s + 1) 0 (by omega)
      rw [pow_zero, Nat.mul_one] at hvalue
      have hten : 0 < 10 * divisor := by omega
      unfold ratioAt
      rw [← quotientHalfEven_mul_right _ d hten, ← quotientHalfEven_mul_right _ (10 * divisor) hd, ← hvalue, pow_succ,
        Nat.mul_comm d]
      congr 1
      ring
    have hroom : ratioAt m d s < mantissaLimit := by
      have hbelow : q * divisor + r ≤ (mantissaLimit - 1) * (10 * divisor) := by
        have hrest := h.rest
        have hmul : q * divisor + divisor ≤ 2 * mantissaLimit * divisor := by
          rw [← Nat.succ_mul]
          exact Nat.mul_le_mul_right _ hq
        unfold mantissaLimit at hmul ⊢
        omega
      rw [hratio]
      have hle := quotientHalfEven_le_of_le_mul (by omega : 0 < 10 * divisor) hbelow
      unfold mantissaLimit at hle ⊢
      omega
    have hnearest := isNearest_of_last (by omega : s ≤ 28) hroom fun _ => hfull (s + 1) 0 (by omega)
    have hplace : (places - 1).toNat = s := by omega
    change _ ∧ _ ∧ _ ∧ _
    rw [hplace, ← hratio]
    exact ⟨hroom, by omega, by omega, hnearest⟩
  · rename_i hpositive
    exact hfull 0 (-places).toNat (by omega)

/-- Nothing remains: the quotient is the ratio. -/
theorem isQuotient_of_exact (hd : 0 < d) (h : IsPartial m d divisor q 0 places) (hq : q < mantissaLimit)
    (hpositive : 0 ≤ places) (hplaces : places ≤ 28) (inexact : Bool) : IsQuotient m d (some (q, places, inexact)) := by
  have hvalue := h.value places.toNat 0 (by omega)
  have hexact : m * 10 ^ places.toNat = q * d := by
    refine Nat.eq_of_mul_eq_mul_right (Nat.zero_lt_of_lt h.rest) (hvalue.trans ?_)
    ring
  exact ⟨hq, hpositive, hplaces, isNearest_of_exact hd (by omega) hq hexact⟩

/-- No digit can be added: the last one is rounded. -/
theorem isQuotient_of_last (hd : 0 < d) (h : IsPartial m d divisor q r places) (hq : q < mantissaLimit) (hr : r ≠ 0)
    (hplaces : places ≤ 28) (hdigits : digitsToAdd q r places = 0) (hpositive : 0 ≤ places) :
    IsQuotient m d
      (if quotientHalfEven (q * divisor + r) divisor < mantissaLimit then
        some (quotientHalfEven (q * divisor + r) divisor, places, true)
      else oneDigitLess divisor q r places) := by
  obtain ⟨s, rfl⟩ := Int.eq_ofNat_of_zero_le hpositive
  have hratio : ratioAt m d s = quotientHalfEven (q * divisor + r) divisor := by
    rw [h.ratioAt_eq hd (j := 0) (by omega), pow_zero, Nat.mul_one]
  rw [← hratio]
  split
  · rename_i hroom
    refine ⟨hroom, hpositive, hplaces, isNearest_of_last (by omega) hroom fun hs => ?_⟩
    obtain ⟨-, -, hfull⟩ := digitsToAdd_spec hq hr s
    rw [hdigits] at hfull
    exact (hfull (by decide) (by omega)).trans (h.le_ratioAt hd (by omega))
  · rename_i hroom
    refine oneDigitLess_isQuotient hd h hplaces (by omega) fun t j ht => ?_
    exact (Nat.not_lt.mp hroom).trans (ratioAt_le_of_le (by omega))

/-- The rounds of a division end with the nearest decimal to the ratio. -/
theorem longDivision_isQuotient (hd : 0 < d) (inexact : Bool) (h : IsPartial m d divisor q r places)
    (hq : q < mantissaLimit) (hplaces : places ≤ 28) : IsQuotient m d (longDivision divisor q r places inexact) := by
  fun_induction longDivision divisor q r places inexact
  case case1 q r places inexact hdone =>
    obtain ⟨rfl, hpositive⟩ := hdone
    exact isQuotient_of_exact hd h hq hpositive hplaces inexact
  case case2 q r places inexact _ p hshort =>
    -- digits before the point are missing, and they have no room
    obtain ⟨hr, h9, hmissing⟩ := hshort
    obtain ⟨-, -, hfull⟩ := digitsToAdd_spec hq hr places
    calc mantissaLimit
      _ ≤ q * 10 ^ (p + 1) := hfull h9 (by omega)
      _ ≤ q * 10 ^ (-places).toNat := Nat.mul_le_mul_left q (Nat.pow_le_pow_right (by decide) (by omega))
      _ ≤ ratioAt m d 0 := h.le_ratioAt hd (by omega)
  case case3 q r places inexact hmore p hshort hp rounded hroom =>
    have hr := ne_zero_of_digitsToAdd hmore hp
    have hlast := isQuotient_of_last hd h hq hr hplaces hp (by omega)
    rwa [if_pos hroom] at hlast
  case case4 q r places inexact hmore p hshort hp rounded hroom =>
    have hr := ne_zero_of_digitsToAdd hmore hp
    have hlast := isQuotient_of_last hd h hq hr hplaces hp (by omega)
    rwa [if_neg hroom] at hlast
  case case5 q r places inexact _ p _ _ q' r' hroom ih =>
    have hdigits : p ≤ (28 - places).toNat := digitsToAdd_le q r places
    exact ih (h.addDigits p) hroom (by omega)
  case case6 q places inexact hmore p _ hp q' hroom =>
    -- nothing remains, but the zeros before the point have no room
    have hdigits : p = min 9 (-places).toNat := digitsToAdd_zero q places
    have hq' : q' = q * 10 ^ p := by simp [q']
    calc mantissaLimit
      _ ≤ q * 10 ^ p := hq' ▸ Nat.not_lt.mp hroom
      _ ≤ q * 10 ^ (-places).toNat := Nat.mul_le_mul_left q (Nat.pow_le_pow_right (by decide) (by omega))
      _ ≤ ratioAt m d 0 := h.le_ratioAt hd (by omega)
  case case7 q r places inexact _ p hshort _ q' r' hroom hr =>
    obtain ⟨h9, hbelow, -⟩ := digitsToAdd_spec hq hr places
    have hnext : IsPartial m d divisor q' r' (places + p) := h.addDigits p
    have hdigits : p ≤ (28 - places).toNat := digitsToAdd_le q r places
    have hrest : r * 10 ^ p / divisor < 10 ^ p := by
      refine Nat.div_lt_of_lt_mul ?_
      exact Nat.mul_lt_mul_of_pos_right h.rest (Nat.pow_pos (by decide))
    have hpow : 10 ^ p ≤ 10 ^ 9 := Nat.pow_le_pow_right (by decide) h9
    have hsum : q' = q * 10 ^ p + r * 10 ^ p / divisor := rfl
    have hq' : q' < 2 * mantissaLimit := by
      change q * 10 ^ p < mantissaLimit at hbelow
      unfold mantissaLimit at hbelow ⊢
      omega
    refine oneDigitLess_isQuotient hd hnext (by omega) hq' fun t j ht => ?_
    calc mantissaLimit
      _ ≤ q' := Nat.not_lt.mp hroom
      _ ≤ q' * 10 ^ j := Nat.le_mul_of_pos_right q' (Nat.pow_pos (by decide))
      _ ≤ ratioAt m d t := hnext.le_ratioAt hd ht

end Rounds

/-! ## Trailing zeros -/

section Zeros

theorem exists_pow_dropEightZeros (q places : Nat) :
    ∃ k, q = (dropEightZeros q places).1 * 10 ^ k ∧ places = (dropEightZeros q places).2 + k := by
  fun_induction dropEightZeros q places
  case case1 q places hzeros ih =>
    obtain ⟨-, hplaces, hmod⟩ := hzeros
    obtain ⟨k, hq, hk⟩ := ih
    refine ⟨k + 8, ?_, by omega⟩
    have hdiv : q = q / 100000000 * 10 ^ 8 := (Nat.div_mul_cancel (Nat.dvd_of_mod_eq_zero hmod)).symm
    rw [pow_add, ← Nat.mul_assoc, ← hq]
    exact hdiv
  case case2 q places _ => exact ⟨0, (Nat.mul_one q).symm, rfl⟩

theorem exists_pow_dropZeros (j : Nat) (number : Nat × Nat) :
    ∃ k, number.1 = (dropZeros j number).1 * 10 ^ k ∧ number.2 = (dropZeros j number).2 + k := by
  unfold dropZeros
  split
  · rename_i hzeros
    exact ⟨j, (Nat.div_mul_cancel (Nat.dvd_of_mod_eq_zero hzeros.2)).symm, (Nat.sub_add_cancel hzeros.1).symm⟩
  · exact ⟨0, (Nat.mul_one _).symm, rfl⟩

/-- The zeros that an inexact quotient loses do not change its value. -/
theorem exists_pow_dropQuotientZeros (q places : Nat) :
    ∃ k, q = (dropQuotientZeros q places).1 * 10 ^ k ∧ places = (dropQuotientZeros q places).2 + k := by
  obtain ⟨k8, hq8, hp8⟩ := exists_pow_dropEightZeros q places
  obtain ⟨k4, hq4, hp4⟩ := exists_pow_dropZeros 4 (dropEightZeros q places)
  obtain ⟨k2, hq2, hp2⟩ := exists_pow_dropZeros 2 (dropZeros 4 (dropEightZeros q places))
  obtain ⟨k1, hq1, hp1⟩ := exists_pow_dropZeros 1 (dropZeros 2 (dropZeros 4 (dropEightZeros q places)))
  unfold dropQuotientZeros
  refine ⟨k1 + (k2 + (k4 + k8)), ?_, by omega⟩
  rw [pow_add, pow_add, pow_add, ← Nat.mul_assoc, ← hq1, ← Nat.mul_assoc, ← hq2, ← Nat.mul_assoc, ← hq4]
  exact hq8

end Zeros

/-! ## Quotients and products -/

section Div

variable {a a' b b' c : Decimal}

theorem ratioAt_congr {m m' d d' : Nat} (hd : 0 < d) (hd' : 0 < d') (heq : m * d' = m' * d) (s : Nat) :
    ratioAt m d s = ratioAt m' d' s :=
  Nat.le_antisymm (ratioAt_mono hd hd' heq.le s) (ratioAt_mono hd' hd heq.ge s)

theorem IsNearest.congr {m m' d d' u : Nat} (hd : 0 < d) (hd' : 0 < d') (heq : m * d' = m' * d) (h : IsNearest m d u) :
    IsNearest m' d' u := by
  unfold IsNearest at h ⊢
  simpa only [ratioAt_congr hd hd' heq] using h

theorem units_eq_sign_mul (a : Decimal) : a.units = (if a.negative then -1 else 1) * a.units.natAbs := by
  rcases a.units_eq_or with ⟨hsign, hunits⟩ | ⟨hsign, hunits⟩
  · rw [hsign, if_neg (by simp), Int.one_mul]
    exact hunits
  · rw [hsign, if_pos rfl, Int.neg_mul, Int.one_mul]
    exact hunits

theorem sign_units_of_ne_zero (ha : a.mantissa ≠ 0) : a.units.sign = if a.negative then -1 else 1 := by
  have hpos : (0 : Int) < a.units.natAbs :=
    Int.natCast_pos.mpr (Int.natAbs_pos.mpr (mt (units_eq_zero_iff a).mp ha))
  rw [a.units_eq_sign_mul, Int.sign_mul, Int.sign_eq_one_of_pos hpos, Int.mul_one]
  split <;> rfl

/-- A result has the sign of the operands together, if anything is left of it. -/
theorem units_of_negative (ha : a.mantissa ≠ 0) (hb : b.mantissa ≠ 0)
    (hc : c.negative = ((a.negative ^^ b.negative) && c.mantissa != 0)) :
    c.units = a.units.sign * b.units.sign * c.units.natAbs := by
  rw [sign_units_of_ne_zero ha, sign_units_of_ne_zero hb]
  by_cases hc0 : c.mantissa = 0
  · rw [(units_eq_zero_iff c).mpr hc0]
    simp
  · have hsign : c.negative = (a.negative ^^ b.negative) := by
      rw [hc, bne_iff_ne.mpr hc0, Bool.and_true]
    refine c.units_eq_sign_mul.trans ?_
    rw [hsign]
    cases a.negative <;> cases b.negative <;> simp

/-- The division starts from the quotient and the remainder of the mantissas. -/
theorem isPartial_mantissas (a : Decimal) (hb : b.mantissa ≠ 0) :
    IsPartial (a.mantissa * 10 ^ b.scale) (b.mantissa * 10 ^ a.scale) b.mantissa (a.mantissa / b.mantissa)
      (a.mantissa % b.mantissa) ((a.scale : Int) - b.scale) where
  rest := Nat.mod_lt _ (Nat.pos_of_ne_zero hb)
  value := by
    intro s j hs
    have hplaces : b.scale + s = a.scale + j := by omega
    rw [Nat.div_add_mod', Nat.mul_assoc a.mantissa, ← pow_add, hplaces, pow_add]
    ring

/-- The parts of a quotient make a decimal, with or without the zeros at its end. -/
theorem ofParts?_quotient (negative : Bool) {q places : Nat} (hq : q < mantissaLimit) (hplaces : places ≤ 28)
    (inexact : Bool) :
    ∃ c, (let (m, s) := if inexact then dropQuotientZeros q places else (q, places)
        ofParts? (negative && m != 0) m s) = some c ∧
      c.units.natAbs = q * 10 ^ (28 - places) ∧ c.negative = (negative && c.mantissa != 0) := by
  obtain ⟨m, s, k, hparts, hmant, hscale⟩ : ∃ m s k,
      (if inexact then dropQuotientZeros q places else (q, places)) = (m, s) ∧ q = m * 10 ^ k ∧ places = s + k := by
    cases inexact with
    | true =>
      obtain ⟨k, hq, hk⟩ := exists_pow_dropQuotientZeros q places
      exact ⟨_, _, k, rfl, hq, hk⟩
    | false => exact ⟨q, places, 0, rfl, (Nat.mul_one q).symm, rfl⟩
  have hm : m < mantissaLimit := by
    have hle : m ≤ m * 10 ^ k := Nat.le_mul_of_pos_right m (Nat.pow_pos (by decide))
    omega
  rw [hparts]
  have hs : s ≤ 28 := by omega
  have hok : ofParts? (negative && m != 0) m s = some ⟨negative && m != 0, m, s, hm, hs⟩ := dif_pos ⟨hm, hs⟩
  refine ⟨_, hok, ?_, rfl⟩
  rw [natAbs_units, hmant, Nat.mul_assoc, ← pow_add]
  dsimp only
  congr 2
  omega

/-- A result of some sign: the nearest decimal to a ratio, or an overflow if the integer part has no room. -/
def IsRounded (operation : Overflow) (sign : Int) (m d : Nat) (result : Except Overflow Decimal) : Prop :=
  (∃ c, result = .ok c ∧ IsNearest m d c.units.natAbs ∧ c.units = sign * c.units.natAbs) ∨
    result = .error operation ∧ mantissaLimit ≤ ratioAt m d 0

/-- Results of equal ratios have equal values. -/
theorem IsRounded.values_eq {operation : Overflow} {sign : Int} {m m' d d' : Nat} {result result' : Except Overflow Decimal}
    (hd : 0 < d) (hd' : 0 < d') (heq : m * d' = m' * d) (h : IsRounded operation sign m d result)
    (h' : IsRounded operation sign m' d' result') : result.map units = result'.map units := by
  have hzero := ratioAt_congr hd hd' heq 0
  rcases h with ⟨c, rfl, hnearest, hsign⟩ | ⟨rfl, hfull⟩ <;> rcases h' with ⟨c', rfl, hnearest', hsign'⟩ | ⟨rfl, hfull'⟩
  · have hunits : c.units = c'.units := by rw [hsign, hsign', hnearest.unique hd hd' heq hnearest']
    exact congrArg Except.ok hunits
  · exact absurd hnearest.ratioAt_zero_lt (Nat.not_lt.mpr (hzero ▸ hfull'))
  · exact absurd hnearest'.ratioAt_zero_lt (Nat.not_lt.mpr (hzero ▸ hfull))
  · rfl

/-- The quotient of two decimals is that of their values. -/
theorem isRounded_div (a : Decimal) (hb : b.mantissa ≠ 0) :
    IsRounded .division (a.units.sign * b.units.sign) a.units.natAbs b.units.natAbs (a.div b) := by
  have hpos : ∀ k, 0 < 10 ^ k := fun k => Nat.pow_pos (by decide)
  have hb' : 0 < b.units.natAbs := Int.natAbs_pos.mpr (mt (units_eq_zero_iff b).mp hb)
  unfold div
  by_cases ha : a.mantissa = 0
  · have hunits : a.units = 0 := (units_eq_zero_iff a).mpr ha
    rw [if_pos ha, hunits]
    refine .inl ⟨zero, rfl, ?_, by simp⟩
    exact isNearest_of_exact (s := 0) (q := 0) hb' (by decide) (by decide) (by simp)
  rw [if_neg ha]
  have hd : 0 < b.mantissa * 10 ^ a.scale := Nat.mul_pos (Nat.pos_of_ne_zero hb) (hpos _)
  -- the ratio of the mantissas, and that of the values
  have hratio : a.mantissa * 10 ^ b.scale * b.units.natAbs = a.units.natAbs * (b.mantissa * 10 ^ a.scale) := by
    have hsplit : 10 ^ b.scale * 10 ^ (28 - b.scale) = 10 ^ a.scale * 10 ^ (28 - a.scale) := by
      rw [← pow_add, ← pow_add, Nat.add_sub_cancel' b.scale_le, Nat.add_sub_cancel' a.scale_le]
    rw [natAbs_units, natAbs_units]
    calc a.mantissa * 10 ^ b.scale * (b.mantissa * 10 ^ (28 - b.scale))
      _ = a.mantissa * b.mantissa * (10 ^ b.scale * 10 ^ (28 - b.scale)) := by ring
      _ = a.mantissa * 10 ^ (28 - a.scale) * (b.mantissa * 10 ^ a.scale) := by
        rw [hsplit]
        ring
  have hscale := a.scale_le
  have hquotient := longDivision_isQuotient hd false (isPartial_mantissas a hb)
    (Nat.lt_of_le_of_lt (Nat.div_le_self _ _) a.mantissa_lt) (by omega)
  cases hresult : longDivision b.mantissa (a.mantissa / b.mantissa) (a.mantissa % b.mantissa)
      ((a.scale : Int) - b.scale) false with
  | none =>
    rw [hresult] at hquotient
    exact .inr ⟨rfl, (ratioAt_congr hd hb' hratio 0) ▸ hquotient⟩
  | some result =>
    obtain ⟨q, places, inexact⟩ := result
    rw [hresult] at hquotient
    obtain ⟨hq, hpositive, hplaces, hnearest⟩ := hquotient
    obtain ⟨c, hparts, hunits, hsign⟩ :=
      ofParts?_quotient (a.negative ^^ b.negative) hq (by omega : places.toNat ≤ 28) inexact
    refine .inl ⟨c, ?_, ?_, units_of_negative ha hb hsign⟩
    · dsimp only at hparts ⊢
      rw [hparts]
    · rw [hunits]
      exact hnearest.congr hd hb' hratio

/-- The product of two decimals is that of their values, when all its places may be kept. -/
theorem isRounded_mul (a b : Decimal) (hscale : a.scale + b.scale ≤ 28) :
    IsRounded .multiplication (a.units.sign * b.units.sign) (a.units.natAbs * b.units.natAbs) (10 ^ 56) (a.mul b) := by
  have hpos : ∀ k, 0 < 10 ^ k := fun k => Nat.pow_pos (by decide)
  unfold mul
  by_cases h0 : a.mantissa = 0 ∨ b.mantissa = 0
  · have hproduct : a.units.natAbs * b.units.natAbs = 0 := by
      rw [natAbs_units, natAbs_units]
      rcases h0 with h | h <;> simp [h]
    rw [if_pos h0, hproduct]
    refine .inl ⟨zero, rfl, ?_, by simp⟩
    exact isNearest_of_exact (s := 0) (q := 0) (hpos 56) (by decide) (by decide) (by simp)
  rw [if_neg h0]
  obtain ⟨ha, hb⟩ := not_or.mp h0
  have hratio : a.mantissa * b.mantissa * 10 ^ 56 = a.units.natAbs * b.units.natAbs * 10 ^ (a.scale + b.scale) := by
    have hsplit : 10 ^ 56 = 10 ^ (28 - a.scale) * 10 ^ (28 - b.scale) * 10 ^ (a.scale + b.scale) := by
      rw [← pow_add, ← pow_add]
      congr 1
      omega
    rw [natAbs_units, natAbs_units, hsplit]
    ring
  rcases fit_cases (a.negative ^^ b.negative) (a.mantissa * b.mantissa) hscale with
    ⟨c, hfit, hnearest, hsign⟩ | ⟨hnone, hfull⟩
  · rw [hfit]
    exact .inl ⟨c, rfl, hnearest.congr (hpos _) (hpos 56) hratio, units_of_negative ha hb hsign⟩
  · rw [hnone]
    exact .inr ⟨rfl, (ratioAt_congr (hpos _) (hpos 56) hratio 0) ▸ hfull⟩

/-- Results of equal values fail in one way, or both are there. -/
theorem cases_of_values_eq {result result' : Except Overflow Decimal} (h : result.map units = result'.map units) :
    (∃ operation, result = .error operation ∧ result' = .error operation) ∨
      ∃ c c', result = .ok c ∧ result' = .ok c' ∧ c ≈ c' := by
  cases result with
  | error operation =>
    cases result' with
    | error operation' => exact .inl ⟨operation, rfl, congrArg Except.error (Except.error.inj h).symm⟩
    | ok c' => cases h
  | ok c =>
    cases result' with
    | error operation' => cases h
    | ok c' => exact .inr ⟨c, c', rfl, rfl, Except.ok.inj h⟩

/-- Quotients of equal values. -/
theorem div_congr (ha : a ≈ a') (hb : b ≈ b') (hne : b.mantissa ≠ 0) : (a.div b).map units = (a'.div b').map units := by
  have hunits : a.units = a'.units := ha
  have hunits' : b.units = b'.units := hb
  have hne' : b'.mantissa ≠ 0 := by
    rwa [Ne, ← units_eq_zero_iff, ← hunits', units_eq_zero_iff]
  have hpos : 0 < b'.units.natAbs := Int.natAbs_pos.mpr (mt (units_eq_zero_iff b').mp hne')
  have hquotient := isRounded_div a hne
  rw [hunits, hunits'] at hquotient
  exact hquotient.values_eq hpos hpos rfl (isRounded_div a' hne')

/-- So many hundredths as percents, of equal values. -/
theorem mul_hundred_congr (ha : a ≈ a') : (a.mul hundred).map units = (a'.mul hundred).map units := by
  have hunits : a.units = a'.units := ha
  have hpos : 0 < 10 ^ 56 := Nat.pow_pos (by decide)
  have hproduct := isRounded_mul a hundred a.scale_le
  rw [hunits] at hproduct
  exact hproduct.values_eq hpos hpos rfl (isRounded_mul a' hundred a'.scale_le)

theorem round_congr {p : Nat} (hp : p ≤ 28) (h : a ≈ a') : a.round p ≈ a'.round p := by
  have hunits : a.units = a'.units := h
  exact ((counts_round a hp).equiv_iff (counts_round a' hp)).mpr (congrArg _ hunits)

end Div

end Decimal

open Decimal in
/-- A percentage depends on the values of part and whole alone, and so does whether it has room. -/
theorem percentage_congr {part part' whole whole' : Decimal} (hpart : part ≈ part') (hwhole : whole ≈ whole') :
    (percentage part whole).map (·.map units) = (percentage part' whole').map (·.map units) := by
  have hzero : whole.isZero = whole'.isZero := by
    have hunits : whole.units = whole'.units := hwhole
    rw [Bool.eq_iff_iff, isZero_iff, isZero_iff, hunits]
  unfold percentage
  rw [hzero]
  split
  · rfl
  rename_i hne
  have hmantissa : whole.mantissa ≠ 0 := by
    rw [← hzero] at hne
    simpa [isZero] using hne
  rcases cases_of_values_eq (div_congr hpart hwhole hmantissa) with
    ⟨operation, hshare, hshare'⟩ | ⟨share, share', hshare, hshare', hsame⟩
  · rw [hshare, hshare']
  rw [hshare, hshare']
  rcases cases_of_values_eq (mul_hundred_congr hsame) with
    ⟨operation, hpercent, hpercent'⟩ | ⟨percent, percent', hpercent, hpercent', hsame'⟩
  · simp only [bind, Except.bind, hpercent, hpercent']
  · have hrounded : (percent.round 2).units = (percent'.round 2).units := round_congr (by decide) hsame'
    simp only [bind, Except.bind, hpercent, hpercent']
    exact congrArg (fun units => Except.ok (some units)) hrounded

end FundLedger
