import FundLedger.Proofs.MinorUnits
/-!
# The nearest decimal to a ratio

A result that has no room for all its digits keeps as many places as there is room for, and is rounded half to even
there.  Which decimal that is depends on the value of the result alone, grows with it, and is the value itself where this
is a decimal.

* `Decimal.ratioAt`: a ratio rounded to so many places.
* `Decimal.IsNearest`: the nearest decimal to a ratio, in units of `10 ^ -28`.
* `Decimal.IsNearest.mono`, `Decimal.IsNearest.unique`, `Decimal.isNearest_of_exact`.
* `Decimal.fit_cases`: the decimals that exact results are fitted into.
* `Decimal.add_le_left`: a sum with nothing above zero does not grow.
-/

namespace FundLedger

namespace Decimal

/-! ## Rounded quotients -/

section QuotientHalfEven

variable {m m' d d' : Nat}

/-- A rounded quotient is off by half a divisor at most. -/
theorem quotientHalfEven_error (m : Nat) (hd : 0 < d) :
    2 * m ≤ 2 * (quotientHalfEven m d * d) + d ∧ 2 * (quotientHalfEven m d * d) ≤ 2 * m + d := by
  have hmod := Nat.div_add_mod' m d
  have hlt := Nat.mod_lt m hd
  unfold quotientHalfEven
  split
  · rw [Nat.add_mul]
    omega
  · omega

theorem quotientHalfEven_le_of_le (h : m ≤ m') : quotientHalfEven m d ≤ quotientHalfEven m' d := by
  have hmod := Nat.div_add_mod m d
  have hmod' := Nat.div_add_mod m' d
  unfold quotientHalfEven
  rcases (Nat.div_le_div_right (c := d) h).lt_or_eq with hlt | heq
  · split <;> split <;> omega
  · -- equal quotients, so the remainders are compared, from the middle with the same parity
    rw [← heq] at hmod' ⊢
    have hrest : m % d ≤ m' % d := by omega
    split <;> split <;> omega

/-- A larger fraction is not rounded to less. -/
theorem quotientHalfEven_mono (hd : 0 < d) (hd' : 0 < d') (h : m * d' ≤ m' * d) :
    quotientHalfEven m d ≤ quotientHalfEven m' d' := by
  rw [← quotientHalfEven_mul_right m d hd', ← quotientHalfEven_mul_right m' d' hd, Nat.mul_comm d' d]
  exact quotientHalfEven_le_of_le h

end QuotientHalfEven

/-! ## Ratios with so many places -/

/-- The ratio `m / d` in units of `10 ^ -places`, rounded half to even. -/
def ratioAt (m d places : Nat) : Nat := quotientHalfEven (m * 10 ^ places) d

section RatioAt

variable {m m' d d' s t q : Nat}

theorem ratioAt_mono (hd : 0 < d) (hd' : 0 < d') (h : m * d' ≤ m' * d) (s : Nat) : ratioAt m d s ≤ ratioAt m' d' s := by
  refine quotientHalfEven_mono hd hd' ?_
  rw [Nat.mul_right_comm, Nat.mul_right_comm m']
  exact Nat.mul_le_mul_right _ h

/-- More places do not take digits away. -/
theorem ratioAt_le_of_le (h : s ≤ t) : ratioAt m d s ≤ ratioAt m d t :=
  quotientHalfEven_le_of_le (Nat.mul_le_mul_left m (Nat.pow_le_pow_right (by decide) h))

theorem ratioAt_of_exact (hd : 0 < d) (h : m * 10 ^ s = q * d) : ratioAt m d s = q := by
  unfold ratioAt
  rw [h]
  exact quotientHalfEven_mul q hd

/-- Where one place more has no room, the mantissa is full: with that place it would reach the limit, whatever the last
digit. -/
theorem mantissaLimit_le_ratioAt_mul (hd : 0 < d) (h : mantissaLimit ≤ ratioAt m d (s + 1)) :
    mantissaLimit ≤ ratioAt m d s * 10 := by
  have hmore : 2 * (ratioAt m d (s + 1) * d) ≤ 2 * (m * 10 ^ (s + 1)) + d := (quotientHalfEven_error _ hd).2
  have hless : 2 * (m * 10 ^ s) ≤ 2 * (ratioAt m d s * d) + d := (quotientHalfEven_error _ hd).1
  have hpow : m * 10 ^ (s + 1) = 10 * (m * 10 ^ s) := by ring
  have hcompare : 2 * ratioAt m d (s + 1) * d ≤ (20 * ratioAt m d s + 11) * d := by
    have hsum : (20 * ratioAt m d s + 11) * d = 20 * (ratioAt m d s * d) + 11 * d := by ring
    rw [hsum, Nat.mul_assoc]
    omega
  have hcount := Nat.le_of_mul_le_mul_right hcompare hd
  unfold mantissaLimit at h ⊢
  omega

end RatioAt

/-! ## The nearest decimal -/

/-- The nearest decimal to the ratio `m / d` is so many units of `10 ^ -28`: it has the most places that there is room
for. -/
def IsNearest (m d units : Nat) : Prop :=
  ∃ s ≤ 28, ratioAt m d s < mantissaLimit ∧ (∀ t ≤ 28, s < t → mantissaLimit ≤ ratioAt m d t) ∧
    units = ratioAt m d s * 10 ^ (28 - s)

section IsNearest

variable {m m' d d' s q u u' : Nat}

theorem IsNearest.mono (hd : 0 < d) (hd' : 0 < d') (hle : m * d' ≤ m' * d) (h : IsNearest m d u)
    (h' : IsNearest m' d' u') : u ≤ u' := by
  obtain ⟨s, hs, hroom, hfull, rfl⟩ := h
  obtain ⟨s', hs', hroom', hfull', rfl⟩ := h'
  have hratio := ratioAt_mono hd hd' hle
  rcases Nat.lt_trichotomy s s' with hlt | rfl | hgt
  · exact absurd (Nat.lt_of_le_of_lt (hratio s') hroom') (Nat.not_lt.mpr (hfull s' hs' hlt))
  · exact Nat.mul_le_mul_right _ (hratio s)
  · -- the larger ratio has fewer places, so its mantissa is full there
    have hmany : mantissaLimit ≤ ratioAt m' d' s' * 10 :=
      mantissaLimit_le_ratioAt_mul hd' (hfull' (s' + 1) (by omega) (Nat.lt_succ_self s'))
    calc ratioAt m d s * 10 ^ (28 - s)
      _ ≤ ratioAt m' d' s' * 10 * 10 ^ (28 - (s' + 1)) :=
        Nat.mul_le_mul (hroom.le.trans hmany) (Nat.pow_le_pow_right (by decide) (by omega))
      _ = ratioAt m' d' s' * 10 ^ (28 - s') := by
        rw [Nat.mul_assoc, ← pow_succ']
        congr 2
        omega

/-- Equal ratios have the same nearest decimal. -/
theorem IsNearest.unique (hd : 0 < d) (hd' : 0 < d') (heq : m * d' = m' * d) (h : IsNearest m d u)
    (h' : IsNearest m' d' u') : u = u' :=
  Nat.le_antisymm (h.mono hd hd' heq.le h') (h'.mono hd' hd heq.ge h)

/-- Rounded to the last place that has room. -/
theorem isNearest_of_last (hs : s ≤ 28) (hroom : ratioAt m d s < mantissaLimit)
    (hfull : s < 28 → mantissaLimit ≤ ratioAt m d (s + 1)) : IsNearest m d (ratioAt m d s * 10 ^ (28 - s)) :=
  ⟨s, hs, hroom, fun t ht hst => (hfull (by omega)).trans (ratioAt_le_of_le hst), rfl⟩

/-- There is a nearest decimal to every ratio whose integer part has room. -/
theorem exists_isNearest (hroom : ratioAt m d 0 < mantissaLimit) : ∃ u, IsNearest m d u := by
  let s := Nat.findGreatest (fun s => ratioAt m d s < mantissaLimit) 28
  have hs : ratioAt m d s < mantissaLimit := Nat.findGreatest_spec (P := fun s => _ < _) (Nat.zero_le 28) hroom
  refine ⟨_, s, Nat.findGreatest_le 28, hs, fun t ht hst => ?_, rfl⟩
  exact Nat.not_lt.mp (Nat.findGreatest_is_greatest (P := fun s => ratioAt m d s < mantissaLimit) hst ht)

theorem IsNearest.ratioAt_zero_lt (h : IsNearest m d u) : ratioAt m d 0 < mantissaLimit := by
  obtain ⟨s, -, hroom, -⟩ := h
  exact Nat.lt_of_le_of_lt (ratioAt_le_of_le (Nat.zero_le s)) hroom

/-- A ratio that is a decimal is its own nearest one. -/
theorem isNearest_of_exact (hd : 0 < d) (hs : s ≤ 28) (hq : q < mantissaLimit) (h : m * 10 ^ s = q * d) :
    IsNearest m d (q * 10 ^ (28 - s)) := by
  have hat := ratioAt_of_exact hd h
  obtain ⟨u, hu⟩ := exists_isNearest (Nat.lt_of_le_of_lt (ratioAt_le_of_le (Nat.zero_le s)) (hat ▸ hq))
  obtain ⟨t, ht, hroom, hfull, rfl⟩ := id hu
  have hst : s ≤ t := Nat.not_lt.mp fun hlt => absurd (hat ▸ hq) (Nat.not_lt.mpr (hfull s hs hlt))
  have hexact : ratioAt m d t = q * 10 ^ (t - s) := by
    refine ratioAt_of_exact hd ?_
    rw [← Nat.add_sub_cancel' hst, pow_add, ← Nat.mul_assoc, h, Nat.add_sub_cancel_left]
    ring
  have hvalue : ratioAt m d t * 10 ^ (28 - t) = q * 10 ^ (28 - s) := by
    rw [hexact, Nat.mul_assoc, ← pow_add]
    congr 2
    omega
  rwa [hvalue] at hu

end IsNearest

/-- Every decimal is the nearest one to its value. -/
theorem isNearest_units (a : Decimal) : IsNearest a.units.natAbs (10 ^ 28) a.units.natAbs := by
  have hunits := a.natAbs_units
  have hexact : a.units.natAbs * 10 ^ a.scale = a.mantissa * 10 ^ 28 := by
    rw [hunits, Nat.mul_assoc, ← pow_add, Nat.sub_add_cancel a.scale_le]
  have h := isNearest_of_exact (Nat.pow_pos (by decide)) a.scale_le a.mantissa_lt hexact
  rwa [← hunits] at h

/-- A magnitude with a sign. -/
theorem units_eq_or (a : Decimal) :
    a.negative = false ∧ a.units = a.units.natAbs ∨ a.negative = true ∧ a.units = -a.units.natAbs := by
  have hpos : (0 : Int) ≤ a.mantissa * (10 ^ (28 - a.scale) : Nat) := by positivity
  unfold units signed
  cases a.negative with
  | false =>
    refine .inl ⟨rfl, ?_⟩
    exact (Int.natAbs_of_nonneg hpos).symm
  | true =>
    refine .inr ⟨rfl, ?_⟩
    simp only [if_true, Int.neg_mul, Int.natAbs_neg]
    exact congrArg Neg.neg (Int.natAbs_of_nonneg hpos).symm

/-! ## Fitted results -/

section Fit

variable {negative : Bool} {m s : Nat}

/-- An exact result is fitted into the nearest decimal, or even its integer part has no room. -/
theorem fit_cases (negative : Bool) (m : Nat) {s : Nat} (hs : s ≤ 28) :
    (∃ d, fit negative m s = some d ∧ IsNearest m (10 ^ s) d.units.natAbs ∧
        d.negative = (negative && d.mantissa != 0)) ∨
      fit negative m s = none ∧ mantissaLimit ≤ ratioAt m (10 ^ s) 0 := by
  have hpos : ∀ k, 0 < 10 ^ k := fun k => Nat.pow_pos (by decide)
  -- digits dropped, and places left
  have hratio : ∀ j ≤ s, quotientHalfEven m (Nat.pow 10 j) = ratioAt m (10 ^ s) (s - j) := by
    intro j hj
    unfold ratioAt
    rw [← quotientHalfEven_mul_right m _ (hpos (s - j)), Nat.pow_eq, ← pow_add, Nat.add_sub_cancel' hj]
  have hsome : ∀ j ≤ s, ∀ n, ofParts? n (ratioAt m (10 ^ s) (s - j)) (s - j) = none →
      mantissaLimit ≤ ratioAt m (10 ^ s) (s - j) := by
    intro j hj n hnone
    unfold ofParts? at hnone
    by_contra hlt
    rw [dif_pos ⟨Nat.not_le.mp hlt, by omega⟩] at hnone
    cases hnone
  unfold fit
  rcases findSome?_range_cases
      (fun dropped =>
        ofParts? (negative && quotientHalfEven m (Nat.pow 10 dropped) != 0) (quotientHalfEven m (Nat.pow 10 dropped))
          (s - dropped)) (s + 1) with ⟨j, hj, hbefore, hfound, hfind⟩ | ⟨hnone, hfind⟩
  · refine .inl ?_
    obtain ⟨d, hd⟩ := Option.isSome_iff_exists.mp hfound
    refine ⟨d, hfind.trans hd, ?_⟩
    simp only [hratio j (by omega)] at hd
    obtain ⟨hneg, hmant, hscale⟩ := ofParts?_eq_some hd
    refine ⟨?_, by rw [hneg, hmant]⟩
    have hroom : ratioAt m (10 ^ s) (s - j) < mantissaLimit := hmant ▸ d.mantissa_lt
    rw [natAbs_units, hmant, hscale]
    rcases Nat.eq_zero_or_pos j with rfl | hj0
    · -- nothing was dropped
      have hexact : ratioAt m (10 ^ s) s = m := ratioAt_of_exact (hpos s) rfl
      rw [Nat.sub_zero, hexact] at hroom ⊢
      exact isNearest_of_exact (hpos s) hs hroom rfl
    · refine isNearest_of_last (by omega) hroom fun _ => ?_
      have hlast := hbefore (j - 1) (by omega)
      simp only [hratio (j - 1) (by omega)] at hlast
      have hplaces : s - (j - 1) = s - j + 1 := by omega
      exact hplaces ▸ hsome (j - 1) (by omega) _ hlast
  · refine .inr ⟨hfind, ?_⟩
    have hlast := hnone s (Nat.lt_succ_self s)
    simp only [hratio s le_rfl] at hlast
    simpa using hsome s le_rfl _ hlast

end Fit

/-! ## Sums -/

section Sums

variable {a b c : Decimal}

theorem ofScaled_eq_ok {operation : Overflow} {x : Int} {s : Nat} (hs : s ≤ 28) (h : ofScaled operation x s = .ok c) :
    IsNearest x.natAbs (10 ^ s) c.units.natAbs ∧ (x < 0 → c.units = -c.units.natAbs) ∧
      (0 ≤ x → c.units = c.units.natAbs) := by
  unfold ofScaled at h
  rcases fit_cases (decide (x < 0)) x.natAbs hs with ⟨d, hd, hnearest, hneg⟩ | ⟨hnone, -⟩
  · rw [hd] at h
    obtain rfl : d = c := Except.ok.inj h
    refine ⟨hnearest, fun hx => ?_, fun hx => ?_⟩
    · rcases d.units_eq_or with ⟨hsign, hunits⟩ | ⟨-, hunits⟩
      · have hzero : d.mantissa = 0 := by
          rw [hsign] at hneg
          simpa [hx] using hneg
        rw [(units_eq_zero_iff d).mpr hzero]
        rfl
      · exact hunits
    · rcases d.units_eq_or with ⟨-, hunits⟩ | ⟨hsign, -⟩
      · exact hunits
      · rw [hsign] at hneg
        simp [Int.not_lt.mpr hx] at hneg
  · rw [hnone] at h
    cases h

/-- Rounding does not lead over a decimal: what is not above one is not rounded to more. -/
theorem ofScaled_le {operation : Overflow} {x : Int} {s : Nat} (hs : s ≤ 28) (h : ofScaled operation x s = .ok c)
    (hle : x * minorUnit s ≤ a.units) : c ≤ a := by
  obtain ⟨hnearest, hneg, hnonneg⟩ := ofScaled_eq_ok hs h
  have hpos : ∀ k, 0 < 10 ^ k := fun k => Nat.pow_pos (by decide)
  -- magnitudes over one denominator
  have hsplit : 10 ^ 28 = (minorUnit s).natAbs * 10 ^ s := by
    change 10 ^ 28 = 10 ^ (28 - s) * 10 ^ s
    rw [← pow_add, Nat.sub_add_cancel hs]
  have hscaled : x.natAbs * 10 ^ 28 = (x * minorUnit s).natAbs * 10 ^ s := by
    rw [hsplit, Int.natAbs_mul, Nat.mul_assoc]
  rw [le_iff]
  rcases Int.lt_or_le x 0 with hx | hx
  · rw [hneg hx]
    rcases Int.lt_or_le a.units 0 with ha | ha
    · have hmagnitude : a.units.natAbs ≤ (x * minorUnit s).natAbs := by omega
      have hbelow : a.units.natAbs ≤ c.units.natAbs := by
        refine a.isNearest_units.mono (hpos 28) (hpos s) ?_ hnearest
        rw [hscaled]
        exact Nat.mul_le_mul_right _ hmagnitude
      omega
    · omega
  · rw [hnonneg hx]
    have hx0 : 0 ≤ x * minorUnit s := mul_nonneg hx (minorUnit_pos s).le
    have hmagnitude : (x * minorUnit s).natAbs ≤ a.units.natAbs := by omega
    have habove : c.units.natAbs ≤ a.units.natAbs := by
      refine hnearest.mono (hpos s) (hpos 28) ?_ a.isNearest_units
      rw [hscaled]
      exact Nat.mul_le_mul_right _ hmagnitude
    omega

/-- A sum with nothing above zero does not grow, however many digits are dropped. -/
theorem add_le_left (hb : b ≤ .zero) (h : a.add b = .ok c) : c ≤ a := by
  rw [le_iff, units_zero] at hb
  unfold add addAs at h
  by_cases ha0 : a.mantissa = 0
  · rw [if_pos ha0] at h
    obtain rfl := Except.ok.inj h
    rwa [le_iff, (units_eq_zero_iff a).mpr ha0]
  rw [if_neg ha0] at h
  by_cases hb0 : b.mantissa = 0
  · rw [if_pos hb0] at h
    obtain rfl := Except.ok.inj h
    exact Int.le_refl _
  rw [if_neg hb0] at h
  have hs : max a.scale b.scale ≤ 28 := max_le a.scale_le b.scale_le
  refine ofScaled_le hs h ?_
  rw [add_mul, signedAt_mul_minorUnit a (le_max_left _ _) hs, signedAt_mul_minorUnit b (le_max_right _ _) hs]
  omega

theorem nearest_of_nonneg (p : Nat) {x : Int} (h : 0 ≤ x) : nearest p x = quotientHalfEven x.natAbs (10 ^ (28 - p)) := by
  unfold nearest
  rcases h.eq_or_lt with rfl | hpos
  · simp [quotientHalfEven]
  · rw [Int.sign_eq_one_of_pos hpos, Int.one_mul]

theorem nearest_of_neg (p : Nat) {x : Int} (h : x < 0) : nearest p x = -quotientHalfEven x.natAbs (10 ^ (28 - p)) := by
  unfold nearest
  rw [Int.sign_eq_neg_one_of_neg h, Int.neg_mul, Int.one_mul]

/-- Smaller values are not rounded to more. -/
theorem nearest_mono (p : Nat) {x y : Int} (h : x ≤ y) : nearest p x ≤ nearest p y := by
  rcases Int.lt_or_le x 0 with hx | hx
  · rw [nearest_of_neg p hx]
    rcases Int.lt_or_le y 0 with hy | hy
    · have hmagnitude : y.natAbs ≤ x.natAbs := by omega
      rw [nearest_of_neg p hy]
      exact Int.neg_le_neg (Int.ofNat_le.mpr (quotientHalfEven_le_of_le hmagnitude))
    · rw [nearest_of_nonneg p hy]
      omega
  · have hmagnitude : x.natAbs ≤ y.natAbs := by omega
    rw [nearest_of_nonneg p hx, nearest_of_nonneg p (hx.trans h)]
    exact Int.ofNat_le.mpr (quotientHalfEven_le_of_le hmagnitude)

end Sums

end Decimal

end FundLedger
