import FundLedger.Proofs.EffectTally
/-!
# Amounts with headroom

Amounts that are far from the largest decimal can be added and subtracted, whatever their digits are.  Digits that have
no room are dropped half to even, and that does not lead over a whole number.  So a transaction can be applied to a
budget unless amounts are huge.

* `Decimal.Within k`: the value is at most the whole number `k`, of either sign.
* `Decimal.Within.add`, `Decimal.Within.sub`, `Decimal.Within.round`: arithmetic within bounds.
* `Sums.Within.derive`: sums with headroom have derived amounts.
* `Budget.applyWithHistory_of_within`: so does a budget after a transaction.
-/

namespace FundLedger

namespace Decimal

/-! ## Bounds on one amount -/

/-- The value is at most this whole number, of either sign. -/
def Within (k : Nat) (a : Decimal) : Prop := a.units.natAbs ≤ k * 10 ^ 28

instance (k : Nat) (a : Decimal) : Decidable (Within k a) := inferInstanceAs (Decidable (a.units.natAbs ≤ k * 10 ^ 28))

section Within

variable {a b : Decimal} {j k : Nat}

theorem Within.mono (h : Within j a) (hjk : j ≤ k) : Within k a :=
  Nat.le_trans h (Nat.mul_le_mul_right _ hjk)

theorem within_zero (k : Nat) : Within k zero := Nat.zero_le _

theorem Within.neg (h : Within k a) : Within k (-a) := by
  unfold Within
  rw [units_neg, Int.natAbs_neg]
  exact h

theorem Within.maximum (ha : Within k a) (hb : Within k b) : Within k (maximum a b) := by
  unfold Decimal.maximum
  split
  · exact hb
  · exact ha

/-- The bound, in the digits of the decimal. -/
theorem within_iff : Within k a ↔ a.mantissa ≤ k * 10 ^ a.scale := by
  have hsplit : k * 10 ^ 28 = k * 10 ^ a.scale * 10 ^ (28 - a.scale) := by
    rw [Nat.mul_assoc, ← pow_add, Nat.add_sub_cancel' a.scale_le]
  unfold Within
  rw [natAbs_units, hsplit]
  exact Nat.mul_le_mul_right_iff (Nat.pow_pos (by decide))

/-! ## Rounding -/

/-- Rounding does not lead over a whole number. -/
theorem quotientHalfEven_le_of_le_mul {m q d : Nat} (hd : 0 < d) (h : m ≤ q * d) : quotientHalfEven m d ≤ q := by
  unfold quotientHalfEven
  split
  · rename_i hup
    -- what is rounded up has a remainder
    have hrest : m / d * d < m := by
      have hmod := Nat.div_add_mod m d
      rw [Nat.mul_comm] at hmod
      omega
    exact Nat.lt_of_mul_lt_mul_right (Nat.lt_of_lt_of_le hrest h)
  · exact Nat.div_le_of_le_mul (by rwa [Nat.mul_comm])

theorem Within.round (h : Within k a) (places : Nat) : Within k (a.round places) := by
  by_cases hscale : a.scale ≤ places
  · rw [round_of_scale_le hscale]
    exact h
  have hsplit : k * 10 ^ a.scale = k * 10 ^ places * 10 ^ (a.scale - places) := by
    rw [Nat.mul_assoc, ← pow_add, Nat.add_sub_cancel' (Nat.le_of_not_le hscale)]
  rw [within_iff, hsplit] at h
  rw [within_iff, scale_round hscale, mantissa_round hscale]
  exact quotientHalfEven_le_of_le_mul (Nat.pow_pos (by decide)) h

/-- The nearest decimal to a value within bounds is within the same bounds. -/
theorem fit_within (negative : Bool) {m s : Nat} (hm : m ≤ k * 10 ^ s) (hk : k < mantissaLimit) :
    ∃ d, fit negative m s = some d ∧ Within k d := by
  have hq : ∀ j ≤ s, quotientHalfEven m (Nat.pow 10 j) ≤ k * 10 ^ (s - j) := by
    intro j hj
    refine quotientHalfEven_le_of_le_mul (Nat.pow_pos (by decide)) ?_
    rwa [Nat.pow_eq, Nat.mul_assoc, ← pow_add, Nat.sub_add_cancel hj]
  unfold fit
  obtain ⟨j, hj, hfind, hsome⟩ := findSome?_range_of_isSome
    (fun dropped =>
      ofParts? (negative && quotientHalfEven m (Nat.pow 10 dropped) != 0) (quotientHalfEven m (Nat.pow 10 dropped))
        (s - dropped))
    (n := s + 1) (k := s) (by omega) (by
      have hlast := hq s le_rfl
      rw [Nat.sub_self, pow_zero, Nat.mul_one] at hlast
      unfold ofParts?
      rw [dif_pos ⟨Nat.lt_of_le_of_lt hlast hk, by omega⟩]
      rfl)
  obtain ⟨d, hd⟩ := Option.isSome_iff_exists.mp hsome
  refine ⟨d, hfind.trans hd, ?_⟩
  obtain ⟨-, hmant, hscale⟩ := ofParts?_eq_some hd
  rw [within_iff, hmant, hscale]
  exact hq j hj

/-! ## Arithmetic -/

theorem natAbs_signedAt_le (h : Within k a) {s : Nat} (ha : a.scale ≤ s) : (a.signedAt s).natAbs ≤ k * 10 ^ s := by
  have hsplit : k * 10 ^ s = k * 10 ^ a.scale * 10 ^ (s - a.scale) := by
    rw [Nat.mul_assoc, ← pow_add, Nat.add_sub_cancel' ha]
  unfold signedAt
  rw [Int.natAbs_mul, Int.natAbs_natCast, natAbs_signed, hsplit, Nat.pow_eq]
  exact Nat.mul_le_mul_right _ (within_iff.mp h)

theorem Within.addAs (operation : Overflow) (ha : Within j a) (hb : Within k b) (small : j + k < mantissaLimit) :
    ∃ c, addAs operation a b = .ok c ∧ Within (j + k) c := by
  unfold Decimal.addAs
  by_cases ha0 : a.mantissa = 0
  · rw [if_pos ha0]
    exact ⟨b, rfl, hb.mono (Nat.le_add_left k j)⟩
  rw [if_neg ha0]
  by_cases hb0 : b.mantissa = 0
  · rw [if_pos hb0]
    exact ⟨a, rfl, ha.mono (Nat.le_add_right j k)⟩
  rw [if_neg hb0]
  have h1 := natAbs_signedAt_le ha (le_max_left a.scale b.scale)
  have h2 := natAbs_signedAt_le hb (le_max_right a.scale b.scale)
  dsimp only
  generalize max a.scale b.scale = s at h1 h2
  have hsum : (a.signedAt s + b.signedAt s).natAbs ≤ (j + k) * 10 ^ s := by
    have htri := Int.natAbs_add_le (a.signedAt s) (b.signedAt s)
    rw [Nat.add_mul]
    omega
  obtain ⟨c, hc, hwithin⟩ := fit_within (decide (a.signedAt s + b.signedAt s < 0)) hsum small
  refine ⟨c, ?_, hwithin⟩
  unfold ofScaled
  rw [hc]

theorem Within.add (ha : Within j a) (hb : Within k b) (small : j + k < mantissaLimit) :
    ∃ c, a.add b = .ok c ∧ Within (j + k) c := ha.addAs .addition hb small

theorem Within.sub (ha : Within j a) (hb : Within k b) (small : j + k < mantissaLimit) :
    ∃ c, a.sub b = .ok c ∧ Within (j + k) c := by
  unfold Decimal.sub
  by_cases hb0 : b.mantissa = 0
  · rw [if_pos hb0]
    refine ⟨_, rfl, ?_⟩
    split
    · exact hb.mono (Nat.le_add_left k j)
    · exact ha.mono (Nat.le_add_right j k)
  · rw [if_neg hb0]
    exact ha.addAs .subtraction hb.neg small

end Within

end Decimal

/-! ## Sums -/

namespace Sums

/-- Every sum is within this bound. -/
abbrev Within (k : Nat) (s : Sums Decimal) : Prop := s.Rel (fun a k => a.Within k) (.replicate k)

variable {s : Sums Decimal} {j k : Nat}

theorem Within.mono (h : s.Within j) (hjk : j ≤ k) : s.Within k :=
  ⟨h.1.mono hjk, h.2.mono hjk, h.3.mono hjk, h.4.mono hjk, h.5.mono hjk, h.6.mono hjk, h.7.mono hjk, h.8.mono hjk⟩

/-- Each derived amount takes at most eight of the sums together. -/
theorem Within.derive (h : s.Within k) (small : 8 * k < mantissaLimit) : ∃ t, s.derive = .ok t := by
  obtain ⟨h1, h2, h3, h4, h5, h6, h7, h8⟩ := h
  simp only [replicate] at h1 h2 h3 h4 h5 h6 h7 h8
  obtain ⟨received, d1, w1⟩ := h1.add h2 (by omega)
  obtain ⟨allocated, d2, w2⟩ := w1.sub h3 (by omega)
  obtain ⟨totalFunding, d3, w3⟩ := w2.add h4 (by omega)
  obtain ⟨reserved, d4, w4⟩ := h5.add h6 (by omega)
  obtain ⟨committed, d5, w5⟩ := w4.add h7 (by omega)
  obtain ⟨unavailable, d6, w6⟩ := w5.sub h8 (by omega)
  obtain ⟨available, d7, -⟩ := w3.sub w6 (by omega)
  obtain ⟨cashBalance, d8, -⟩ := w3.sub h7 (by omega)
  have wf := w3.maximum (Decimal.within_zero _)
  obtain ⟨encumberedBeyond, d9, -⟩ := h5.sub wf (by omega)
  obtain ⟨spent, d10, w10⟩ := h7.add h6 (by omega)
  obtain ⟨spentBeyond, d11, -⟩ := w10.sub wf (by omega)
  exact ⟨_, by simp only [Sums.derive, d1, d2, d3, d4, d5, d6, d7, d8, d9, d10, d11, bind, Except.bind]; rfl⟩

/-- An addition in one place. -/
theorem Within.addAt {j : Nat} {a : Decimal} (h : s.Within k) (place : Place) (ha : a.Within j)
    (small : k + j < mantissaLimit) : ∃ s', s.addAt place a = .ok s' ∧ s'.Within (k + j) := by
  have hplace := h.get place
  rw [get_replicate] at hplace
  obtain ⟨c, hc, hw⟩ := hplace.add ha small
  refine ⟨s.put place c, addAt_of_add hc, (h.mono (Nat.le_add_right k j)).put_left ?_⟩
  rwa [get_replicate]

end Sums

theorem FundRole.within_signed (role : FundRole) {k : Nat} {a : Decimal} (h : a.Within k) : (role.signed a).Within k := by
  cases role with
  | receiver => exact h
  | sender => exact h.neg

namespace Effect

variable {s : Sums Decimal} {j k : Nat}

/-- An effect leads no further than its amount. -/
theorem accumulate_within (e : Effect) (he : e.amount.Within j) (h : s.Within k) (small : k + j < mantissaLimit) :
    ∃ s', accumulate s e = .ok s' ∧ s'.Within (k + j) := by
  cases e with
  | allocation role initial a =>
    cases role with
    | sender => exact h.addAt .allocationFrom he small
    | receiver =>
      cases initial with
      | true => exact h.addAt .initialAllocation he small
      | false => exact h.addAt .allocationTo he small
  | transfer role a => exact h.addAt .netTransfers (role.within_signed he) small
  | rolloverTransfer role a => exact h.addAt .netTransfers (role.within_signed he) small
  | encumbrance a => exact h.addAt .encumbered he small
  | pendingPayment a => exact h.addAt .awaitingPayment he small
  | payment a => exact h.addAt .expenditures he small
  | credit a => exact h.addAt .credits he small
  | initialAllocationDisplaced a =>
    obtain ⟨c, hc, hw⟩ := h.initialAllocation.sub he small
    obtain ⟨c', hc', hw'⟩ := h.allocationTo.add he small
    refine ⟨_, accumulate_displaced hc hc', ?_⟩
    exact { h.mono (Nat.le_add_right k j) with initialAllocation := hw, allocationTo := hw' }

theorem accumulateAll_within {effects : List Effect} (he : ∀ e ∈ effects, e.amount.Within j) (h : s.Within k)
    (small : k + effects.length * j < mantissaLimit) :
    ∃ s', accumulateAll effects s = .ok s' ∧ s'.Within (k + effects.length * j) := by
  induction effects generalizing s k with
  | nil => exact ⟨s, rfl, by simpa using h⟩
  | cons e rest ih =>
    obtain ⟨hfirst, hrest⟩ := List.forall_mem_cons.mp he
    have hlength : k + (e :: rest).length * j = k + j + rest.length * j := by
      rw [List.length_cons, Nat.add_mul]
      omega
    rw [hlength] at small ⊢
    obtain ⟨s', hs', hw'⟩ := e.accumulate_within hfirst h (by omega)
    obtain ⟨s'', hs'', hw''⟩ := ih hrest hw' small
    refine ⟨s'', ?_, hw''⟩
    unfold accumulateAll
    rw [List.foldlM_cons, hs']
    exact hs''

end Effect

/-! ## A transaction applied to a budget -/

namespace Transaction

variable {tx : Transaction} {fund : FundId} {recorded : List Transaction}

theorem length_effects_le (tx : Transaction) (fund : FundId) (initial : Bool) : (tx.effects fund initial).length ≤ 2 := by
  have hroles : (tx.roles fund).length ≤ 2 := List.length_filter_le ..
  unfold effects
  cases tx.kind
  case allocation | transfer | rolloverTransfer => simpa using hroles
  all_goals
    dsimp only
    split <;> simp

/-- The effects are about the transaction, and at most one of those recorded before. -/
theorem effectsAfter_eq_append (tx : Transaction) (fund : FundId) (recorded : List Transaction) :
    ∃ (initial : Bool) (displaced : Option Transaction), (∀ t ∈ displaced, t ∈ recorded) ∧
      tx.effectsAfter fund recorded =
        tx.effects fund initial ++ displaced.toList.map fun t => .initialAllocationDisplaced t.roundedAmount := by
  unfold effectsAfter
  dsimp only
  split
  · refine ⟨_, _, fun t ht => ?_, rfl⟩
    obtain ⟨id, -, hfind⟩ := Option.bind_eq_some_iff.mp ht
    exact List.mem_of_mem_filter (List.mem_of_find?_eq_some hfind)
  · exact ⟨_, none, by simp, rfl⟩

end Transaction

theorem Transaction.within_roundedAmount {tx : Transaction} {k : Nat} (h : tx.amount.Within k) :
    tx.roundedAmount.Within k := h.round tx.currency.minorUnits

/-- A transaction can be applied to a budget when the sums and all amounts have headroom. -/
theorem Budget.applyWithHistory_of_within {b : Budget} {tx : Transaction} {recorded : List Transaction} {j k : Nat}
    (hsums : b.totals.toSums.Within k) (htx : tx.amount.Within j) (hrecorded : ∀ t ∈ recorded, t.amount.Within j)
    (small : 8 * (k + 3 * j) < mantissaLimit) : ∃ b', b.applyWithHistory tx recorded = .ok b' := by
  obtain ⟨initial, displaced, hdisplaced, heffects⟩ := tx.effectsAfter_eq_append b.fund recorded
  have hamounts : ∀ e ∈ tx.effectsAfter b.fund recorded, e.amount.Within j := by
    intro e he
    rw [heffects] at he
    rcases List.mem_append.mp he with he | he
    · rw [tx.amount_of_mem_effects he]
      exact Transaction.within_roundedAmount htx
    · obtain ⟨t, ht, rfl⟩ := List.mem_map.mp he
      exact Transaction.within_roundedAmount (hrecorded t (hdisplaced t (Option.mem_toList.mp ht)))
  have hlength : (tx.effectsAfter b.fund recorded).length ≤ 3 := by
    have hown := tx.length_effects_le b.fund initial
    have hone : displaced.toList.length ≤ 1 := by cases displaced <;> simp
    rw [heffects, List.length_append, List.length_map]
    omega
  have hbound : (tx.effectsAfter b.fund recorded).length * j ≤ 3 * j := Nat.mul_le_mul_right j hlength
  obtain ⟨sums, haccumulate, hwithin⟩ := Effect.accumulateAll_within hamounts hsums (by omega)
  obtain ⟨totals, hderive⟩ := hwithin.derive (by omega)
  unfold applyWithHistory applyEffects
  split
  · exact ⟨b, rfl⟩
  · refine ⟨{ b with totals := totals.rounded b.currency }, ?_⟩
    simp only [haccumulate, bind, Except.bind, hderive]
    rfl

end FundLedger
