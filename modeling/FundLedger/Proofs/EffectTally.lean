import FundLedger.Proofs.SinglePlaces
import FundLedger.Proofs.Tally
/-!
# What effects add up to

The effects of a transaction add to the sums of a budget exactly what the tally of its fund grows by.

* `Effect.accumulateAll_counts`: effects on decimals that count whole sums.
* `Transaction.effectsAfter_of_received`: when an allocation is the initial one, and which one it displaces.
* `Transaction.sum_effectsAfter`: the effects of one more transaction.
-/

namespace FundLedger

/-! ## Effects -/

namespace Effect

/-- The amount that an effect is about. -/
def amount : Effect → Decimal
  | allocation _ _ a | transfer _ a | rolloverTransfer _ a | encumbrance a | pendingPayment a | payment a | credit a
  | initialAllocationDisplaced a => a

/-- What an effect adds to the sums, when its amount is `n` minor units. -/
def delta (n : Int) : Effect → Sums Int
  | allocation .receiver true _ => { (0 : Sums Int) with initialAllocation := n }
  | allocation .receiver false _ => { (0 : Sums Int) with allocationTo := n }
  | allocation .sender _ _ => { (0 : Sums Int) with allocationFrom := n }
  | transfer role _ | rolloverTransfer role _ => { (0 : Sums Int) with netTransfers := role.sign * n }
  | encumbrance _ => { (0 : Sums Int) with encumbered := n }
  | pendingPayment _ => { (0 : Sums Int) with awaitingPayment := n }
  | payment _ => { (0 : Sums Int) with expenditures := n }
  | credit _ => { (0 : Sums Int) with credits := n }
  | initialAllocationDisplaced _ => { (0 : Sums Int) with initialAllocation := -n, allocationTo := n }

/-- What an effect adds to the sums, with so many places. -/
def minorDelta (p : Nat) (e : Effect) : Sums Int := e.delta (e.amount.minor p)

variable {p : Nat} {s : Sums Decimal} {m : Sums Int} {n : Int}

/-- The one effect that changes two places. -/
theorem accumulate_displaced {a c c' : Decimal} (hc : s.initialAllocation.sub a = .ok c)
    (hc' : s.allocationTo.add a = .ok c') :
    accumulate s (.initialAllocationDisplaced a) = .ok { s with initialAllocation := c, allocationTo := c' } := by
  simp only [accumulate, hc, hc']
  rfl

/-- An effect on sums that count whole ones. -/
theorem accumulate_counts (hp : p ≤ 28) (e : Effect) (he : e.amount.Counts p n) (h : s.Counts p m)
    (small : (m + e.delta n).norm < mantissaLimit) :
    ∃ s', accumulate s e = .ok s' ∧ s'.Counts p (m + e.delta n) := by
  cases e with
  | allocation role initial a =>
    cases role with
    | sender => exact h.addAt .allocationFrom hp he small
    | receiver =>
      cases initial with
      | true => exact h.addAt .initialAllocation hp he small
      | false => exact h.addAt .allocationTo hp he small
  | transfer role a => exact h.addAt .netTransfers hp (role.counts_signed he) small
  | rolloverTransfer role a => exact h.addAt .netTransfers hp (role.counts_signed he) small
  | encumbrance a => exact h.addAt .encumbered hp he small
  | pendingPayment a => exact h.addAt .awaitingPayment hp he small
  | payment a => exact h.addAt .expenditures hp he small
  | credit a => exact h.addAt .credits hp he small
  | initialAllocationDisplaced a =>
    have bound := (m + delta n (.initialAllocationDisplaced a)).rel_natAbs_le_norm
    obtain ⟨c, hc, hcount⟩ := h.initialAllocation.sub hp he (Nat.lt_of_le_of_lt bound.initialAllocation small)
    obtain ⟨c', hc', hcount'⟩ := h.allocationTo.add hp he (Nat.lt_of_le_of_lt bound.allocationTo small)
    have hdelta : m + delta n (.initialAllocationDisplaced a) =
        { m with initialAllocation := m.initialAllocation - n, allocationTo := m.allocationTo + n } := by
      ext <;> simp [delta, Int.sub_eq_add_neg]
    refine ⟨_, accumulate_displaced hc hc', ?_⟩
    rw [hdelta]
    exact { h with initialAllocation := hcount, allocationTo := hcount' }

/-- Some effects on sums that count whole ones. -/
theorem accumulateAll_counts (hp : p ≤ 28) {effects : List Effect}
    (whole : ∀ e ∈ effects, e.amount.Counts p (e.amount.minor p)) (h : s.Counts p m)
    (small : m.norm + (effects.map fun e => (e.minorDelta p).norm).sum < mantissaLimit) :
    ∃ s', accumulateAll effects s = .ok s' ∧ s'.Counts p (m + (effects.map (minorDelta p)).sum) := by
  refine h.foldlM (fun e _ => Nat.le_refl _) (fun e he s m hs room => ?_) small
  have htri := m.norm_add_le (e.minorDelta p)
  exact e.accumulate_counts hp (whole e he) hs (by
    change (m + e.minorDelta p).norm < mantissaLimit
    omega)

end Effect

/-! ## The effects of one transaction -/

namespace Transaction

variable (tx : Transaction)

/-- Every effect of a transaction is about its rounded amount. -/
theorem amount_of_mem_effects {fund : FundId} {initial : Bool} {e : Effect} (h : e ∈ tx.effects fund initial) :
    e.amount = tx.roundedAmount := by
  unfold effects at h
  cases hk : tx.kind <;> simp only [hk] at h
  case allocation | transfer | rolloverTransfer =>
    obtain ⟨role, -, rfl⟩ := List.mem_map.mp h
    rfl
  all_goals
    split at h
    · obtain rfl := List.mem_singleton.mp h
      rfl
    · cases h

theorem minorDelta_of_mem_effects {fund : FundId} {initial : Bool} {e : Effect} (h : e ∈ tx.effects fund initial) :
    e.minorDelta tx.currency.minorUnits = e.delta tx.minorAmount := by
  unfold Effect.minorDelta
  rw [tx.amount_of_mem_effects h]
  rfl

theorem sum_norm_effects_le (fund : FundId) (initial : Bool) :
    ((tx.effects fund initial).map fun e => (e.minorDelta tx.currency.minorUnits).norm).sum ≤
      2 * tx.minorAmount.natAbs := by
  rw [List.map_congr_left fun e he => congrArg Sums.norm (tx.minorDelta_of_mem_effects he)]
  unfold effects roles touches
  cases tx.kind <;> cases hs : tx.hasRole fund .sender <;> cases hr : tx.hasRole fund .receiver <;> cases initial <;>
    simp [hs, hr, Effect.delta, FundRole.sign, Sums.norm] <;> omega

/-- The effects of a transaction on the budget of a fund add up to what it contributes to the fund. -/
theorem sum_effects (fund : FundId) (initial : Bool) :
    ((tx.effects fund initial).map (Effect.minorDelta tx.currency.minorUnits)).sum = tx.contribution fund initial := by
  rw [List.map_congr_left fun e he => tx.minorDelta_of_mem_effects he]
  unfold effects roles contribution touches
  -- only an allocation can be the initial one
  cases tx.kind
  case allocation =>
    cases hs : tx.hasRole fund .sender <;> cases hr : tx.hasRole fund .receiver <;> cases initial <;>
      simp [hs, hr, Effect.delta, Sums.ext_iff]
  all_goals
    cases hs : tx.hasRole fund .sender <;> cases hr : tx.hasRole fund .receiver <;>
      simp [hs, hr, Effect.delta, FundRole.sign, Sums.ext_iff]

end Transaction

/-! ## One more transaction -/

namespace Transaction

variable {fund : FundId} {tx : Transaction} {recorded txs : List Transaction}

/-- The other transactions of the same fiscal year. -/
def othersOfYear (tx : Transaction) (recorded : List Transaction) : List Transaction :=
  recorded.filter fun t => t.id != tx.id && t.fiscalYear == tx.fiscalYear

theorem not_mem_othersOfYear : ∀ t ∈ tx.othersOfYear recorded, t.id ≠ tx.id := by
  intro t ht
  have h := (List.mem_filter.mp ht).2
  exact bne_iff_ne.mp (Bool.and_eq_true_iff.mp h).1

theorem find?_id {t : Transaction} (hids : (txs.map (·.id)).Nodup) (h : t ∈ txs) :
    txs.find? (fun u => u.id == t.id) = some t := by
  cases hfind : txs.find? (fun u => u.id == t.id) with
  | none => exact absurd (beq_self_eq_true t.id) (List.find?_eq_none.mp hfind t h)
  | some u =>
    have hid : (u.id == t.id) = true := List.find?_some (p := fun u : Transaction => u.id == t.id) hfind
    rw [List.inj_on_of_nodup_map hids (List.mem_of_find?_eq_some hfind) h (eq_of_beq hid)]

theorem initialAllocation?_othersOfYear_ne : initialAllocation? fund (tx.othersOfYear recorded) ≠ some tx.id := by
  intro h
  obtain ⟨t, ht, hid⟩ := mem_of_initialAllocation? h
  exact not_mem_othersOfYear t ht hid

theorem effectsAfter_of_not_received (h : tx.isReceivedBy fund = false) :
    tx.effectsAfter fund recorded = tx.effects fund false := by
  have hinit : (initialAllocation? fund (tx.othersOfYear recorded ++ [tx]) == some tx.id) = false := by
    rw [initialAllocation?_append_of_not_received h]
    exact beq_false_of_ne initialAllocation?_othersOfYear_ne
  unfold othersOfYear at hinit
  unfold effectsAfter
  simp only [hinit, Bool.false_eq_true, if_false, List.append_nil]

/-- An allocation to the fund is its initial one unless an allocation precedes it; the one that was initial before is
displaced. -/
theorem effectsAfter_of_received (hids : (recorded.map (·.id)).Nodup) (h : tx.isReceivedBy fund = true) :
    tx.effectsAfter fund recorded =
      match earliest? (receivedAllocations fund (tx.othersOfYear recorded)) with
      | none => tx.effects fund true
      | some first =>
        if first.precedes tx then tx.effects fund false
        else tx.effects fund true ++ [.initialAllocationDisplaced first.roundedAmount] := by
  have hothers : ((tx.othersOfYear recorded).map (·.id)).Nodup := hids.sublist (List.filter_sublist.map _)
  have hcons : ((tx :: tx.othersOfYear recorded).map (·.id)).Nodup := by
    rw [List.map_cons, List.nodup_cons]
    refine ⟨fun hmem => ?_, hothers⟩
    obtain ⟨t, ht, hid⟩ := List.mem_map.mp hmem
    exact not_mem_othersOfYear t ht hid
  have happend : earliest? (receivedAllocations fund (tx.othersOfYear recorded ++ [tx])) = _ :=
    earliest?_received_append hcons h
  unfold effectsAfter
  simp only
  change tx.effects fund (initialAllocation? fund (tx.othersOfYear recorded ++ [tx]) == some tx.id) ++
    (if initialAllocation? fund (tx.othersOfYear recorded ++ [tx]) == some tx.id then
      (((initialAllocation? fund (tx.othersOfYear recorded)).bind fun id =>
        (tx.othersOfYear recorded).find? fun t => t.id == id).toList.map fun t =>
          Effect.initialAllocationDisplaced t.roundedAmount) else []) = _
  unfold initialAllocation?
  rw [happend]
  cases he : earliest? (receivedAllocations fund (tx.othersOfYear recorded)) with
  | none => simp
  | some first =>
    have hmem : first ∈ tx.othersOfYear recorded := List.mem_of_mem_filter (earliest?_mem he)
    by_cases hprec : first.precedes tx
    · have hne : first.id ≠ tx.id := not_mem_othersOfYear first hmem
      simp [hprec, beq_false_of_ne hne]
    · simp [hprec, find?_id hothers hmem]

/-- The effects after transactions with the same received allocations add up to how the tally grows. -/
theorem sum_effectsAfter {c : Currency} (hids : ((tx :: txs).map (·.id)).Nodup)
    (hcurrency : ∀ t ∈ tx :: txs, t.currency = c) (hrecorded : (recorded.map (·.id)).Nodup)
    (hsame : tx.isReceivedBy fund = true →
      (receivedAllocations fund (tx.othersOfYear recorded)).Perm (receivedAllocations fund txs)) :
    ((tx.effectsAfter fund recorded).map (Effect.minorDelta c.minorUnits)).sum =
      tally fund (tx :: txs) - tally fund txs := by
  obtain rfl := hcurrency tx List.mem_cons_self
  rw [tally_cons hids]
  cases hrec : tx.isReceivedBy fund with
  | false =>
    have hamount : initialAmount fund (tx :: txs) = initialAmount fund txs := by
      unfold initialAmount
      rw [receivedAllocations_cons, hrec]
      rfl
    rw [effectsAfter_of_not_received hrec, sum_effects, hamount, sub_self, Sums.promote_zero]
    abel
  | true =>
    have hothers : ((receivedAllocations fund (tx.othersOfYear recorded)).map (·.id)).Nodup :=
      nodup_receivedAllocations fund (hrecorded.sublist (List.filter_sublist.map _))
    have hrest : earliest? (receivedAllocations fund (tx.othersOfYear recorded)) =
        earliest? (receivedAllocations fund txs) := earliest?_perm hothers (hsame hrec)
    rw [effectsAfter_of_received hrecorded hrec, hrest]
    unfold initialAmount
    rw [receivedAllocations_cons, hrec, if_pos rfl]
    cases he : earliest? (receivedAllocations fund txs) with
    | none =>
      simp only [earliest?, he, Option.elim, sub_zero]
      rw [sum_effects, contribution_true_of_received hrec]
      abel
    | some first =>
      have hfirst : first.currency = tx.currency :=
        hcurrency first (List.mem_cons_of_mem tx (List.mem_of_mem_filter (earliest?_mem he)))
      simp only [earliest?, he, Option.elim]
      by_cases hprec : first.precedes tx
      · rw [if_pos hprec, if_pos hprec, sum_effects, sub_self, Sums.promote_zero]
        abel
      · have hdisplaced : Effect.minorDelta tx.currency.minorUnits (.initialAllocationDisplaced first.roundedAmount) =
            -Sums.promote first.minorAmount := by
          rw [← hfirst]
          unfold Effect.minorDelta Effect.delta Sums.promote
          ext <;> simp [Effect.amount, minorAmount]
        rw [if_neg hprec, if_neg hprec, List.map_append, List.sum_append, sum_effects,
          contribution_true_of_received hrec, Sums.promote_sub]
        simp only [List.map_cons, List.map_nil, List.sum_singleton, hdisplaced]
        abel

/-- There are the effects of the transaction itself, and at most one allocation of before is displaced. -/
theorem exists_effectsAfter (hrecorded : (recorded.map (·.id)).Nodup)
    (hsame : tx.isReceivedBy fund = true →
      (receivedAllocations fund (tx.othersOfYear recorded)).Perm (receivedAllocations fund txs)) :
    ∃ (initial : Bool) (displaced : List Transaction), displaced.length ≤ 1 ∧ (∀ t ∈ displaced, t ∈ txs) ∧
      tx.effectsAfter fund recorded =
        tx.effects fund initial ++ displaced.map fun t => .initialAllocationDisplaced t.roundedAmount := by
  cases hrec : tx.isReceivedBy fund with
  | false => exact ⟨false, [], by simp, by simp, by simp [effectsAfter_of_not_received hrec]⟩
  | true =>
    rw [effectsAfter_of_received hrecorded hrec]
    cases he : earliest? (receivedAllocations fund (tx.othersOfYear recorded)) with
    | none => exact ⟨true, [], by simp, by simp, by simp⟩
    | some first =>
      have hfirst : first ∈ txs := List.mem_of_mem_filter ((hsame hrec).subset (earliest?_mem he))
      by_cases hprec : first.precedes tx
      · exact ⟨false, [], by simp, by simp, by simp [hprec]⟩
      · exact ⟨true, [first], by simp, by simpa using hfirst, by simp [hprec]⟩

/-- One more transaction on sums that count the tally of the transactions before. -/
theorem accumulate_effectsAfter {c : Currency} {s : Sums Decimal} (hids : ((tx :: txs).map (·.id)).Nodup)
    (hcurrency : ∀ t ∈ tx :: txs, t.currency = c) (hrecorded : (recorded.map (·.id)).Nodup)
    (hsame : tx.isReceivedBy fund = true →
      (receivedAllocations fund (tx.othersOfYear recorded)).Perm (receivedAllocations fund txs))
    (small : volume (tx :: txs) < 2 ^ 94) (hs : s.Counts c.minorUnits (tally fund txs)) :
    ∃ s', Effect.accumulateAll (tx.effectsAfter fund recorded) s = .ok s' ∧
      s'.Counts c.minorUnits (tally fund (tx :: txs)) := by
  have hsum := sum_effectsAfter hids hcurrency hrecorded hsame
  obtain ⟨initial, displaced, hlength, hmem, heffects⟩ := exists_effectsAfter hrecorded hsame
  have hcount : ∀ t ∈ tx :: txs, t.roundedAmount.Counts c.minorUnits (t.roundedAmount.minor c.minorUnits) := by
    intro t ht
    obtain rfl := hcurrency t ht
    exact t.counts_roundedAmount
  have whole : ∀ e ∈ tx.effectsAfter fund recorded, e.amount.Counts c.minorUnits (e.amount.minor c.minorUnits) := by
    intro e he
    rw [heffects] at he
    rcases List.mem_append.mp he with he | he
    · rw [tx.amount_of_mem_effects he]
      exact hcount tx List.mem_cons_self
    · obtain ⟨t, ht, rfl⟩ := List.mem_map.mp he
      exact hcount t (List.mem_cons_of_mem tx (hmem t ht))
  have hnorm : ((tx.effectsAfter fund recorded).map fun e => (e.minorDelta c.minorUnits).norm).sum ≤
      2 * volume (tx :: txs) := by
    have htx : tx.currency = c := hcurrency tx List.mem_cons_self
    have hown := tx.sum_norm_effects_le fund initial
    rw [htx] at hown
    rw [heffects, List.map_append, List.sum_append, volume_cons]
    rcases displaced with _ | ⟨t, _ | ⟨u, rest⟩⟩
    · simp only [List.map_nil, List.sum_nil]
      omega
    · have ht : t ∈ txs := hmem t List.mem_cons_self
      have hle := minorAmount_le_volume ht
      have hnormt : (Effect.minorDelta c.minorUnits (.initialAllocationDisplaced t.roundedAmount)).norm =
          2 * t.minorAmount.natAbs := by
        obtain rfl := hcurrency t (List.mem_cons_of_mem tx ht)
        change (Effect.delta t.minorAmount (.initialAllocationDisplaced t.roundedAmount)).norm = _
        simp [Effect.delta, Sums.norm]
        omega
      simp only [List.map_cons, List.map_nil, List.sum_singleton, hnormt]
      omega
    · simp at hlength
  have htally := norm_tally_le fund txs
  rw [volume_cons] at hnorm small
  obtain ⟨s', hs', hcounts⟩ := Effect.accumulateAll_counts c.minorUnits_le whole hs (by
    unfold mantissaLimit
    omega)
  refine ⟨s', hs', ?_⟩
  rw [hsum] at hcounts
  simpa using hcounts

end Transaction

end FundLedger
