import FundLedger.Proofs.EffectTally
import FundLedger.Proofs.Recompute
/-!
# Totals kept transaction by transaction

A budget that holds the tally of its transactions holds the tally with one more transaction when that was applied to
it.  So keeping the totals transaction by transaction leads to the totals that are recomputed from all of them.

* `Budget.applyWithHistory_holds`: the step.
* `Budget.applyEach`: transactions applied one by one, each with the ones before as its history.
* `Budget.applyEach_refines_recompute`: the totals after every prefix are the recomputed ones.
* `Budget.applyEach_same_in_any_order`: the order in which transactions arrive does not matter.
-/

namespace FundLedger

namespace Budget

variable {b : Budget} {tx : Transaction} {recorded txs : List Transaction}

/-- What is known of the history of an allocation that the budget's fund received. -/
def KnowsReceived (b : Budget) (tx : Transaction) (recorded txs : List Transaction) : Prop :=
  tx.isReceivedBy b.fund = true →
    (receivedAllocations b.fund (tx.othersOfYear recorded)).Perm (receivedAllocations b.fund (b.scope txs))

/-- A transaction that does not concern the fund has no effects. -/
theorem effectsAfter_eq_nil (h : tx.touches b.fund = false) : tx.effectsAfter b.fund recorded = [] := by
  obtain ⟨hs, hr⟩ := Bool.or_eq_false_iff.mp h
  have hreceived : tx.isReceivedBy b.fund = false := by
    unfold Transaction.isReceivedBy
    rw [hr, Bool.and_false]
  rw [Transaction.effectsAfter_of_not_received hreceived]
  unfold Transaction.effects Transaction.roles
  cases tx.kind <;> simp [h, hs, hr]

/-- The budget after some effects holds the whole sums that they lead to. -/
theorem applyEffects_holds {effects : List Effect} {s : Sums Decimal} {m n : Sums Int} (h : b.Holds m)
    (hs : Effect.accumulateAll effects b.totals.toSums = .ok s) (hcounts : s.Counts b.currency.minorUnits n)
    (small : n.norm < mantissaLimit) :
    ∃ totals, b.applyEffects effects = .ok { b with totals } ∧ { b with totals }.Holds n := by
  obtain ⟨t, ht, hderived⟩ := hcounts.derive b.currency.minorUnits_le small
  unfold applyEffects
  split
  · rename_i hnil
    -- without effects the totals stay as they are, and so do the sums
    rw [List.isEmpty_iff.mp hnil] at hs
    obtain rfl : b.totals.toSums = s := Except.ok.inj hs
    have hsame : m = n := Sums.Counts.unique h.sums hcounts
    refine ⟨b.totals, rfl, ?_⟩
    rw [← hsame]
    exact h
  · refine ⟨t.rounded b.currency, ?_, hderived.rounded⟩
    rw [hs]
    simp only [bind, Except.bind, ht]
    rfl

/-- The budget after one more transaction of its fiscal year holds the tally with it. -/
theorem applyWithHistory_holds (h : b.Holds (b.tally txs)) (hcount : b.Countable (tx :: txs))
    (hyear : tx.fiscalYear = b.fiscalYear) (hrecorded : (recorded.map (·.id)).Nodup)
    (hknows : b.KnowsReceived tx recorded txs) :
    ∃ totals, b.applyWithHistory tx recorded = .ok { b with totals } ∧
      { b with totals }.Holds (b.tally (tx :: txs)) := by
  unfold applyWithHistory
  cases htouches : tx.touches b.fund with
  | false =>
    have hcovers : b.covers tx = false := by
      unfold covers
      rw [htouches, Bool.and_false]
    rw [effectsAfter_eq_nil htouches, tally_cons_of_not_covers hcovers]
    exact ⟨b.totals, rfl, h⟩
  | true =>
    have hscope : b.scope (tx :: txs) = tx :: b.scope txs := by
      rw [scope_cons, if_pos]
      unfold covers
      rw [htouches, hyear, beq_self_eq_true, Bool.and_self]
    have hids := hcount.ids_scope
    have hcurrency := hcount.currency
    have hsmall := hcount.small_scope
    rw [hscope] at hids hcurrency hsmall
    obtain ⟨s, hs, hcounts⟩ :=
      Transaction.accumulate_effectsAfter hids hcurrency hrecorded hknows hsmall h.sums
    have hnorm := norm_tally_le b.fund (tx :: b.scope txs)
    unfold tally at h ⊢
    rw [hscope]
    refine applyEffects_holds h hs hcounts ?_
    unfold mantissaLimit
    omega

/-- A transaction that is not an allocation to the budget's fund adds what it contributes, whether or not the totals
count it already. -/
theorem applyWithHistory_adds {m : Sums Int} (h : b.Holds m) (hcurrency : tx.currency = b.currency)
    (hreceived : tx.isReceivedBy b.fund = false) (small : m.norm + 2 * tx.minorAmount.natAbs < mantissaLimit)
    (recorded : List Transaction) :
    ∃ totals, b.applyWithHistory tx recorded = .ok { b with totals } ∧
      { b with totals }.Holds (m + tx.contribution b.fund false) := by
  have whole : ∀ e ∈ tx.effects b.fund false,
      e.amount.Counts b.currency.minorUnits (e.amount.minor b.currency.minorUnits) := by
    intro e he
    rw [tx.amount_of_mem_effects he, ← hcurrency]
    exact tx.counts_roundedAmount
  have hown := tx.sum_norm_effects_le b.fund false
  have hsum := tx.sum_effects b.fund false
  rw [hcurrency] at hown hsum
  obtain ⟨s, hs, hcounts⟩ := Effect.accumulateAll_counts b.currency.minorUnits_le whole h.sums (by
    change m.norm + _ < mantissaLimit
    omega)
  rw [hsum] at hcounts
  unfold applyWithHistory
  rw [Transaction.effectsAfter_of_not_received hreceived]
  refine applyEffects_holds h hs hcounts ?_
  have hadd := m.norm_add_le (tx.contribution b.fund false)
  have hcontribution := tx.norm_contribution_le b.fund false
  change (m + tx.contribution b.fund false).norm < mantissaLimit
  omega

/-- Every transaction applied to the budget, told the ones before it. -/
def applyEach (b : Budget) (earlier : List Transaction) : List Transaction → Except Overflow Budget
  | [] => .ok b
  | tx :: rest => do (← b.applyWithHistory tx earlier).applyEach (earlier ++ [tx]) rest

theorem scope_eq_filter (hyear : ∀ t ∈ txs, t.fiscalYear = b.fiscalYear) :
    b.scope txs = txs.filter fun t => t.touches b.fund := by
  unfold scope
  refine List.filter_congr fun t ht => ?_
  rw [hyear t ht, beq_self_eq_true, Bool.true_and]

/-- All transactions of the year together are a history that knows every allocation received. -/
theorem knowsReceived_of_year (hids : ((tx :: txs).map (·.id)).Nodup)
    (hyear : ∀ t ∈ tx :: txs, t.fiscalYear = b.fiscalYear) : b.KnowsReceived tx txs txs := by
  intro _
  have hothers : tx.othersOfYear txs = txs := by
    refine List.filter_eq_self.mpr fun t ht => ?_
    have hid : t.id ≠ tx.id := fun h =>
      (List.nodup_cons.mp hids).1 (List.mem_map.mpr ⟨t, ht, h⟩)
    rw [bne_iff_ne.mpr hid, hyear t (List.mem_cons_of_mem tx ht), hyear tx List.mem_cons_self, beq_self_eq_true,
      Bool.and_self]
  have hscope : receivedAllocations b.fund (b.scope txs) = receivedAllocations b.fund txs := by
    rw [scope_eq_filter fun t ht => hyear t (List.mem_cons_of_mem tx ht)]
    unfold receivedAllocations
    rw [List.filter_filter]
    refine List.filter_congr fun t _ => ?_
    unfold Transaction.touches
    cases t.kind == .allocation <;> cases t.hasRole b.fund .receiver <;> simp
  rw [hothers, hscope]

theorem applyEach_holds {rest : List Transaction} (h : b.Holds (b.tally txs)) (hcount : b.Countable (txs ++ rest))
    (hyear : ∀ t ∈ txs ++ rest, t.fiscalYear = b.fiscalYear) :
    ∃ totals, b.applyEach txs rest = .ok { b with totals } ∧ { b with totals }.Holds (b.tally (txs ++ rest)) := by
  induction rest generalizing b txs with
  | nil => exact ⟨b.totals, rfl, by simpa using h⟩
  | cons tx rest ih =>
    have hperm : (txs ++ [tx]).Perm (tx :: txs) := List.perm_append_singleton tx txs
    have hsplit : txs ++ tx :: rest = txs ++ [tx] ++ rest := by simp
    rw [hsplit] at hcount hyear ⊢
    have hcount' : b.Countable (tx :: txs) := (hcount.sublist (List.sublist_append_left _ _)).perm hperm
    have hyear' : ∀ t ∈ tx :: txs, t.fiscalYear = b.fiscalYear := fun t ht =>
      hyear t (List.mem_append_left rest (hperm.mem_iff.mpr ht))
    have hids := List.nodup_cons.mp hcount'.ids
    obtain ⟨totals, happly, hholds⟩ := applyWithHistory_holds h hcount' (hyear' tx List.mem_cons_self) hids.2
      (knowsReceived_of_year hcount'.ids hyear')
    -- the budget after the step covers the same transactions in the same currency
    let b' : Budget := { b with totals }
    have hnext : b'.Holds (b'.tally (txs ++ [tx])) := by
      rw [tally_perm ((hperm.map _).nodup_iff.mpr hcount'.ids) hperm]
      exact hholds
    obtain ⟨totals', heach, hlast⟩ := ih hnext ⟨hcount.currency, hcount.ids, hcount.small⟩ hyear
    refine ⟨totals', ?_, hlast⟩
    unfold applyEach
    rw [happly]
    exact heach

/-- Transactions applied one by one to a budget without money lead, after each of them, to the totals that are
recomputed from all so far. -/
theorem applyEach_refines_recompute (b : Budget) (txs : List Transaction) (hzero : b.totals ≈ Totals.zero)
    (hids : (txs.map (·.id)).Nodup) (hcurrency : ∀ t ∈ txs, t.currency = b.currency)
    (hyear : ∀ t ∈ txs, t.fiscalYear = b.fiscalYear) (hsmall : volume txs < 2 ^ 94) (n : Nat) :
    ∃ totals recomputed, b.applyEach [] (txs.take n) = .ok { b with totals } ∧
      b.recompute (txs.take n) = .ok recomputed ∧ totals ≈ recomputed := by
  have hcount : b.Countable (txs.take n) :=
    (Countable.mk (fun t ht => hcurrency t (List.mem_of_mem_filter ht)) hids hsmall).sublist (List.take_sublist n txs)
  have hstart : b.Holds (b.tally []) := (Totals.counts_zero _).of_equiv hzero
  obtain ⟨totals, heach, hholds⟩ := applyEach_holds hstart hcount fun t ht => hyear t (List.mem_of_mem_take ht)
  obtain ⟨recomputed, hrecompute, hequiv⟩ :=
    (reflects_iff (b := { b with totals }) ⟨hcount.currency, hcount.ids, hcount.small⟩).mpr hholds
  exact ⟨totals, recomputed, heach, hrecompute, hequiv⟩

/-- There are totals that the same transactions lead to in every order of arrival: each order ends in them when the
transactions are applied one by one to a budget without money, and they are recomputed from each order. -/
theorem applyEach_same_in_any_order (b : Budget) (txs : List Transaction) (hzero : b.totals ≈ Totals.zero)
    (hids : (txs.map (·.id)).Nodup) (hcurrency : ∀ t ∈ txs, t.currency = b.currency)
    (hyear : ∀ t ∈ txs, t.fiscalYear = b.fiscalYear) (hsmall : volume txs < 2 ^ 94) :
    ∃ final : Totals Decimal, ∀ order : List Transaction, order.Perm txs →
      ∃ totals recomputed, b.applyEach [] order = .ok { b with totals } ∧ b.recompute order = .ok recomputed ∧
        totals ≈ final ∧ recomputed ≈ final := by
  have hcount : b.Countable txs := ⟨fun t ht => hcurrency t (List.mem_of_mem_filter ht), hids, hsmall⟩
  have hstart : b.Holds (b.tally []) := (Totals.counts_zero _).of_equiv hzero
  obtain ⟨final, -, hfinal⟩ := recompute_counts hcount
  refine ⟨final, fun order hperm => ?_⟩
  have hcount' : b.Countable order := hcount.perm hperm.symm
  -- no order changes the tally, and with it neither way to the totals
  have htally : b.tally order = b.tally txs := tally_perm hcount'.ids hperm
  obtain ⟨totals, heach, hholds⟩ := applyEach_holds hstart hcount' fun t ht => hyear t (hperm.mem_iff.mp ht)
  obtain ⟨recomputed, hrecompute, hrecomputed⟩ := recompute_counts hcount'
  refine ⟨totals, recomputed, heach, hrecompute, ?_, ?_⟩
  · exact (Totals.Counts.equiv_iff hholds hfinal).mpr (congrArg Sums.derived htally)
  · exact (Totals.Counts.equiv_iff hrecomputed hfinal).mpr (congrArg Sums.derived htally)

/-- Two allocations to a fund, the later one dated before the other, and a transfer within the fund. -/
def backdatedAllocations (fund : FundId) (year : FiscalYearId) : List Transaction :=
  let allocation := Transaction.create 1 .allocation 10.005 .usd year ⟨60, 0⟩
  let backdated := Transaction.create 2 .allocation 7.0 .usd year ⟨0, 0⟩
  let within := Transaction.create 3 .transfer (-2.5) .usd year ⟨60, 0⟩
  [{ allocation with toFund := some fund }, { backdated with toFund := some fund },
    { within with fromFund := some fund, toFund := some fund }]

theorem applyEach_backdatedAllocations :
    let b := Budget.create 5 "books" 6 7 .usd
    ∃ totals recomputed, b.applyEach [] ((backdatedAllocations b.fund b.fiscalYear).take 3) = .ok { b with totals } ∧
      b.recompute ((backdatedAllocations b.fund b.fiscalYear).take 3) = .ok recomputed ∧ totals ≈ recomputed :=
  applyEach_refines_recompute _ _ (by decide) (by decide) (by decide) (by decide) (by decide) 3

/-- In the order of the list, the second allocation displaces the first one; in the reverse order it is the initial one
when it arrives. -/
theorem applyEach_backdatedAllocations_reversed :
    let b := Budget.create 5 "books" 6 7 .usd
    let txs := backdatedAllocations b.fund b.fiscalYear
    ∃ final totals totals' : Totals Decimal, b.applyEach [] txs = .ok { b with totals } ∧
      b.applyEach [] txs.reverse = .ok { b with totals := totals' } ∧ totals ≈ final ∧ totals' ≈ final := by
  intro b txs
  obtain ⟨final, horder⟩ := applyEach_same_in_any_order b txs (by decide) (by decide) (by decide) (by decide) (by decide)
  obtain ⟨totals, -, heach, -, hfinal, -⟩ := horder txs (.refl _)
  obtain ⟨totals', -, heach', -, hfinal', -⟩ := horder txs.reverse (List.reverse_perm _)
  exact ⟨final, totals, totals', heach, heach', hfinal, hfinal'⟩

end Budget

end FundLedger
