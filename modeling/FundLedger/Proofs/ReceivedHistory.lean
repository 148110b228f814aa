import FundLedger.Proofs.EffectTally
/-!
# The part of the history that matters

Of the transactions recorded for a fund, a further one depends on the allocations only that the fund received in the
same fiscal year: the earliest of them tells whether an allocation is the initial one, and is the one that it displaces.  In
which order they are listed, what else is recorded, and whether the transaction itself is recorded already, does not
matter.

* `receivedInYear`: these allocations.
* `Transaction.effectsAfter_congr`: effects after two histories with the same ones.
* `Budget.applyWithHistory_receivedInYear`: a budget after a transaction.
-/

namespace FundLedger

/-- The allocations of a fiscal year among some transactions that a fund received. -/
def receivedInYear (fund : FundId) (year : FiscalYearId) (txs : List Transaction) : List Transaction :=
  txs.filter fun t => t.kind = .allocation ∧ t.fiscalYear = year ∧ t.toFund = some fund

namespace Transaction

variable {fund : FundId} {tx : Transaction} {recorded kept : List Transaction}

/-- What an allocation is compared with: the other ones that the fund received in the year. -/
theorem receivedAllocations_othersOfYear (fund : FundId) (tx : Transaction) (recorded : List Transaction) :
    receivedAllocations fund (tx.othersOfYear recorded) =
      (receivedInYear fund tx.fiscalYear recorded).filter fun t => t.id != tx.id := by
  unfold receivedAllocations othersOfYear receivedInYear
  rw [List.filter_filter, List.filter_filter]
  refine List.filter_congr fun t _ => ?_
  rw [Bool.eq_iff_iff]
  simp only [hasRole, Bool.and_eq_true, beq_iff_eq, decide_eq_true_eq]
  tauto

theorem receivedInYear_idem (fund : FundId) (year : FiscalYearId) (txs : List Transaction) :
    receivedInYear fund year (receivedInYear fund year txs) = receivedInYear fund year txs :=
  List.filter_filter.trans (by simp only [Bool.and_self]; rfl)

/-- Histories with the same received allocations have the same effects. -/
theorem effectsAfter_congr (hrecorded : (recorded.map (·.id)).Nodup) (hkept : (kept.map (·.id)).Nodup)
    (hsame : (receivedInYear fund tx.fiscalYear recorded).Perm (receivedInYear fund tx.fiscalYear kept)) :
    tx.effectsAfter fund recorded = tx.effectsAfter fund kept := by
  cases hreceived : tx.isReceivedBy fund with
  | false => rw [effectsAfter_of_not_received hreceived, effectsAfter_of_not_received hreceived]
  | true =>
    have hothers : ((receivedAllocations fund (tx.othersOfYear recorded)).map (·.id)).Nodup :=
      nodup_receivedAllocations fund (hrecorded.sublist (List.filter_sublist.map _))
    have hperm : (receivedAllocations fund (tx.othersOfYear recorded)).Perm
        (receivedAllocations fund (tx.othersOfYear kept)) := by
      rw [receivedAllocations_othersOfYear, receivedAllocations_othersOfYear]
      exact hsame.filter _
    rw [effectsAfter_of_received hrecorded hreceived, effectsAfter_of_received hkept hreceived,
      earliest?_perm hothers hperm]

end Transaction

namespace Budget

/-- A transaction leaves a budget the same, or overflows the same, whether it is given the whole history or, in any
order, the allocations of its fiscal year alone that the budget's fund received. -/
theorem applyWithHistory_receivedInYear (b : Budget) (tx : Transaction) {recorded kept : List Transaction}
    (hids : (recorded.map (·.id)).Nodup) (hkept : kept.Perm (receivedInYear b.fund tx.fiscalYear recorded)) :
    b.applyWithHistory tx recorded = b.applyWithHistory tx kept := by
  have hsublist : ((receivedInYear b.fund tx.fiscalYear recorded).map (·.id)).Nodup :=
    hids.sublist (List.filter_sublist.map _)
  have hids' : (kept.map (·.id)).Nodup := (hkept.map _).nodup_iff.mpr hsublist
  have hsame : (receivedInYear b.fund tx.fiscalYear recorded).Perm (receivedInYear b.fund tx.fiscalYear kept) := by
    have hperm := (hkept.filter fun t =>
      t.kind = .allocation ∧ t.fiscalYear = tx.fiscalYear ∧ t.toFund = some b.fund).symm
    exact (Transaction.receivedInYear_idem b.fund tx.fiscalYear recorded) ▸ hperm
  unfold applyWithHistory
  rw [Transaction.effectsAfter_congr hids hids' hsame]

/-- A backdated allocation that is recorded already displaces the one of a minute later.  An allocation of another year,
one to another fund and a transfer do not matter. -/
theorem applyWithHistory_backdated :
    let b := Budget.create 5 "books" 6 7 .usd
    let received (id : TransactionId) (date : Instant) : Transaction :=
      { Transaction.create id .allocation 12.5 .usd b.fiscalYear date with toFund := some b.fund }
    let recorded := [received 1 ⟨60, 0⟩, { received 2 ⟨0, 0⟩ with fiscalYear := 8 }, received 3 ⟨30, 0⟩,
      { received 4 ⟨0, 0⟩ with toFund := some 9 }, { received 5 ⟨0, 0⟩ with kind := .transfer }]
    b.applyWithHistory (received 3 ⟨30, 0⟩) recorded =
        b.applyWithHistory (received 3 ⟨30, 0⟩) [received 3 ⟨30, 0⟩, received 1 ⟨60, 0⟩] ∧
      (received 3 ⟨30, 0⟩).effectsAfter b.fund recorded =
        [.allocation .receiver true 12.5, .initialAllocationDisplaced 12.5] := by
  intro b received recorded
  refine ⟨b.applyWithHistory_receivedInYear _ ?_ ?_, by decide⟩
  · decide
  · decide

end Budget

end FundLedger
