import FundLedger.Proofs.Upkeep
/-!
# Runs of calls

Calls that follow one another on a consistent store.  The store is consistent after each of them, and a call that fails
leaves no trace.

* `Call`, `Call.operation`: the calls that change a ledger by its own rules.
* `Store.Run`: calls one after the other, each new transaction with a new identifier.
* `Store.Consistent.perform_call`: the step.
* `Store.Run.consistent_and_all_or_nothing`: the whole run.
-/

namespace FundLedger

/-- A call that changes a ledger by its own rules. -/
inductive Call
  | create (tx : Transaction)
  | release (id : TransactionId)
  | moveToAwaitingPayment (id : TransactionId) (amount : Decimal)
  | recalculateBudget (id : BudgetId)
  | recalculateFiscalYear (fiscalYear : FiscalYearId)
  | deleteBudget (id : BudgetId)
  | removeExpenseClass (budget : BudgetId) (expenseClass : ExpenseClassId)

namespace Call

/-- The operation that a call performs, without its result. -/
def operation : Call → Operation Unit
  | create tx => discard (.createTransaction tx)
  | release id => discard (.releaseEncumbrance id)
  | moveToAwaitingPayment id amount => discard (.moveToAwaitingPayment id amount)
  | recalculateBudget id => discard (.recalculateBudget id)
  | recalculateFiscalYear fiscalYear => discard (.recalculateFiscalYear fiscalYear)
  | deleteBudget id => .deleteBudget id
  | removeExpenseClass budget expenseClass => .removeExpenseClass budget expenseClass

/-- The magnitude of the amount that a call may record, in minor units. -/
def volume : Call → Nat
  | create tx => tx.minorAmount.natAbs
  | _ => 0

/-- A transaction to record has an identifier that is not stored. -/
def IsNew (s : Store) : Call → Prop
  | create tx => s.transactions.find? tx.id = none
  | _ => True

end Call

namespace Store

variable {α : Type} {s s' : Store} {calls : List Call} {call : Call}

theorem Keeps.discard {d : Operation α} {extra : Nat} (h : s.Keeps extra (s.perform d)) :
    s.Keeps extra (s.perform (Functor.discard d)) := by
  rw [perform_discard]
  rcases hperform : s.perform d with ⟨_ | a, s'⟩
  · rw [hperform] at h
    exact ⟨h.consistent, h.volume_le, fun _ _ => h.unchanged _ rfl, h.change⟩
  · rw [hperform] at h
    exact ⟨h.consistent, h.volume_le, fun _ he => (by cases he), h.change⟩

theorem Consistent.keeps_createTransaction {tx : Transaction} (h : s.Consistent)
    (hfresh : s.transactions.find? tx.id = none) (small : s.volume + tx.minorAmount.natAbs < 2 ^ 94) :
    s.Keeps tx.minorAmount.natAbs (s.perform (.createTransaction tx)) := by
  rcases h.createTransaction hfresh small with ⟨failure, he⟩ | ⟨hok, hconsistent⟩
  · rw [he]
    exact h.keeps_error _ failure
  · obtain ⟨context, hcontext, hadmission⟩ := admission_of_createTransaction (congrArg Prod.fst hok)
    rw [hok]
    refine ⟨hconsistent, ?_, fun failure he => (by cases he), .recorded hfresh hcontext hadmission⟩
    have hperm : (s.transactions.put tx.normalized).records.Perm (tx.normalized :: s.transactions.records) :=
      Table.put_perm_of_fresh hfresh
    have htransactions : (s.recorded tx.normalized).transactions = s.transactions.put tx.normalized :=
      writeAll_transactions _ _
    unfold volume
    rw [htransactions, volume_perm hperm, volume_cons, tx.minorAmount_normalized, Nat.add_comm]

/-- One call on a consistent store. -/
theorem Consistent.perform_call (h : s.Consistent) (hnew : call.IsNew s) (small : s.volume + call.volume < 2 ^ 94) :
    s.Keeps call.volume (s.perform call.operation) := by
  cases call with
  | create tx => exact (h.keeps_createTransaction hnew small).discard
  | release id => exact h.accountCall small id .release
  | moveToAwaitingPayment id amount => exact h.accountCall small id (.moveToAwaitingPayment amount)
  | recalculateBudget id => exact (h.recalculateBudget small id).discard
  | recalculateFiscalYear fiscalYear => exact (h.recalculateFiscalYear small fiscalYear).discard
  | deleteBudget id => exact h.deleteBudget id
  | removeExpenseClass budget expenseClass => exact h.removeExpenseClass budget expenseClass

/-- Calls one after the other, from a store to the store after the last one. -/
inductive Run (s : Store) : List Call → Store → Prop
  | nil : Run s [] s
  | snoc {calls : List Call} {s' : Store} {call : Call} (hrun : Run s calls s') (hnew : call.IsNew s') :
      Run s (calls ++ [call]) (s'.perform call.operation).2

theorem Run.consistent (hrun : s.Run calls s') (h : s.Consistent)
    (small : s.volume + (calls.map Call.volume).sum < 2 ^ 94) :
    s'.Consistent ∧ s'.volume ≤ s.volume + (calls.map Call.volume).sum := by
  induction hrun with
  | nil => exact ⟨h, Nat.le_add_right ..⟩
  | snoc hrun hnew ih =>
    rw [List.map_append, List.sum_append] at small ⊢
    simp only [List.map_cons, List.map_nil, List.sum_singleton] at small ⊢
    obtain ⟨hconsistent, hvolume⟩ := ih (by omega)
    have hstep := hconsistent.perform_call hnew (by omega)
    have hle := hstep.volume_le
    exact ⟨hstep.consistent, by omega⟩

/-- After any run of calls from a consistent store, and after one call more, the store is consistent; if that call fails,
the store is as it was before the call. -/
theorem Run.consistent_and_all_or_nothing (hrun : s.Run calls s') (h : s.Consistent) (hnew : call.IsNew s')
    (small : s.volume + ((calls ++ [call]).map Call.volume).sum < 2 ^ 94) :
    s'.Consistent ∧ (s'.perform call.operation).2.Consistent ∧
      ∀ failure, (s'.perform call.operation).1 = .error failure → (s'.perform call.operation).2 = s' := by
  rw [List.map_append, List.sum_append] at small
  simp only [List.map_cons, List.map_nil, List.sum_singleton] at small
  obtain ⟨hconsistent, hvolume⟩ := hrun.consistent h (by omega)
  have hstep := hconsistent.perform_call hnew (by omega)
  exact ⟨hconsistent, hstep.consistent, hstep.unchanged⟩

/-! ## A small ledger -/

/-- Two funds with an empty budget each. -/
def twoFunds : Store where
  budgets := .ofList [.create 11 "books" 1 9 .usd, .create 12 "journals" 2 9 .usd]
  funds := .ofList [.create 1 "BOOKS" 8, .create 2 "JOURNALS" 8]

theorem consistent_twoFunds : twoFunds.Consistent := by
  refine consistent_of_no_transactions rfl ?_ ?_
  · change ∀ b ∈ twoFunds.budgets.records, ∀ b' ∈ twoFunds.budgets.records,
      b.fund = b'.fund → b.fiscalYear = b'.fiscalYear → b = b'
    decide
  · change ∀ b ∈ twoFunds.budgets.records, b.totals ≈ Totals.zero
    decide

/-- Fifty dollars for the first fund. -/
def allocationToBooks : Transaction :=
  { Transaction.create 21 .allocation 50.000 .usd 9 ⟨0, 0⟩ with toFund := some 1 }

/-- Twenty dollars from the first fund to the second. -/
def transferToJournals : Transaction :=
  { Transaction.create 22 .transfer 20.0 .usd 9 ⟨60, 0⟩ with fromFund := some 1, toFund := some 2 }

/-- A payment out of a fund that is not yet confirmed. -/
def pendingFrom (id : TransactionId) (fund : FundId) (amount : Decimal) : Transaction :=
  { Transaction.create id .pendingPayment amount .usd 9 ⟨0, 0⟩ with fromFund := some fund }

theorem consistent_after_transferToJournals :
    let call := Call.create transferToJournals
    let s' := (twoFunds.perform (Call.create allocationToBooks).operation).2
    s'.Consistent ∧ (s'.perform call.operation).2.Consistent ∧
      ∀ failure, (s'.perform call.operation).1 = .error failure → (s'.perform call.operation).2 = s' := by
  have hnew : Call.IsNew twoFunds (.create allocationToBooks) := by
    change twoFunds.transactions.find? allocationToBooks.id = none
    decide
  have hnew' : Call.IsNew (twoFunds.perform (Call.create allocationToBooks).operation).2 (.create transferToJournals) := by
    change (twoFunds.perform (Call.create allocationToBooks).operation).2.transactions.find? transferToJournals.id = none
    decide +kernel
  exact Run.consistent_and_all_or_nothing (.snoc .nil hnew) consistent_twoFunds hnew' (by decide)

example : ((twoFunds.perform (.createTransaction allocationToBooks)).2.perform
    (.createTransaction transferToJournals)).1 = .ok transferToJournals := by decide +kernel

end Store

end FundLedger
