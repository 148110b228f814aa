import FundLedger.Proofs.Runs
/-!
# Backed transactions

What a ledger of its own making knows of every stored transaction: the amount is rounded, the funds that its kind asks
for are named, and each of them has a budget of the year.  The calls keep that, since a transaction is recorded only
with its budgets, and a budget is deleted only without transactions.

* `Store.Backed`.
* `Store.Change.backed`: the step.
* `Store.Run.backed`, `Store.Run.of_no_transactions`: the whole run.
-/

namespace FundLedger

namespace Store

variable {s s' : Store} {calls : List Call}

/-- The stored transactions are as they were recorded, and have their budgets. -/
structure Backed (s : Store) : Prop where
  rounded : ∀ t ∈ s.transactions, t.amount.Counts t.currency.minorUnits t.minorAmount
  named : ∀ t ∈ s.transactions, t.fundIssue? = none
  budgets : ∀ t ∈ s.transactions, ∀ fund, t.touches fund = true →
    ∃ b ∈ s.budgets, b.fund = fund ∧ b.fiscalYear = t.fiscalYear

theorem backed_of_no_transactions (h : s.transactions.records = []) : s.Backed := by
  have hnone : ∀ t, t ∉ s.transactions := fun t ht => by
    rw [Table.mem_def, h] at ht
    cases ht
  exact ⟨fun t ht => absurd ht (hnone t), fun t ht => absurd ht (hnone t), fun t ht => absurd ht (hnone t)⟩

/-- The same budgets, up to totals. -/
theorem SameBudgets.exists_budget (h : s.SameBudgets s') {fund : FundId} {fiscalYear : FiscalYearId}
    (hb : ∃ b ∈ s.budgets, b.fund = fund ∧ b.fiscalYear = fiscalYear) :
    ∃ b ∈ s'.budgets, b.fund = fund ∧ b.fiscalYear = fiscalYear := by
  obtain ⟨b, hb, hfund, hyear⟩ := hb
  obtain ⟨totals, version, hc⟩ := h.mem b hb
  exact ⟨_, hc, hfund, hyear⟩

/-- An admitted transaction has a budget for each fund that it touches. -/
theorem exists_budget_of_admission {tx : Transaction} {context : AdmissionContext}
    (hcontext : context.budgets = s.budgetsOf tx) (hadmission : tx.admission context = .ok ()) {fund : FundId}
    (htouches : tx.touches fund = true) : ∃ b ∈ s.budgets, b.fund = fund ∧ b.fiscalYear = tx.fiscalYear := by
  obtain ⟨b, hb, -⟩ := Transaction.admission_currency hadmission fund (tx.mem_funds.mpr htouches)
  have hfund : (b.fund == fund) = true := List.find?_some (p := fun c : Budget => c.fund == fund) hb
  obtain ⟨hmem, hcovers⟩ := mem_of_mem_budgetsOf (s := s) (hcontext ▸ List.mem_of_find?_eq_some hb)
  exact ⟨b, hmem, eq_of_beq hfund, (eq_of_beq (Bool.and_eq_true_iff.mp hcovers).1).symm⟩

/-- An admitted transaction is backed, and the others stay so. -/
theorem Backed.recorded (h : s.Backed) {tx : Transaction} {context : AdmissionContext}
    (hcontext : context.budgets = s.budgetsOf tx.normalized) (hadmission : tx.normalized.admission context = .ok ()) :
    (s.recorded tx.normalized).Backed := by
  have htransactions : (s.recorded tx.normalized).transactions = s.transactions.put tx.normalized :=
    writeAll_transactions _ _
  have hmem : ∀ t ∈ (s.recorded tx.normalized).transactions, t = tx.normalized ∨ t ∈ s.transactions := by
    intro t ht
    rw [htransactions] at ht
    exact (Table.mem_put.mp ht).imp_right And.left
  constructor
  · intro t ht
    rcases hmem t ht with rfl | ht
    · rw [tx.minorAmount_normalized]
      exact tx.counts_roundedAmount
    · exact h.rounded t ht
  · intro t ht
    rcases hmem t ht with rfl | ht
    · exact (Transaction.admission_eq_ok_iff.mp hadmission).1
    · exact h.named t ht
  · intro t ht fund htouches
    refine (sameBudgets_recorded s tx.normalized).exists_budget ?_
    rcases hmem t ht with rfl | ht
    · exact exists_budget_of_admission hcontext hadmission htouches
    · exact h.budgets t ht fund htouches

/-- Nothing that is asked for depends on the account of reserved money. -/
theorem Backed.accounted (h : s.Backed) {tx tx' : Transaction} (htx : tx ∈ s.transactions) (hbare : tx'.bare = tx.bare) :
    { s with transactions := s.transactions.put tx' }.Backed := by
  have hmem : ∀ t ∈ s.transactions.put tx', ∃ u ∈ s.transactions, t.bare = u.bare := by
    intro t ht
    rcases Table.mem_put.mp ht with rfl | ⟨ht, -⟩
    · exact ⟨tx, htx, hbare⟩
    · exact ⟨t, ht, rfl⟩
  constructor
  · intro t ht
    obtain ⟨u, hu, hsame⟩ := hmem t ht
    have hcounts := h.rounded u hu
    rwa [← Transaction.eq_of_bare_eq Transaction.amount (fun _ => rfl) hsame,
      ← Transaction.eq_of_bare_eq Transaction.currency (fun _ => rfl) hsame,
      ← Transaction.eq_of_bare_eq Transaction.minorAmount (fun _ => rfl) hsame] at hcounts
  · intro t ht
    obtain ⟨u, hu, hsame⟩ := hmem t ht
    rw [Transaction.eq_of_bare_eq Transaction.fundIssue? (fun _ => rfl) hsame]
    exact h.named u hu
  · intro t ht fund htouches
    obtain ⟨u, hu, hsame⟩ := hmem t ht
    rw [Transaction.eq_of_bare_eq Transaction.fiscalYear (fun _ => rfl) hsame]
    rw [Transaction.eq_of_bare_eq (fun t => t.touches fund) (fun _ => rfl) hsame] at htouches
    exact h.budgets u hu fund htouches

/-- The same transactions, with budgets for all of them. -/
theorem Backed.of_budgets (h : s.Backed) (htransactions : s'.transactions = s.transactions)
    (hbudgets : ∀ t ∈ s.transactions, ∀ fund, t.touches fund = true →
      ∃ b ∈ s'.budgets, b.fund = fund ∧ b.fiscalYear = t.fiscalYear) : s'.Backed where
  rounded := htransactions ▸ h.rounded
  named := htransactions ▸ h.named
  budgets := htransactions ▸ hbudgets

/-- Whatever becomes of the store, its transactions stay backed. -/
theorem Change.backed (hchange : s.Change s') (h : s.Backed) : s'.Backed := by
  cases hchange with
  | recorded hfresh hcontext hadmission => exact h.recorded hcontext hadmission
  | accounted htx hbare => exact h.accounted htx hbare
  | rewritten htransactions hbudgets =>
    exact h.of_budgets htransactions fun t ht fund htouches => hbudgets.exists_budget (h.budgets t ht fund htouches)
  | @deleted b _ hb hscope htransactions hbudgets =>
    refine h.of_budgets htransactions fun t ht fund htouches => ?_
    obtain ⟨c, hc, rfl, hyear⟩ := h.budgets t ht fund htouches
    rw [hbudgets]
    refine ⟨c, Table.mem_erase.mpr ⟨hc, fun hid => ?_⟩, rfl, hyear⟩
    -- the deleted budget has no transaction in its scope
    obtain rfl := Table.eq_of_id_eq hc hb hid
    have hin : t ∈ c.scope s.transactions.records := by
      refine List.mem_filter.mpr ⟨ht, ?_⟩
      rw [htouches, hyear, beq_self_eq_true, Bool.and_self]
    rw [hscope] at hin
    cases hin

/-- After any run from a consistent store whose transactions are backed, they are. -/
theorem Run.backed (hrun : s.Run calls s') (h : s.Consistent) (hbacked : s.Backed)
    (small : s.volume + (calls.map Call.volume).sum < 2 ^ 94) : s'.Backed := by
  induction hrun with
  | nil => exact hbacked
  | snoc hrun hnew ih =>
    rw [List.map_append, List.sum_append] at small
    simp only [List.map_cons, List.map_nil, List.sum_singleton] at small
    obtain ⟨hconsistent, hvolume⟩ := hrun.consistent h (by omega)
    have hstep := hconsistent.perform_call hnew (by omega)
    exact hstep.change.backed (ih (by omega))

/-- After any run on a ledger without transactions whose budgets are empty. -/
theorem Run.of_no_transactions (hrun : s.Run calls s') (hnone : s.transactions.records = []) (hone : s.OneBudget)
    (hzero : ∀ b ∈ s.budgets, b.totals ≈ Totals.zero) (small : (calls.map Call.volume).sum < 2 ^ 94) :
    s'.Consistent ∧ s'.Backed ∧ s'.volume < 2 ^ 94 := by
  have hstart : s.Consistent := consistent_of_no_transactions hnone hone hzero
  have hvolume : s.volume = 0 := by
    unfold volume
    rw [hnone]
    rfl
  obtain ⟨hconsistent, hle⟩ := hrun.consistent hstart (by omega)
  exact ⟨hconsistent, hrun.backed hstart (backed_of_no_transactions hnone) (by omega), by omega⟩

end Store

end FundLedger
