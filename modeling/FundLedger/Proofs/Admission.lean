import FundLedger.Budget.Admission
/-!
# What is admitted

A transaction is admitted exactly if none of the rules finds an issue with it.  Then each of its funds has a budget, and
that is in the currency of the transaction.
-/

namespace FundLedger

theorem FinanceError.ofIssues_eq_ok_iff {issues : List ValidationIssue} :
    FinanceError.ofIssues issues = .ok () ↔ issues = [] := by
  unfold FinanceError.ofIssues
  cases issues <;> simp

namespace Transaction

variable {tx : Transaction} {context : AdmissionContext}

theorem budgetIssues_eq_nil_iff {funds : List FundId} :
    tx.budgetIssues context funds = .ok [] ↔
      ∀ fund ∈ funds, ∃ b, context.budgetOf? fund = some b ∧ tx.inactiveIssue? b = none ∧ tx.currencyIssue? b = none := by
  induction funds with
  | nil => simp [budgetIssues]
  | cons fund rest ih =>
    rw [List.forall_mem_cons, ← ih]
    simp only [budgetIssues]
    cases context.budgetOf? fund with
    | none => simp
    | some b =>
      cases tx.budgetIssues context rest <;>
        cases hi : tx.inactiveIssue? b <;> cases hc : tx.currencyIssue? b <;> simp [Except.map, hi, hc]

/-- A transaction is admitted exactly if there is no issue with it. -/
theorem admission_eq_ok_iff :
    tx.admission context = .ok () ↔
      tx.fundIssue? = none ∧ tx.amountIssue? = none ∧ tx.budgetIssues context tx.funds = .ok [] ∧
        tx.expenseClassIssue? context.links = .ok none ∧ tx.linkageIssue? context.fromFund context.toFund = none := by
  unfold admission
  have hfirst : FinanceError.ofIssues (tx.fundIssue?.toList ++ tx.amountIssue?.toList) = .ok () ↔
      tx.fundIssue? = none ∧ tx.amountIssue? = none := by
    rw [FinanceError.ofIssues_eq_ok_iff]
    cases tx.fundIssue? <;> cases tx.amountIssue? <;> simp
  cases h : FinanceError.ofIssues (tx.fundIssue?.toList ++ tx.amountIssue?.toList) with
  | error e =>
    rw [h] at hfirst
    simp only [reduceCtorEq, false_iff] at hfirst
    simp only [bind, Except.bind, reduceCtorEq, false_iff]
    exact fun hall => hfirst ⟨hall.1, hall.2.1⟩
  | ok _ =>
    obtain ⟨h1, h2⟩ := hfirst.mp h
    cases tx.budgetIssues context tx.funds with
    | error e => simp [bind, Except.bind]
    | ok ofBudgets =>
      cases tx.expenseClassIssue? context.links with
      | error e => simp [bind, Except.bind]
      | ok ofClass =>
        simp only [bind, Except.bind, FinanceError.ofIssues_eq_ok_iff]
        cases ofClass <;> cases tx.linkageIssue? context.fromFund context.toFund <;> cases ofBudgets <;> simp [h1, h2]

/-- An admitted transaction has a budget of its currency for each of its funds. -/
theorem admission_currency (h : tx.admission context = .ok ()) :
    ∀ fund ∈ tx.funds, ∃ b, context.budgetOf? fund = some b ∧ tx.currency = b.currency := by
  intro fund hfund
  obtain ⟨b, hb, -, hissue⟩ := budgetIssues_eq_nil_iff.mp (admission_eq_ok_iff.mp h).2.2.1 fund hfund
  refine ⟨b, hb, Decidable.of_not_not fun hne => ?_⟩
  unfold currencyIssue? at hissue
  rw [if_neg hne] at hissue
  cases hissue

end Transaction

end FundLedger
