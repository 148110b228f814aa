import FundLedger.Budget.Admission
import FundLedger.Budget.Recompute
import FundLedger.Operation.Basic
/-!
# Operations on budgets

* `Operation.updateBudget`: writes a budget within its limits.
* `Operation.recalculateBudget`, `Operation.recalculateFiscalYear`: totals from the whole history.
* `Operation.deleteBudget`, `Operation.removeExpenseClass`: refused while transactions are left.
-/

namespace FundLedger

namespace Operation

/-- Writes a budget with its derived amounts computed anew, if it keeps its limits. -/
def updateBudget (budget : Budget) : Operation Budget := do
  let totals ← ofArithmetic budget.totals.refresh
  let budget := { budget with totals := totals.rounded budget.currency }
  let issues ← ofArithmetic budget.limitIssues
  ofRule (FinanceError.ofIssues issues)
  request (.updateBudget budget)

/-- All transactions of a budget. -/
def historyOf (budget : Budget) : Operation (List Transaction) :=
  request (.transactionsByFunds [budget.fund] budget.fiscalYear [])

/-- Recomputes the totals of a budget that was read, and writes it. -/
def recalculate (budget : Budget) : Operation Reconciliation := do
  let history ← historyOf budget
  let reconciliation ← ofArithmetic (budget.reconcile history)
  let written ← request (.updateBudget reconciliation.budget)
  return { reconciliation with budget := written }

/-- Recomputes the totals of a budget. -/
def recalculateBudget (id : BudgetId) : Operation Reconciliation := do
  let budget ← request (.getBudget id)
  recalculate budget

/-- Recomputes the totals of every budget of a fiscal year, one after the other. -/
def recalculateFiscalYear (fiscalYear : FiscalYearId) : Operation (List Reconciliation) := do
  let budgets ← request (.queryBudgets (byFiscalYear fiscalYear))
  budgets.mapM recalculate

/-- Deletes some links between budgets and expense classes. -/
def deleteLinks : List BudgetExpenseClass → Operation Unit
  | [] => return ()
  | link :: rest => do
    request (.deleteBudgetExpenseClass link.id)
    deleteLinks rest

/-- The conflict that a budget still has transactions. -/
def budgetHasTransactions (id : BudgetId) (count : Nat) : FinanceError :=
  .conflict .budgetHasTransactions ("Budget " ++ id.text ++ " has " ++ toString count ++ " related transactions")

/-- Deletes a budget without transactions, and its links to expense classes. -/
def deleteBudget (id : BudgetId) : Operation Unit := do
  let budget ← request (.getBudget id)
  let transactions ← historyOf budget
  let links ← request (.queryBudgetExpenseClasses (byBudget id))
  ofRule (if transactions.isEmpty then .ok () else .error (budgetHasTransactions id transactions.length))
  deleteLinks links
  request (.deleteBudget id)

/-- The conflict that a transaction of the budget has the class. -/
def expenseClassInUse (budget : BudgetId) (expenseClass : ExpenseClassId) : FinanceError :=
  .conflict .expenseClassInUse ("Expense class " ++ expenseClass.text ++ " is used by budget " ++ budget.text)

/-- Removes the link between a budget and an expense class that no transaction of the budget has. -/
def removeExpenseClass (id : BudgetId) (expenseClass : ExpenseClassId) : Operation Unit := do
  let budget ← request (.getBudget id)
  let links ← request (.queryBudgetExpenseClasses (linksOfClass id expenseClass))
  let transactions ← historyOf budget
  let link ← ofRule (match links with
    | [] => .error (.notFound .budgetExpenseClass expenseClass.text)
    | link :: _ => .ok link)
  ofRule (if transactions.any fun tx => tx.expenseClass == some expenseClass then
    .error (expenseClassInUse id expenseClass) else .ok ())
  request (.deleteBudgetExpenseClass link.id)

end Operation

end FundLedger
