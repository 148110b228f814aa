import FundLedger.Budget.Admission
import FundLedger.Budget.Effect
import FundLedger.Operation.Basic
/-!
# Recording a transaction

A transaction is rounded, checked against the budgets, funds and links that it concerns, recorded, and then applied
to each budget in turn.

* `Operation.createTransaction`.
-/

namespace FundLedger

/-- The transaction as it is recorded: the amount is rounded, and the account of an encumbrance starts with it. -/
def Transaction.normalized (tx : Transaction) : Transaction :=
  { tx with
    amount := tx.roundedAmount
    encumbrance := tx.encumbrance.map fun e => { e with initialAmount := tx.roundedAmount } }

namespace Operation

/-- The budget of every fund that a transaction names; the first one of a fund. -/
def budgetsFor (tx : Transaction) : Operation (List Budget) := do
  let found ← tx.funds.mapM fun fund => request (.queryBudgets (budgetOfFund fund tx.fiscalYear))
  return found.filterMap List.head?

/-- The two funds that money moves between, if it does. -/
def linkedFunds (tx : Transaction) : Operation (Option Fund × Option Fund) :=
  match tx.kind.isFundingMovement, tx.fromFund, tx.toFund with
  | true, some sender, some receiver => do
    let sender ← request (.getFund sender)
    let receiver ← request (.getFund receiver)
    return (some sender, some receiver)
  | _, _, _ => return (none, none)

/-- The expense class links of the budget that an encumbrance with a class reserves money of. -/
def classLinksFor (tx : Transaction) (budgets : List Budget) : Operation (List BudgetExpenseClass) :=
  let sending := tx.fromFund.bind fun fund => budgets.find? fun b => b.fund == fund
  match tx.kind, tx.expenseClass, sending with
  | .encumbrance, some _, some budget => request (.queryBudgetExpenseClasses (byBudget budget.id))
  | _, _, _ => return []

/-- The allocations that the receiver of an allocation has a part in. -/
def recordedAllocations (tx : Transaction) : Operation (List Transaction) :=
  match tx.kind, tx.toFund with
  | .allocation, some receiver => request (.transactionsByFunds [receiver] tx.fiscalYear [.allocation])
  | _, _ => return []

/-- Applies a recorded transaction to a budget. -/
def applyTo (tx : Transaction) (recorded : List Transaction) (budget : Budget) : Operation Unit := do
  let updated ← ofArithmetic (budget.applyWithHistory tx recorded)
  discard (request (.updateBudget updated))

/-- Applies a recorded transaction to some budgets, one after the other. -/
def applyToAll (tx : Transaction) (recorded : List Transaction) : List Budget → Operation Unit
  | [] => return ()
  | budget :: rest => do
    applyTo tx recorded budget
    applyToAll tx recorded rest

/-- Records a transaction and applies it to the budgets of its funds. -/
def createTransaction (tx : Transaction) : Operation Transaction := do
  let tx := tx.normalized
  let budgets ← budgetsFor tx
  let (fromFund, toFund) ← linkedFunds tx
  let links ← classLinksFor tx budgets
  ofRule (tx.admission { budgets, fromFund, toFund, links })
  let recorded ← recordedAllocations tx
  let created ← request (.createTransaction tx)
  applyToAll created recorded budgets
  return created

end Operation

end FundLedger
