import FundLedger.Budget.Basic
import FundLedger.ExpenseClass.Basic
import FundLedger.Fund
import FundLedger.Group.Basic
import FundLedger.Storage.Query
import FundLedger.Transaction.Basic
/-!
# What a storage is asked

* `StorageRequest`: the requests to a storage, each of which reads or writes at once.
* `StorageRequest.Answer`, `StorageRequest.Outcome`: what it answers, or that with an error.
-/

namespace FundLedger

/-- Requests to a storage. -/
inductive StorageRequest
  | getTransaction (id : TransactionId)
  /-- The transactions of a fiscal year that touch one of some funds; of all kinds if none is named. -/
  | transactionsByFunds (funds : List FundId) (fiscalYear : FiscalYearId) (kinds : List TransactionKind)
  | queryTransactions (query : Query)
  | createTransaction (transaction : Transaction)
  | updateTransaction (transaction : Transaction)
  | getBudget (id : BudgetId)
  | queryBudgets (query : Query)
  /-- Writes a budget that has the version which is stored; the next version then follows. -/
  | updateBudget (budget : Budget)
  | deleteBudget (id : BudgetId)
  | getFund (id : FundId)
  | queryGroupFundFiscalYears (query : Query)
  /-- The classes with some identifiers; those that are unknown are passed over. -/
  | getExpenseClasses (ids : List ExpenseClassId)
  | queryBudgetExpenseClasses (query : Query)
  | deleteBudgetExpenseClass (id : BudgetExpenseClassId)
deriving DecidableEq

namespace StorageRequest

/-- What a request is answered with. -/
@[reducible]
def Answer : StorageRequest → Type
  | getTransaction _ | createTransaction _ => Transaction
  | transactionsByFunds .. | queryTransactions _ => List Transaction
  | updateTransaction _ | deleteBudget _ | deleteBudgetExpenseClass _ => Unit
  | getBudget _ | updateBudget _ => Budget
  | queryBudgets _ => List Budget
  | getFund _ => Fund
  | queryGroupFundFiscalYears _ => List GroupFundFiscalYear
  | getExpenseClasses _ => List ExpenseClass
  | queryBudgetExpenseClasses _ => List BudgetExpenseClass

/-- An answer, or why there is none. -/
abbrev Outcome (r : StorageRequest) : Type := Except StoreError r.Answer

end StorageRequest

end FundLedger
