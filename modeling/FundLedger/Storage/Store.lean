import FundLedger.Record.Forms
import FundLedger.Storage.Request
import FundLedger.Storage.Table
/-!
# The store

A store holds a table for each collection.  It answers every request at once.

* `Store`: the tables.
* `Store.answer`: the answer to a request, with the store after it.
-/

namespace FundLedger

instance : Keyed Transaction .transaction := ⟨Transaction.id⟩

instance : Keyed Budget .budget := ⟨Budget.id⟩

instance : Keyed Fund .fund := ⟨Fund.id⟩

instance : Keyed GroupFundFiscalYear .groupFundFiscalYear := ⟨GroupFundFiscalYear.id⟩

instance : Keyed ExpenseClass .expenseClass := ⟨ExpenseClass.id⟩

instance : Keyed BudgetExpenseClass .budgetExpenseClass := ⟨BudgetExpenseClass.id⟩

/-- The records of a ledger. -/
structure Store where
  transactions : Table Transaction := .empty
  budgets : Table Budget := .empty
  funds : Table Fund := .empty
  groupFundFiscalYears : Table GroupFundFiscalYear := .empty
  expenseClasses : Table ExpenseClass := .empty
  budgetExpenseClasses : Table BudgetExpenseClass := .empty

/-- Whether a transaction belongs to a fiscal year, has one of some kinds and touches one of some funds.  No kind at
all stands for every kind. -/
def Transaction.isAmong (tx : Transaction) (funds : List FundId) (fiscalYear : FiscalYearId)
    (kinds : List TransactionKind) : Bool :=
  tx.fiscalYear == fiscalYear && (kinds.isEmpty || kinds.contains tx.kind) && funds.any tx.touches

namespace Store

/-- The record that was looked for. -/
def found {α : Type} {kind : IdKind} (collection : Collection) (id : RecordId kind) (record : Option α) :
    Except StoreError α :=
  match record with
  | some a => .ok a
  | none => .error (.notFound collection id.text)

variable (s : Store)

/-- Writes a transaction in place of the stored one. -/
def updateTransaction (tx : Transaction) : Except StoreError Unit × Store :=
  match s.transactions.find? tx.id with
  | none => (.error (.notFound .transactions tx.id.text), s)
  | some _ => (.ok (), { s with transactions := s.transactions.put tx })

/-- Writes a budget in place of the stored one, if that has the same version.  The next version follows, or the smallest
one after the largest. -/
def updateBudget (budget : Budget) : Except StoreError Budget × Store :=
  match s.budgets.find? budget.id with
  | none => (.error (.notFound .budgets budget.id.text), s)
  | some stored =>
    if stored.version = budget.version then
      let written := { budget with version := budget.version + 1 }
      (.ok written, { s with budgets := s.budgets.put written })
    else (.error (.versionConflict .budgets budget.id.text), s)

/-- Deletes a budget. -/
def deleteBudget (id : BudgetId) : Except StoreError Unit × Store :=
  match s.budgets.find? id with
  | none => (.error (.notFound .budgets id.text), s)
  | some _ => (.ok (), { s with budgets := s.budgets.erase id })

/-- Deletes the link between a budget and an expense class. -/
def deleteBudgetExpenseClass (id : BudgetExpenseClassId) : Except StoreError Unit × Store :=
  match s.budgetExpenseClasses.find? id with
  | none => (.error (.notFound .budgetExpenseClasses id.text), s)
  | some _ => (.ok (), { s with budgetExpenseClasses := s.budgetExpenseClasses.erase id })

/-- The answer to a request, and the store after it. -/
def answer : (r : StorageRequest) → r.Outcome × Store
  | .getTransaction id => (found .transactions id (s.transactions.find? id), s)
  | .transactionsByFunds funds fiscalYear kinds =>
    (.ok (s.transactions.records.filter fun tx => tx.isAmong funds fiscalYear kinds), s)
  | .queryTransactions query => (.ok (query.filter s.transactions.records), s)
  | .createTransaction tx => (.ok tx, { s with transactions := s.transactions.put tx })
  | .updateTransaction tx => s.updateTransaction tx
  | .getBudget id => (found .budgets id (s.budgets.find? id), s)
  | .queryBudgets query => (.ok (query.filter s.budgets.records), s)
  | .updateBudget budget => s.updateBudget budget
  | .deleteBudget id => s.deleteBudget id
  | .getFund id => (found .funds id (s.funds.find? id), s)
  | .queryGroupFundFiscalYears query => (.ok (query.filter s.groupFundFiscalYears.records), s)
  | .getExpenseClasses ids => (.ok (ids.filterMap s.expenseClasses.find?), s)
  | .queryBudgetExpenseClasses query => (.ok (query.filter s.budgetExpenseClasses.records), s)
  | .deleteBudgetExpenseClass id => s.deleteBudgetExpenseClass id

end Store

end FundLedger
