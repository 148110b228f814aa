import FundLedger.Error.Finance
/-!
# Collections of records

Records of one kind are kept in a collection, which has a path on a storage server and a name for its list of
records in an answer of that server.
-/

namespace FundLedger

/-- The collections of a storage. -/
inductive Collection
  | transactions
  | budgets
  | funds
  | groupFundFiscalYears
  | expenseClasses
  | budgetExpenseClasses
deriving DecidableEq

namespace Collection

/-- Every collection. -/
def all : List Collection :=
  [transactions, budgets, funds, groupFundFiscalYears, expenseClasses, budgetExpenseClasses]

/-- The name of the list of records. -/
def key : Collection → String
  | transactions => "transactions"
  | budgets => "budgets"
  | funds => "funds"
  | groupFundFiscalYears => "groupFundFiscalYears"
  | expenseClasses => "expenseClasses"
  | budgetExpenseClasses => "budgetExpenseClasses"

/-- The path below the base address of a server. -/
def path : Collection → String
  | transactions => "finance-storage/transactions"
  | budgets => "finance-storage/budgets"
  | funds => "finance-storage/funds"
  | groupFundFiscalYears => "finance-storage/group-fund-fiscal-years"
  | expenseClasses => "finance-storage/expense-classes"
  | budgetExpenseClasses => "finance-storage/budget-expense-classes"

/-- What a record that is missing here is called. -/
def entity : Collection → Entity
  | transactions => .transaction
  | budgets => .budget
  | funds => .fund
  | groupFundFiscalYears => .record
  | expenseClasses => .expenseClass
  | budgetExpenseClasses => .budgetExpenseClass

end Collection

end FundLedger
