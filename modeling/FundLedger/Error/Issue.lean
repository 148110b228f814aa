import FundLedger.Transaction.Basic
/-!
# Rules that a record can break

Each rule that a transaction or a budget can break is an issue with a code that never changes and a text for
readers.
-/

namespace FundLedger

/-- Which funds a transaction fails to name. -/
inductive MissingFund
  | sender
  | receiver
  | both
deriving DecidableEq

/-- The name of the missing side. -/
def MissingFund.name : MissingFund → String
  | sender => "from"
  | receiver => "to"
  | both => "from or to"

/-- A rule that was broken. -/
inductive ValidationIssue
  /-- The funds are not linked in this direction. -/
  | fundsNotLinked (sender receiver : FundId)
  | missingFund (kind : TransactionKind) (missing : MissingFund)
  | negativeAmount (kind : TransactionKind)
  | inactiveBudget (budget : BudgetId)
  | currencyMismatch (budget : BudgetId) (expected got : Currency)
  | inactiveExpenseClass (expenseClass : ExpenseClassId)
  | encumbranceLimitExceeded (budget : BudgetId) (limit projected : Decimal)
  | expenditureLimitExceeded (budget : BudgetId) (limit projected : Decimal)
deriving DecidableEq

namespace ValidationIssue

/-- The code of the rule. -/
def code : ValidationIssue → String
  | fundsNotLinked .. => "ALLOCATION_TRANSFER_MISMATCH"
  | missingFund .. => "MISSING_FUND_ID"
  | negativeAmount _ => "NEGATIVE_AMOUNT"
  | inactiveBudget _ => "BUDGET_IS_INACTIVE"
  | currencyMismatch .. => "CURRENCY_MISMATCH"
  | inactiveExpenseClass _ => "INACTIVE_EXPENSE_CLASS"
  | encumbranceLimitExceeded .. => "ALLOWABLE_ENCUMBRANCE_LIMIT_EXCEEDED"
  | expenditureLimitExceeded .. => "ALLOWABLE_EXPENDITURE_LIMIT_EXCEEDED"

/-- The text for readers. -/
def message : ValidationIssue → String
  | fundsNotLinked sender receiver =>
    "Fund " ++ sender.text ++ " is not allowed to move money to fund " ++ receiver.text
  | missingFund kind missing => kind.name ++ " transaction is missing its " ++ missing.name ++ " fund id"
  | negativeAmount kind => kind.name ++ " amount cannot be negative"
  | inactiveBudget budget => "Budget " ++ budget.text ++ " is inactive"
  | currencyMismatch budget expected got =>
    "Currency mismatch for budget " ++ budget.text ++ ": expected " ++ expected.code ++ ", got " ++ got.code
  | inactiveExpenseClass expenseClass => "Expense class " ++ expenseClass.text ++ " is inactive for this budget"
  | encumbranceLimitExceeded budget limit projected =>
    "Allowable encumbrance limit exceeded for budget " ++ budget.text ++ ": " ++ projected.text ++ " > " ++ limit.text
  | expenditureLimitExceeded budget limit projected =>
    "Allowable expenditure limit exceeded for budget " ++ budget.text ++ ": " ++ projected.text ++ " > " ++ limit.text

end ValidationIssue

end FundLedger
