import FundLedger.Decimal.Arithmetic
import FundLedger.Error.Issue
/-!
# Errors of finance operations

* `FinanceError`: why an operation was refused, with its code, text and status.
* `AppError`: how a program reports an error to its user.
* `Failure`: an operation that ended with an error, or with a number that has no room.
-/

namespace FundLedger

/-- The kind of a record that is missing. -/
inductive Entity
  | budget
  | fund
  | transaction
  | expenseClass
  | budgetExpenseClass
  | record
deriving DecidableEq

namespace Entity

/-- The code for a missing record. -/
def notFoundCode : Entity → String
  | budget => "BUDGET_NOT_FOUND"
  | fund => "FUND_NOT_FOUND"
  | transaction => "TRANSACTION_NOT_FOUND"
  | expenseClass => "EXPENSE_CLASS_NOT_FOUND"
  | budgetExpenseClass => "BUDGET_EXPENSE_CLASS_NOT_FOUND"
  | record => "NOT_FOUND"

/-- The name for readers. -/
def name : Entity → String
  | budget => "Budget"
  | fund => "Fund"
  | transaction => "Transaction"
  | expenseClass => "Expense class"
  | budgetExpenseClass => "Budget expense class"
  | record => "Record"

end Entity

/-- What an operation is in conflict with. -/
inductive Conflict
  /-- Another write came first. -/
  | version
  | budgetHasTransactions
  | expenseClassInUse
deriving DecidableEq

/-- The code of a conflict. -/
def Conflict.code : Conflict → String
  | version => "VERSION_CONFLICT"
  | budgetHasTransactions => "BUDGET_HAS_TRANSACTIONS"
  | expenseClassInUse => "EXPENSE_CLASS_IN_USE"

/-- Why an operation was refused. -/
inductive FinanceError
  | validation (issues : List ValidationIssue)
  | notFound (entity : Entity) (id : String)
  | conflict (conflict : Conflict) (text : String)
  | kindMismatch (expected actual : TransactionKind)
  | storageFailed (text : String)
deriving DecidableEq

namespace FinanceError

/-- The error that lists some issues, unless there are none. -/
def ofIssues (issues : List ValidationIssue) : Except FinanceError Unit :=
  if issues.isEmpty then .ok () else .error (.validation issues)

/-- The code: of a validation, that of its first issue. -/
def code : FinanceError → String
  | validation [] => "VALIDATION_ERROR"
  | validation (issue :: _) => issue.code
  | notFound entity _ => entity.notFoundCode
  | conflict c _ => c.code
  | kindMismatch .. => "TRANSACTION_TYPE_MISMATCH"
  | storageFailed _ => "UPSTREAM_FAILURE"

/-- The codes of all issues of a validation. -/
def issueCodes : FinanceError → List String
  | validation issues => issues.map (·.code)
  | _ => []

/-- The text for readers. -/
def message : FinanceError → String
  | validation issues => "; ".intercalate (issues.map (·.message))
  | notFound entity id => entity.name ++ " not found: " ++ id
  | conflict _ text => text
  | kindMismatch expected _ => expected.label ++ " expected"
  | storageFailed text => "Upstream failure: " ++ text

/-- The status of an answer that reports the error. -/
def status : FinanceError → Nat
  | validation _ | kindMismatch .. => 422
  | notFound .. => 404
  | conflict .. => 409
  | storageFailed _ => 500

/-- Whether the same request may succeed later. -/
def isRetryable : FinanceError → Bool
  | storageFailed _ => true
  | conflict c _ => c == .version
  | _ => false

end FinanceError

/-- An error as a program reports it. -/
inductive AppError
  | notFound (code text : String)
  | validation (code text : String)
  | conflict (code text : String)
  | serviceFailed (text : String)
  | configuration (text : String)
  | internal (text : String)
deriving DecidableEq

namespace AppError

/-- The code. -/
def code : AppError → String
  | notFound c _ | validation c _ | conflict c _ => c
  | serviceFailed _ => "UPSTREAM_FAILURE"
  | configuration _ => "CONFIGURATION_ERROR"
  | internal _ => "INTERNAL_ERROR"

/-- The status of an answer that reports the error. -/
def status : AppError → Nat
  | notFound .. => 404
  | validation .. => 422
  | conflict .. => 409
  | serviceFailed _ | configuration _ | internal _ => 500

/-- The text for readers. -/
def message : AppError → String
  | notFound _ text => "Not found: " ++ text
  | validation _ text => "Validation error: " ++ text
  | conflict _ text => "Conflict: " ++ text
  | serviceFailed text => "Upstream failure: " ++ text
  | configuration text => "Configuration error: " ++ text
  | internal text => "Internal error: " ++ text

end AppError

/-- How a program reports a refused operation. -/
def FinanceError.toAppError (e : FinanceError) : AppError :=
  match e with
  | .validation _ | .kindMismatch .. => .validation e.code e.message
  | .notFound .. => .notFound e.code e.message
  | .conflict .. => .conflict e.code e.message
  | .storageFailed text => .serviceFailed text

/-- Why an operation did not finish. -/
inductive Failure
  | finance (error : FinanceError)
  | overflow (operation : Overflow)
deriving DecidableEq

end FundLedger
