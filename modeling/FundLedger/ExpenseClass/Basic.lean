import FundLedger.Ident
import FundLedger.Money
/-!
# Expense classes

An expense class says what money is spent on.  A budget is linked to the classes that it may be spent on.

* `ExpenseClass`, `BudgetExpenseClass`.
* `ExpenseClassTotal`: what was reserved and spent on a class.
* `ExpenseClassScope`: a budget, or the budgets of a group.
-/

namespace FundLedger

/-- What money is spent on. -/
structure ExpenseClass where
  id : ExpenseClassId
  name : String
  code : Option String
  externalAccountExtension : Option String
deriving DecidableEq

/-- A class with a name only. -/
def ExpenseClass.create (id : ExpenseClassId) (name : String) : ExpenseClass := ⟨id, name, none, none⟩

/-- Whether money may be reserved for a class. -/
inductive ExpenseClassStatus
  | active
  | inactive
deriving DecidableEq

namespace ExpenseClassStatus

/-- Every status. -/
def all : List ExpenseClassStatus := [active, inactive]

/-- The name in records. -/
def name : ExpenseClassStatus → String
  | active => "Active"
  | inactive => "Inactive"

end ExpenseClassStatus

/-- The link between a budget and an expense class. -/
structure BudgetExpenseClass where
  id : BudgetExpenseClassId
  budget : BudgetId
  expenseClass : ExpenseClassId
  status : ExpenseClassStatus
deriving DecidableEq

/-- An active link. -/
def BudgetExpenseClass.create (id : BudgetExpenseClassId) (budget : BudgetId) (expenseClass : ExpenseClassId) :
    BudgetExpenseClass := ⟨id, budget, expenseClass, .active⟩

/-- What was reserved and spent on a class. -/
structure ExpenseClassTotal where
  id : ExpenseClassId
  name : String
  encumbered : Decimal
  awaitingPayment : Decimal
  /-- Payments less credits. -/
  expended : Decimal
  /-- The share of all that was expended; nothing when that is zero. -/
  percentageExpended : Option Decimal
deriving DecidableEq

/-- Whose transactions are broken down by class. -/
inductive ExpenseClassScope
  | budget (id : BudgetId)
  | group (id : GroupId)
deriving DecidableEq

end FundLedger
