import FundLedger.Budget.Totals
import FundLedger.Ident
/-!
# Budgets

A fund has one budget for each fiscal year.  The budget keeps the totals of its transactions, and a version that
every write advances by one.

* `Budget`, `Budget.create`.
* `Reconciliation`: a budget with recomputed totals, and what had drifted.
-/

namespace FundLedger

/-- Whether a budget takes transactions that increase it. -/
inductive BudgetStatus
  | active
  | inactive
deriving DecidableEq

namespace BudgetStatus

/-- Every status. -/
def all : List BudgetStatus := [active, inactive]

/-- The name in records. -/
def name : BudgetStatus → String
  | active => "Active"
  | inactive => "Inactive"

end BudgetStatus

/-- The budget of a fund in a fiscal year. -/
structure Budget where
  id : BudgetId
  name : String
  fund : FundId
  fiscalYear : FiscalYearId
  currency : Currency
  status : BudgetStatus
  /-- How many percent of what is allocated may be reserved and spent. -/
  allowableEncumbrance : Option Decimal
  /-- How many percent of what is allocated may be spent. -/
  allowableExpenditure : Option Decimal
  totals : Totals Decimal
  /-- A word of 64 bits with a sign: the smallest one follows the largest. -/
  version : Int64
deriving DecidableEq

/-- An active budget without money or limits. -/
def Budget.create (id : BudgetId) (name : String) (fund : FundId) (fiscalYear : FiscalYearId)
    (currency : Currency) : Budget :=
  { id, name, fund, fiscalYear, currency
    status := .active
    allowableEncumbrance := none
    allowableExpenditure := none
    totals := .zero
    version := 0 }

/-- A budget with totals recomputed from its transactions, and the amounts that differed. -/
structure Reconciliation where
  budget : Budget
  drift : List Totals.Drift
deriving DecidableEq

/-- Whether the stored totals were right. -/
def Reconciliation.isConsistent (r : Reconciliation) : Bool := r.drift.isEmpty

end FundLedger
