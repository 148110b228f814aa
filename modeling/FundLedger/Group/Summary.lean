import FundLedger.Ascending
import FundLedger.Budget.Recompute
import FundLedger.Group.Basic
/-!
# Summaries of groups

The summary of a group adds up the budgets of its members.  Reserved and spent money and the initial allocations
come from the budgets; later allocations and transfers are summed over the funding transactions of the member
funds.  The derived amounts follow from these sums, and everything is rounded at the end.

* `memberBudgets`: the budgets that some links stand for, each once.
* `summarize`: one summary for each group and year of the links, in ascending order.
-/

namespace FundLedger

/-- The budget of a link: the one it names, or else the one of its fund and year. -/
def GroupFundFiscalYear.budgetIn? (link : GroupFundFiscalYear) (budgets : List Budget) : Option Budget :=
  match link.budget with
  | some id => budgets.find? fun b => b.id == id
  | none => budgets.find? fun b => b.fund == link.fund && b.fiscalYear == link.fiscalYear

/-- Keeps the first budget of each identifier; `seen` holds those that came before. -/
def distinctBudgets (seen : List BudgetId) : List Budget → List Budget
  | [] => []
  | b :: rest => if b.id ∈ seen then distinctBudgets seen rest else b :: distinctBudgets (b.id :: seen) rest

/-- The budgets that some links stand for, each once. -/
def memberBudgets (links : List GroupFundFiscalYear) (budgets : List Budget) : List Budget :=
  distinctBudgets [] (links.filterMap fun link => link.budgetIn? budgets)

/-- Adds what a budget contributes to the sums of its group. -/
def addMember (s : Sums Decimal) (budget : Budget) : Except Overflow (Sums Decimal) := do
  let t := budget.totals
  return { s with
    initialAllocation := ← s.initialAllocation.add t.initialAllocation
    encumbered := ← s.encumbered.add t.encumbered
    awaitingPayment := ← s.awaitingPayment.add t.awaitingPayment
    expenditures := ← s.expenditures.add t.expenditures
    credits := ← s.credits.add t.credits }

/-- Adds a funding transaction to the sums of the group of some funds; `initial` holds the initial allocations of
these funds. -/
def addFunding (funds : List FundId) (initial : List TransactionId) (s : Sums Decimal) (tx : Transaction) :
    Except Overflow (Sums Decimal) := do
  let received := tx.toFund.any fun fund => funds.contains fund
  let sent := tx.fromFund.any fun fund => funds.contains fund
  match tx.kind with
  | .allocation =>
    let allocationTo ←
      if received && !initial.contains tx.id then s.allocationTo.add tx.amount else pure s.allocationTo
    let allocationFrom ← if sent then s.allocationFrom.add tx.amount else pure s.allocationFrom
    return { s with allocationTo, allocationFrom }
  | .transfer | .rolloverTransfer =>
    let afterReceived ← if received then s.netTransfers.add tx.amount else pure s.netTransfers
    let netTransfers ← if sent then afterReceived.sub tx.amount else pure afterReceived
    return { s with netTransfers }
  | _ => return s

/-- The totals of the group with these links in a fiscal year. -/
def groupTotals (links : List GroupFundFiscalYear) (budgets : List Budget) (funding : List Transaction)
    (fiscalYear : FiscalYearId) : Except Overflow (Totals Decimal) :=
  match memberBudgets links budgets with
  | [] => .ok .zero
  | first :: rest => do
    let members := first :: rest
    let fromBudgets ← members.foldlM addMember (Sums.replicate .zero)
    let funds := ascending (members.map (·.fund))
    let inYear := funding.filter fun tx => tx.fiscalYear == fiscalYear
    let initial := funds.filterMap fun fund => initialAllocation? fund inYear
    let sums ← inYear.foldlM (addFunding funds initial) fromBudgets
    let totals ← sums.derive
    return totals.rounded first.currency

/-- One summary for each group and fiscal year among the links, in ascending order. -/
def summarize (links : List GroupFundFiscalYear) (budgets : List Budget) (funding : List Transaction) :
    Except Overflow (List GroupFiscalYearSummary) :=
  (ascending (links.map (·.groupYear))).mapM fun key => do
    let members := links.filter fun link => link.groupYear == key
    let totals ← groupTotals members budgets funding key.fiscalYear
    return ⟨key.group, key.fiscalYear, totals⟩

end FundLedger
