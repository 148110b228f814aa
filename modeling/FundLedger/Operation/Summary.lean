import FundLedger.ExpenseClass.Breakdown
import FundLedger.Group.Summary
import FundLedger.Operation.Basic
/-!
# Summaries of a ledger

* `Operation.groupSummaries`: totals of the groups and years among some links.
* `Operation.expenseClassTotals`: what a budget, or the budgets of a group, spent on each class.
-/

namespace FundLedger

namespace Operation

/-- The budgets of some funds in a fiscal year, and the transactions that fund them: the allocations in front of the
transfers. -/
def groupInputs (funds : List FundId) (fiscalYear : FiscalYearId) : Operation (List Budget × List Transaction) := do
  let budgets ← request (.queryBudgets (byFiscalYear fiscalYear))
  let allocations ← request (.transactionsByFunds funds fiscalYear [.allocation])
  let transfers ← request (.transactionsByFunds funds fiscalYear [.transfer, .rolloverTransfer])
  return (budgets.filter fun b => funds.contains b.fund, allocations ++ transfers)

/-- One summary for each group and fiscal year among the links that a query asks for. -/
def groupSummaries (query : Query) : Operation (List GroupFiscalYearSummary) := do
  let links ← request (.queryGroupFundFiscalYears query)
  let inputs ← (ascending (links.map (·.fiscalYear))).mapM fun fiscalYear =>
    groupInputs ((links.filter fun l => l.fiscalYear == fiscalYear).map (·.fund)) fiscalYear
  ofArithmetic (summarize links (inputs.flatMap (·.1)) (inputs.flatMap (·.2)))

/-- The budgets of a scope in a fiscal year. -/
def budgetsIn (fiscalYear : FiscalYearId) : ExpenseClassScope → Operation (List Budget)
  | .budget id => do
    let budget ← request (.getBudget id)
    return [budget]
  | .group id => do
    let links ← request (.queryGroupFundFiscalYears (linksOfGroup id fiscalYear))
    let budgets ← request (.queryBudgets (byFiscalYear fiscalYear))
    return budgets.filter fun b => links.any fun l => l.fund == b.fund

/-- What the budgets of a scope spent on each expense class that one of them is linked to, in the order of the
classes' identifiers.  Amounts are in the currency of the first budget. -/
def expenseClassTotals (scope : ExpenseClassScope) (fiscalYear : FiscalYearId) :
    Operation (List ExpenseClassTotal) := do
  let budgets ← budgetsIn fiscalYear scope
  let transactions ← request (.transactionsByFunds (budgets.map (·.fund)) fiscalYear [])
  let links ← budgets.mapM fun b => request (.queryBudgetExpenseClasses (byBudget b.id))
  let classes ← request (.getExpenseClasses (ascending (links.flatten.map (·.expenseClass))))
  let currency := (budgets.head?.map (·.currency)).getD default
  ofArithmetic (FundLedger.expenseClassTotals classes transactions currency)

end Operation

end FundLedger
