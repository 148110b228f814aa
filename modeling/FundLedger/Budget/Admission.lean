import FundLedger.Budget.Basic
import FundLedger.Error.Finance
import FundLedger.ExpenseClass.Basic
import FundLedger.Fund
/-!
# Admission of transactions and budgets

The rules that a transaction must keep before anything is written, and the limits that a budget must keep.

* `fundIssue?`, `amountIssue?`: rules of the transaction alone; when one is broken, no other is looked at.
* `linkageIssue?`, `inactiveIssue?`, `currencyIssue?`, `expenseClassIssue?`: rules about its funds and budgets.
* `admission`: all of them.
* `checkLimits`: the allowable encumbrance and expenditure of a budget.
-/

namespace FundLedger

/-- The records that a transaction is checked against. -/
structure AdmissionContext where
  /-- Budgets of the fiscal year. -/
  budgets : List Budget
  /-- The sending fund, when money moves between two funds. -/
  fromFund : Option Fund
  /-- The receiving fund, when money moves between two funds. -/
  toFund : Option Fund
  /-- The expense class links of the sending fund's budget. -/
  links : List BudgetExpenseClass

/-- The first budget of a fund. -/
def AdmissionContext.budgetOf? (context : AdmissionContext) (fund : FundId) : Option Budget :=
  context.budgets.find? fun b => b.fund == fund

namespace Transaction

variable (tx : Transaction)

/-- Each kind of transaction has to name certain funds. -/
def fundIssue? : Option ValidationIssue :=
  match tx.kind with
  | .allocation =>
    if tx.fromFund.isNone && tx.toFund.isNone then some (.missingFund tx.kind .both) else none
  | .transfer | .rolloverTransfer =>
    if tx.fromFund.isNone then some (.missingFund tx.kind .sender)
    else if tx.toFund.isNone then some (.missingFund tx.kind .receiver)
    else none
  | .encumbrance | .pendingPayment | .payment =>
    if tx.fromFund.isNone then some (.missingFund tx.kind .sender) else none
  | .credit => if tx.toFund.isNone then some (.missingFund tx.kind .receiver) else none

/-- Only a pending payment may be below zero. -/
def amountIssue? : Option ValidationIssue :=
  if tx.kind ≠ .pendingPayment ∧ tx.amount < .zero then some (.negativeAmount tx.kind) else none

/-- Money moves only between linked funds.  Nothing is checked when the funds are not given. -/
def linkageIssue? (fromFund toFund : Option Fund) : Option ValidationIssue :=
  if !tx.kind.isFundingMovement || !tx.isInternal then none
  else
    match fromFund, toFund with
    | some sender, some receiver =>
      if sender.linked receiver then none else some (.fundsNotLinked sender.id receiver.id)
    | _, _ => none

/-- Whether the transaction can only decrease a budget: the sending side of a transfer, and a pending payment below
zero. -/
def onlyDecreases (budget : Budget) : Bool :=
  match tx.kind with
  | .transfer | .rolloverTransfer => tx.hasRole budget.fund .sender && !tx.hasRole budget.fund .receiver
  | .pendingPayment => decide (tx.amount < .zero)
  | _ => false

/-- An inactive budget takes only what decreases it. -/
def inactiveIssue? (budget : Budget) : Option ValidationIssue :=
  if budget.status = .inactive ∧ tx.onlyDecreases budget = false then some (.inactiveBudget budget.id) else none

/-- A transaction has the currency of its budgets. -/
def currencyIssue? (budget : Budget) : Option ValidationIssue :=
  if tx.currency = budget.currency then none else some (.currencyMismatch budget.id budget.currency tx.currency)

/-- Money is reserved only for a class that the budget has an active link to.  A missing link is an error of its
own. -/
def expenseClassIssue? (links : List BudgetExpenseClass) : Except FinanceError (Option ValidationIssue) :=
  match tx.expenseClass with
  | none => .ok none
  | some expenseClass =>
    if tx.kind ≠ .encumbrance then .ok none
    else
      match links.find? fun link => link.expenseClass == expenseClass with
      | none => .error (.notFound .budgetExpenseClass expenseClass.text)
      | some link => .ok (if link.status = .inactive then some (.inactiveExpenseClass expenseClass) else none)

/-- The issues with the budgets of some funds.  A fund without a budget is an error of its own. -/
def budgetIssues (context : AdmissionContext) : List FundId → Except FinanceError (List ValidationIssue)
  | [] => .ok []
  | fund :: rest =>
    match context.budgetOf? fund with
    | none => .error (.notFound .budget fund.text)
    | some budget =>
      (budgetIssues context rest).map fun issues =>
        (tx.inactiveIssue? budget).toList ++ (tx.currencyIssue? budget).toList ++ issues

/-- Checks a transaction against every rule. -/
def admission (context : AdmissionContext) : Except FinanceError Unit := do
  FinanceError.ofIssues (tx.fundIssue?.toList ++ tx.amountIssue?.toList)
  let ofBudgets ← tx.budgetIssues context tx.funds
  let ofClass ← tx.expenseClassIssue? context.links
  FinanceError.ofIssues ((tx.linkageIssue? context.fromFund context.toFund).toList ++ ofBudgets ++ ofClass.toList)

/-- Only an encumbrance can be released or moved. -/
def requireEncumbrance : Except FinanceError Unit :=
  if tx.kind = .encumbrance then .ok () else .error (.kindMismatch .encumbrance tx.kind)

end Transaction

namespace Budget

variable (budget : Budget)

/-- So many percent of what is allocated. -/
def limit (percent : Decimal) : Except Overflow Decimal := do
  (← budget.totals.allocated.mul percent).div .hundred

/-- The issue that `projected` exceeds a limit, if there is one. -/
def limitIssue? (percent : Option Decimal) (projected : Except Overflow Decimal)
    (issue : Decimal → Decimal → ValidationIssue) : Except Overflow (Option ValidationIssue) :=
  match percent with
  | none => .ok none
  | some percent => do
    let limit ← budget.limit percent
    let projected ← projected
    return if limit < projected then some (issue limit projected) else none

/-- The limits that a budget exceeds. -/
def limitIssues : Except Overflow (List ValidationIssue) := do
  let t := budget.totals
  let reserved ← budget.limitIssue? budget.allowableEncumbrance
    (t.encumbered.add t.awaitingPayment >>= fun sum => sum.add t.expenditures) (.encumbranceLimitExceeded budget.id)
  let spent ← budget.limitIssue? budget.allowableExpenditure
    (t.awaitingPayment.add t.expenditures) (.expenditureLimitExceeded budget.id)
  return reserved.toList ++ spent.toList

end Budget

end FundLedger
