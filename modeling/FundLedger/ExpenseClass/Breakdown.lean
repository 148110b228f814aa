import FundLedger.ExpenseClass.Basic
import FundLedger.Transaction.Basic
/-!
# Spending by expense class

* `netExpended`: payments less credits.
* `expenseClassTotals`: the totals of every class, in the order of the classes.
-/

namespace FundLedger

/-- What a transaction adds to what is expended. -/
def expendedAmount (tx : Transaction) : Decimal :=
  match tx.kind with
  | .payment => tx.amount
  | .credit => -tx.amount
  | _ => .zero

/-- Payments less credits, not rounded. -/
def netExpended (txs : List Transaction) : Except Overflow Decimal := Decimal.sum (txs.map expendedAmount)

/-- The sum over the transactions of one kind, rounded. -/
def sumOfKind (kind : TransactionKind) (txs : List Transaction) (currency : Currency) : Except Overflow Decimal :=
  (Money.sum ((txs.filter fun tx => tx.kind == kind).map (·.amount)) currency).map fun m => m.rounded.amount

/-- The totals of one class; `grandTotal` is what was expended in all.  A class without transactions has a share of
zero, also when nothing was expended. -/
def expenseClassTotal (expenseClass : ExpenseClass) (txs : List Transaction) (grandTotal : Decimal)
    (currency : Currency) : Except Overflow ExpenseClassTotal :=
  match txs.filter fun tx => tx.expenseClass == some expenseClass.id with
  | [] => .ok ⟨expenseClass.id, expenseClass.name, .zero, .zero, .zero, some .zero⟩
  | bucket => do
    let expended := currency.round (← netExpended bucket)
    let encumbered ← sumOfKind .encumbrance bucket currency
    let awaitingPayment ← sumOfKind .pendingPayment bucket currency
    let share ← percentage expended grandTotal
    return ⟨expenseClass.id, expenseClass.name, encumbered, awaitingPayment, expended, share⟩

/-- The totals of every class.  Transactions without a class count in what was expended in all. -/
def expenseClassTotals (classes : List ExpenseClass) (txs : List Transaction) (currency : Currency) :
    Except Overflow (List ExpenseClassTotal) := do
  let grandTotal := currency.round (← netExpended txs)
  classes.mapM fun expenseClass => expenseClassTotal expenseClass txs grandTotal currency

end FundLedger
