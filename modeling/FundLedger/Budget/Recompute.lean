import FundLedger.Budget.Basic
import FundLedger.Transaction.Basic
/-!
# Totals from the whole history

The totals of a budget as sums over the transactions of its fund in its fiscal year.  Every amount is rounded to
its currency before it is added.

* `initialAllocation?`: the earliest allocation that a fund received.
* `Budget.recompute`: the totals.
* `Budget.reconcile`: the budget with these totals, and what had drifted.
-/

namespace FundLedger

/-- The allocations among some transactions that a fund received. -/
def receivedAllocations (fund : FundId) (txs : List Transaction) : List Transaction :=
  txs.filter fun tx => tx.kind == .allocation && tx.hasRole fund .receiver

/-- The earliest allocation that a fund received, by its identifier. -/
def initialAllocation? (fund : FundId) (txs : List Transaction) : Option TransactionId :=
  (Transaction.earliest? (receivedAllocations fund txs)).map (·.id)

/-- The sum of the rounded amounts of some transactions. -/
def sumRounded (txs : List Transaction) : Except Overflow Decimal := Decimal.sum (txs.map (·.roundedAmount))

/-- What a transfer adds to the net transfers of a fund: the amount received, and less the amount sent. -/
def transferEntries (fund : FundId) (tx : Transaction) : List Decimal :=
  (if tx.hasRole fund .receiver then [tx.roundedAmount] else []) ++
    (if tx.hasRole fund .sender then [-tx.roundedAmount] else [])

namespace Budget

/-- The transactions of the budget's fund in its fiscal year. -/
def scope (budget : Budget) (txs : List Transaction) : List Transaction :=
  txs.filter fun tx => tx.fiscalYear == budget.fiscalYear && tx.touches budget.fund

/-- The sums over the transactions in the scope of a fund. -/
def sumScope (fund : FundId) (txs : List Transaction) : Except Overflow (Sums Decimal) := do
  let ofKind (kind : TransactionKind) := txs.filter fun tx => tx.kind == kind
  let initial := initialAllocation? fund txs
  let received := receivedAllocations fund txs
  return {
    initialAllocation := ← sumRounded (received.filter fun tx => some tx.id == initial)
    allocationTo := ← sumRounded (received.filter fun tx => some tx.id != initial)
    allocationFrom := ← sumRounded ((ofKind .allocation).filter fun tx => tx.hasRole fund .sender)
    netTransfers := ← Decimal.sum ((ofKind .transfer ++ ofKind .rolloverTransfer).flatMap (transferEntries fund))
    encumbered := ← sumRounded ((ofKind .encumbrance).filter fun tx => tx.hasRole fund .sender)
    awaitingPayment := ← sumRounded (ofKind .pendingPayment)
    expenditures := ← sumRounded (ofKind .payment)
    credits := ← sumRounded (ofKind .credit) }

/-- The totals of a budget after these transactions. -/
def recompute (budget : Budget) (txs : List Transaction) : Except Overflow (Totals Decimal) := do
  let sums ← sumScope budget.fund (budget.scope txs)
  let totals ← sums.derive
  return totals.rounded budget.currency

/-- The budget with recomputed totals, and the amounts that differed. -/
def reconcile (budget : Budget) (txs : List Transaction) : Except Overflow Reconciliation := do
  let totals ← budget.recompute txs
  return ⟨{ budget with totals }, budget.totals.drift totals⟩

end Budget

end FundLedger
