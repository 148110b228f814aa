import FundLedger.Operation.Basic
import FundLedger.Transaction.Encumbrance
/-!
# Operations on recorded encumbrances

* `Operation.releaseEncumbrance`, `Operation.moveToAwaitingPayment`.
-/

namespace FundLedger

namespace Operation

/-- Releases an encumbrance.  One that was released before is left alone, and nothing is written. -/
def releaseEncumbrance (id : TransactionId) : Operation Transaction := do
  let stored ← request (.getTransaction id)
  match ← ofRule stored.release with
  | (.released, tx) => do
    request (.updateTransaction tx)
    return tx
  | (.alreadyReleased, tx) => return tx

/-- Moves an amount of an encumbrance from what is spent to what awaits payment. -/
def moveToAwaitingPayment (id : TransactionId) (amount : Decimal) : Operation Transaction := do
  let stored ← request (.getTransaction id)
  let tx ← ofResult (stored.moveToAwaitingPayment amount)
  request (.updateTransaction tx)
  return tx

end Operation

end FundLedger
