import FundLedger.Budget.Admission
/-!
# What becomes of reserved money

An encumbrance keeps what of its amount is spent and what awaits payment.  It can be released, once, and spent
money can go back to awaiting payment.  An encumbrance without such an account gets one that starts with its amount.

* `Encumbrance.release`, `Encumbrance.moveToAwaitingPayment`.
* `Transaction.release`, `Transaction.moveToAwaitingPayment`: the same for the transaction; other kinds are refused.
-/

namespace FundLedger

/-- Whether a release changed anything. -/
inductive ReleaseOutcome
  | released
  | alreadyReleased
deriving DecidableEq

namespace Encumbrance

variable (e : Encumbrance)

/-- The encumbrance released, and whether it was not before. -/
def release : ReleaseOutcome × Encumbrance :=
  match e.status with
  | .released => (.alreadyReleased, e)
  | .unreleased => (.released, { e with status := .released })

/-- Moves an amount, rounded once, from what is spent to what awaits payment. -/
def moveToAwaitingPayment (amount : Decimal) (currency : Currency) : Except Overflow Encumbrance := do
  let amount := currency.round amount
  let awaitingPayment ← e.awaitingPayment.add amount
  let expended ← e.expended.sub amount
  return { e with awaitingPayment := currency.round awaitingPayment, expended := currency.round expended }

end Encumbrance

namespace Transaction

variable (tx : Transaction)

/-- The account of reserved money, started with the amount when there is none. -/
def account : Encumbrance := tx.encumbrance.getD (.reserve tx.amount)

/-- Releases an encumbrance. -/
def release : Except FinanceError (ReleaseOutcome × Transaction) := do
  tx.requireEncumbrance
  let (outcome, account) := tx.account.release
  return (outcome, { tx with encumbrance := some account })

/-- Moves an amount of an encumbrance from what is spent to what awaits payment. -/
def moveToAwaitingPayment (amount : Decimal) : Except Failure Transaction :=
  match tx.requireEncumbrance with
  | .error e => .error (.finance e)
  | .ok () =>
    match tx.account.moveToAwaitingPayment amount tx.currency with
    | .error operation => .error (.overflow operation)
    | .ok account => .ok { tx with encumbrance := some account }

end Transaction

end FundLedger
