import FundLedger.Budget.Recompute
/-!
# What one transaction does to a budget

A transaction acts on the budget of a fund by a few effects, each of which changes one of the sums.  One more effect
follows when an allocation turns out to be earlier than all that the fund received before: the allocation that
counted as the initial one becomes an ordinary one.

* `Effect`, `Effect.accumulate`: the effects, and the sums after one of them.
* `Transaction.effects`: the effects on the budget of a fund.
* `Budget.apply`, `Budget.applyWithHistory`: the budget after a transaction.
-/

namespace FundLedger

/-- A change of the sums of a budget. -/
inductive Effect
  | allocation (role : FundRole) (initial : Bool) (amount : Decimal)
  | transfer (role : FundRole) (amount : Decimal)
  | rolloverTransfer (role : FundRole) (amount : Decimal)
  | encumbrance (amount : Decimal)
  | pendingPayment (amount : Decimal)
  | payment (amount : Decimal)
  | credit (amount : Decimal)
  /-- What was the initial allocation becomes an ordinary one. -/
  | initialAllocationDisplaced (amount : Decimal)
deriving DecidableEq

/-- An amount as the fund sees it: what it sends counts against it. -/
def FundRole.signed : FundRole → Decimal → Decimal
  | .receiver, amount => amount
  | .sender, amount => -amount

namespace Effect

/-- The sums after an effect. -/
def accumulate (s : Sums Decimal) : Effect → Except Overflow (Sums Decimal)
  | allocation .receiver true amount => do
    return { s with initialAllocation := ← s.initialAllocation.add amount }
  | allocation .receiver false amount => do return { s with allocationTo := ← s.allocationTo.add amount }
  | allocation .sender _ amount => do return { s with allocationFrom := ← s.allocationFrom.add amount }
  | transfer role amount => do return { s with netTransfers := ← s.netTransfers.add (role.signed amount) }
  | rolloverTransfer role amount => do return { s with netTransfers := ← s.netTransfers.add (role.signed amount) }
  | encumbrance amount => do return { s with encumbered := ← s.encumbered.add amount }
  | pendingPayment amount => do return { s with awaitingPayment := ← s.awaitingPayment.add amount }
  | payment amount => do return { s with expenditures := ← s.expenditures.add amount }
  | credit amount => do return { s with credits := ← s.credits.add amount }
  | initialAllocationDisplaced amount => do
    let initialAllocation ← s.initialAllocation.sub amount
    let allocationTo ← s.allocationTo.add amount
    return { s with initialAllocation, allocationTo }

/-- The sums after some effects. -/
def accumulateAll (effects : List Effect) (s : Sums Decimal) : Except Overflow (Sums Decimal) :=
  effects.foldlM accumulate s

end Effect

namespace Transaction

variable (tx : Transaction)

/-- The sides of the transaction that a fund is on, the sending side first. -/
def roles (fund : FundId) : List FundRole :=
  [FundRole.sender, FundRole.receiver].filter (tx.hasRole fund)

/-- What the transaction does to the budget of a fund; `initial` tells whether an allocation is the first one that
the fund received. -/
def effects (fund : FundId) (initial : Bool) : List Effect :=
  let amount := tx.roundedAmount
  match tx.kind with
  | .allocation => (tx.roles fund).map fun role => .allocation role (role == .receiver && initial) amount
  | .transfer => (tx.roles fund).map fun role => .transfer role amount
  | .rolloverTransfer => (tx.roles fund).map fun role => .rolloverTransfer role amount
  | .encumbrance => if tx.hasRole fund .sender then [.encumbrance amount] else []
  | .pendingPayment => if tx.touches fund then [.pendingPayment amount] else []
  | .payment => if tx.touches fund then [.payment amount] else []
  | .credit => if tx.touches fund then [.credit amount] else []

/-- The effects on the budget of a fund that has recorded some transactions, perhaps this one among them. -/
def effectsAfter (fund : FundId) (recorded : List Transaction) : List Effect :=
  let earlier := recorded.filter fun t => t.id != tx.id && t.fiscalYear == tx.fiscalYear
  let initial := initialAllocation? fund (earlier ++ [tx]) == some tx.id
  let displaced : Option Transaction :=
    (initialAllocation? fund earlier).bind fun id => earlier.find? fun t => t.id == id
  tx.effects fund initial ++
    (if initial then displaced.toList.map fun t => .initialAllocationDisplaced t.roundedAmount else [])

end Transaction

namespace Budget

variable (budget : Budget)

/-- The budget after some effects: derived amounts follow the sums, and every amount is rounded.  Without effects
nothing changes. -/
def applyEffects (effects : List Effect) : Except Overflow Budget :=
  if effects.isEmpty then .ok budget
  else do
    let sums ← Effect.accumulateAll effects budget.totals.toSums
    let totals ← sums.derive
    return { budget with totals := totals.rounded budget.currency }

/-- The budget after a transaction, told whether an allocation is the initial one. -/
def apply (tx : Transaction) (initial : Bool) : Except Overflow Budget :=
  budget.applyEffects (tx.effects budget.fund initial)

/-- The budget after a transaction, given the transactions recorded for its fund. -/
def applyWithHistory (tx : Transaction) (recorded : List Transaction) : Except Overflow Budget :=
  budget.applyEffects (tx.effectsAfter budget.fund recorded)

end Budget

end FundLedger
