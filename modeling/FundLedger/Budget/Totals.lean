import FundLedger.Money
/-!
# Totals of a budget

Eight amounts are sums over the transactions of a budget; seven more are derived from the sums.

* `Sums`, `Totals`: the sums, and the sums with the derived amounts, over any type of amount.
* `Sums.derive`: the derived amounts of some sums.
* `Totals.refresh`, `Totals.rounded`: the derived amounts once more, and every amount rounded.
* `Totals.fields`: the fifteen amounts with their names.
-/

namespace FundLedger

/-- Amounts that are sums over transactions. -/
structure Sums (α : Type) where
  /-- The earliest allocation received. -/
  initialAllocation : α
  /-- Later allocations received. -/
  allocationTo : α
  /-- Allocations sent. -/
  allocationFrom : α
  /-- Transfers received less transfers sent. -/
  netTransfers : α
  /-- Money reserved. -/
  encumbered : α
  /-- Payments not yet confirmed. -/
  awaitingPayment : α
  /-- Payments. -/
  expenditures : α
  /-- Spending taken back. -/
  credits : α
deriving DecidableEq

/-- The sums with the amounts derived from them. -/
structure Totals (α : Type) extends Sums α where
  /-- Allocations received less allocations sent. -/
  allocated : α
  /-- What was allocated, with the transfers. -/
  totalFunding : α
  /-- What is reserved or spent. -/
  unavailable : α
  /-- What is left of the funding. -/
  available : α
  /-- The funding less the payments. -/
  cashBalance : α
  /-- What is reserved beyond the funding. -/
  overEncumbrance : α
  /-- What is spent beyond the funding. -/
  overExpended : α
deriving DecidableEq

variable {α β : Type}

namespace Sums

/-- Every sum through a function. -/
def map (f : α → β) (s : Sums α) : Sums β :=
  { initialAllocation := f s.initialAllocation
    allocationTo := f s.allocationTo
    allocationFrom := f s.allocationFrom
    netTransfers := f s.netTransfers
    encumbered := f s.encumbered
    awaitingPayment := f s.awaitingPayment
    expenditures := f s.expenditures
    credits := f s.credits }

/-- The same amount in every place. -/
def replicate (a : α) : Sums α := ⟨a, a, a, a, a, a, a, a⟩

/-- The sums with the amounts derived from them.  Funding below zero counts as no funding when it is compared with
what is reserved or spent. -/
def derive (s : Sums Decimal) : Except Overflow (Totals Decimal) := do
  let received ← s.initialAllocation.add s.allocationTo
  let allocated ← received.sub s.allocationFrom
  let totalFunding ← allocated.add s.netTransfers
  let committed ← (← s.encumbered.add s.awaitingPayment).add s.expenditures
  let unavailable ← committed.sub s.credits
  let available ← totalFunding.sub unavailable
  let cashBalance ← totalFunding.sub s.expenditures
  let floor := totalFunding.maximum .zero
  let encumberedBeyond ← s.encumbered.sub floor
  let spentBeyond ← (← s.expenditures.add s.awaitingPayment).sub floor
  return { toSums := s
           allocated, totalFunding, unavailable, available, cashBalance
           overEncumbrance := encumberedBeyond.maximum .zero
           overExpended := spentBeyond.maximum .zero }

end Sums

namespace Totals

/-- Every amount through a function. -/
def map (f : α → β) (t : Totals α) : Totals β :=
  { toSums := t.toSums.map f
    allocated := f t.allocated
    totalFunding := f t.totalFunding
    unavailable := f t.unavailable
    available := f t.available
    cashBalance := f t.cashBalance
    overEncumbrance := f t.overEncumbrance
    overExpended := f t.overExpended }

/-- The same amount in every place. -/
def replicate (a : α) : Totals α :=
  { toSums := .replicate a
    allocated := a
    totalFunding := a
    unavailable := a
    available := a
    cashBalance := a
    overEncumbrance := a
    overExpended := a }

/-- Nothing in every place. -/
def zero : Totals Decimal := replicate .zero

/-- The amounts with their names, the sums first. -/
def fields (t : Totals α) : List (String × α) :=
  [("initialAllocation", t.initialAllocation), ("allocationTo", t.allocationTo),
   ("allocationFrom", t.allocationFrom), ("netTransfers", t.netTransfers), ("encumbered", t.encumbered),
   ("awaitingPayment", t.awaitingPayment), ("expenditures", t.expenditures), ("credits", t.credits),
   ("allocated", t.allocated), ("totalFunding", t.totalFunding), ("unavailable", t.unavailable),
   ("available", t.available), ("cashBalance", t.cashBalance), ("overEncumbrance", t.overEncumbrance),
   ("overExpended", t.overExpended)]

/-- The totals whose amounts are found by their names. -/
def ofFields? (get? : String → Option α) : Option (Totals α) := do
  let sums : Sums α :=
    { initialAllocation := ← get? "initialAllocation"
      allocationTo := ← get? "allocationTo"
      allocationFrom := ← get? "allocationFrom"
      netTransfers := ← get? "netTransfers"
      encumbered := ← get? "encumbered"
      awaitingPayment := ← get? "awaitingPayment"
      expenditures := ← get? "expenditures"
      credits := ← get? "credits" }
  return { toSums := sums
           allocated := ← get? "allocated"
           totalFunding := ← get? "totalFunding"
           unavailable := ← get? "unavailable"
           available := ← get? "available"
           cashBalance := ← get? "cashBalance"
           overEncumbrance := ← get? "overEncumbrance"
           overExpended := ← get? "overExpended" }

/-- The same sums with their derived amounts computed anew. -/
def refresh (t : Totals Decimal) : Except Overflow (Totals Decimal) := t.toSums.derive

/-- Every amount rounded to the minor unit of a currency. -/
def rounded (t : Totals Decimal) (currency : Currency) : Totals Decimal := t.map currency.round

/-- The values of the amounts. -/
def values (t : Totals Decimal) : Totals Int := t.map Decimal.units

/-- Totals are equivalent when all amounts are equal by value. -/
instance : HasEquiv (Totals Decimal) := ⟨fun t t' => t.values = t'.values⟩

instance (t t' : Totals Decimal) : Decidable (t ≈ t') := inferInstanceAs (Decidable (t.values = t'.values))

/-- An amount that differs between two totals. -/
structure Drift where
  field : String
  cached : Decimal
  recomputed : Decimal
deriving DecidableEq

/-- The amounts whose values differ, in the order of the fields. -/
def drift (cached recomputed : Totals Decimal) : List Drift :=
  (cached.fields.zip recomputed.fields).filterMap fun (old, new) =>
    if old.2 ≈ new.2 then none else some ⟨old.1, old.2, new.2⟩

end Totals

end FundLedger
