import FundLedger.Ident
import FundLedger.Instant
import FundLedger.Money
/-!
# Transactions

A transaction moves money between funds, reserves it or spends it, within one fiscal year.  The fund that money
leaves is its sender, the fund that money enters its receiver; either may be absent.

* `TransactionKind`, `TransactionSource`, `FundRole`.
* `Encumbrance`: what became of the money that an encumbrance reserved.
* `Transaction`, and the roles that funds have in it.
* `Transaction.precedes`: the order of time, and of identifiers among transactions of one moment.
-/

namespace FundLedger

/-- What a transaction does. -/
inductive TransactionKind
  | allocation
  | transfer
  | rolloverTransfer
  | encumbrance
  | pendingPayment
  | payment
  | credit
deriving DecidableEq

namespace TransactionKind

/-- Every kind. -/
def all : List TransactionKind :=
  [allocation, transfer, rolloverTransfer, encumbrance, pendingPayment, payment, credit]

/-- The name in records. -/
def name : TransactionKind → String
  | allocation => "ALLOCATION"
  | transfer => "TRANSFER"
  | rolloverTransfer => "ROLLOVER_TRANSFER"
  | encumbrance => "ENCUMBRANCE"
  | pendingPayment => "PENDING_PAYMENT"
  | payment => "PAYMENT"
  | credit => "CREDIT"

/-- The name for readers. -/
def label : TransactionKind → String
  | allocation => "Allocation"
  | transfer => "Transfer"
  | rolloverTransfer => "Rollover transfer"
  | encumbrance => "Encumbrance"
  | pendingPayment => "Pending payment"
  | payment => "Payment"
  | credit => "Credit"

/-- Whether money moves between funds without being spent. -/
def isFundingMovement : TransactionKind → Bool
  | allocation | transfer | rolloverTransfer => true
  | encumbrance | pendingPayment | payment | credit => false

theorem name_injective {k k' : TransactionKind} (h : k.name = k'.name) : k = k' := by
  revert h
  cases k <;> cases k' <;> decide

end TransactionKind

/-- Where a transaction came from. -/
inductive TransactionSource
  | user
  | purchaseOrderLine
  | invoice
  | fiscalYear
deriving DecidableEq

namespace TransactionSource

/-- Every source. -/
def all : List TransactionSource := [user, purchaseOrderLine, invoice, fiscalYear]

/-- The name in records. -/
def name : TransactionSource → String
  | user => "USER"
  | purchaseOrderLine => "PO_LINE"
  | invoice => "INVOICE"
  | fiscalYear => "FISCAL_YEAR"

end TransactionSource

/-- The side of a transaction that a fund is on. -/
inductive FundRole
  | sender
  | receiver
deriving DecidableEq

/-- Whether a reservation still holds. -/
inductive EncumbranceStatus
  | unreleased
  | released
deriving DecidableEq

namespace EncumbranceStatus

/-- Every status. -/
def all : List EncumbranceStatus := [unreleased, released]

/-- The name in records. -/
def name : EncumbranceStatus → String
  | unreleased => "UNRELEASED"
  | released => "RELEASED"

end EncumbranceStatus

/-- What became of reserved money. -/
structure Encumbrance where
  initialAmount : Decimal
  awaitingPayment : Decimal
  expended : Decimal
  status : EncumbranceStatus
deriving DecidableEq

/-- An amount that was just reserved. -/
def Encumbrance.reserve (amount : Decimal) : Encumbrance := ⟨amount, .zero, .zero, .unreleased⟩

/-- A financial transaction. -/
structure Transaction where
  id : TransactionId
  amount : Decimal
  currency : Currency
  kind : TransactionKind
  fiscalYear : FiscalYearId
  fromFund : Option FundId
  toFund : Option FundId
  expenseClass : Option ExpenseClassId
  source : TransactionSource
  description : Option String
  createdDate : Instant
  encumbrance : Option Encumbrance
deriving DecidableEq

namespace Transaction

/-- A transaction of some kind without funds; an encumbrance starts with its whole amount reserved. -/
def create (id : TransactionId) (kind : TransactionKind) (amount : Decimal) (currency : Currency)
    (fiscalYear : FiscalYearId) (createdDate : Instant) : Transaction :=
  { id, amount, currency, kind, fiscalYear
    fromFund := none
    toFund := none
    expenseClass := none
    source := .user
    description := none
    createdDate
    encumbrance := if kind = .encumbrance then some (.reserve amount) else none }

variable (tx : Transaction)

/-- Whether both funds are named. -/
def isInternal : Bool := tx.fromFund.isSome && tx.toFund.isSome

/-- Whether a fund is on this side. -/
def hasRole (fund : FundId) : FundRole → Bool
  | .sender => tx.fromFund == some fund
  | .receiver => tx.toFund == some fund

/-- Whether a fund is on either side. -/
def touches (fund : FundId) : Bool := tx.hasRole fund .sender || tx.hasRole fund .receiver

/-- The funds that are named, the sender first, each of them once. -/
def funds : List FundId :=
  match tx.fromFund, tx.toFund with
  | some sender, some receiver => if sender = receiver then [sender] else [sender, receiver]
  | some sender, none => [sender]
  | none, some receiver => [receiver]
  | none, none => []

/-- The amount rounded to the minor unit of its currency. -/
def roundedAmount : Decimal := tx.currency.round tx.amount

/-- Whether this transaction came before another: by creation date, and by identifier at one moment. -/
def precedes (other : Transaction) : Prop :=
  tx.createdDate < other.createdDate ∨ (tx.createdDate = other.createdDate ∧ tx.id < other.id)

instance (other : Transaction) : Decidable (tx.precedes other) :=
  inferInstanceAs (Decidable (_ ∨ _))

/-- The first of some transactions, in the order of time; the first in the list of those that no order parts. -/
def earliest? : List Transaction → Option Transaction
  | [] => none
  | t :: rest =>
    match earliest? rest with
    | none => some t
    | some first => if first.precedes t then some first else some t

theorem touches_iff {tx : Transaction} {fund : FundId} :
    tx.touches fund = true ↔ tx.fromFund = some fund ∨ tx.toFund = some fund := by
  unfold touches hasRole
  rw [Bool.or_eq_true, beq_iff_eq, beq_iff_eq]

theorem mem_funds {fund : FundId} : fund ∈ tx.funds ↔ tx.touches fund = true := by
  unfold funds touches hasRole
  cases tx.fromFund with
  | none => cases tx.toFund <;> simp [eq_comm (a := fund)]
  | some sender =>
    cases tx.toFund with
    | none => simp [eq_comm (a := fund)]
    | some receiver =>
      by_cases h : sender = receiver <;> simp [h, eq_comm (a := fund)]

theorem earliest?_mem {txs : List Transaction} {t : Transaction} (h : earliest? txs = some t) : t ∈ txs := by
  induction txs generalizing t with
  | nil => cases h
  | cons a rest ih =>
    unfold earliest? at h
    split at h
    · cases h
      exact List.mem_cons_self
    · rename_i first hf
      split at h <;> cases h
      · exact List.mem_cons_of_mem _ (ih hf)
      · exact List.mem_cons_self

theorem earliest?_eq_none_iff {txs : List Transaction} : earliest? txs = none ↔ txs = [] := by
  cases txs with
  | nil => simp [earliest?]
  | cons a rest =>
    simp only [earliest?, reduceCtorEq, iff_false]
    split
    · exact Option.some_ne_none _
    · split <;> exact Option.some_ne_none _

end Transaction

end FundLedger
