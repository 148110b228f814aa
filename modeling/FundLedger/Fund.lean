import FundLedger.Ident
/-!
# Funds

A fund may name the funds that it takes money from and the funds that it sends money to.  A fund that names none
is open to all.
-/

namespace FundLedger

/-- Whether a fund is in use. -/
inductive FundStatus
  | active
  | frozen
  | inactive
deriving DecidableEq

namespace FundStatus

/-- Every status. -/
def all : List FundStatus := [active, frozen, inactive]

/-- The name in records. -/
def name : FundStatus → String
  | active => "Active"
  | frozen => "Frozen"
  | inactive => "Inactive"

end FundStatus

/-- A fund. -/
structure Fund where
  id : FundId
  code : String
  name : String
  ledger : LedgerId
  status : FundStatus
  allocatedFrom : List FundId
  allocatedTo : List FundId
deriving DecidableEq

namespace Fund

/-- An active fund without restrictions, named like its code. -/
def create (id : FundId) (code : String) (ledger : LedgerId) : Fund := ⟨id, code, code, ledger, .active, [], []⟩

/-- Whether this fund takes money from `sender`. -/
def acceptsFrom (fund : Fund) (sender : FundId) : Bool :=
  fund.allocatedFrom.isEmpty || fund.allocatedFrom.contains sender

/-- Whether this fund sends money to `receiver`. -/
def sendsTo (fund : Fund) (receiver : FundId) : Bool :=
  fund.allocatedTo.isEmpty || fund.allocatedTo.contains receiver

/-- Whether money may move from `sender` to `receiver`. -/
def linked (sender receiver : Fund) : Bool := receiver.acceptsFrom sender.id && sender.sendsTo receiver.id

end Fund

end FundLedger
