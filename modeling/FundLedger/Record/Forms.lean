import FundLedger.ExpenseClass.Basic
import FundLedger.Fund
import FundLedger.Group.Basic
import FundLedger.Record.Fields
import FundLedger.Transaction.Basic
/-!
# JSON forms of the records

Every record with the names that its fields have in JSON, in their order.  An optional field without a value is left
out, but for the share of an expense class, which is then null.
-/

namespace FundLedger

open JsonForm (encode)

instance : JsonForm TransactionKind :=
  ⟨fun k => .string k.name, named? TransactionKind.all TransactionKind.name⟩

instance : JsonForm TransactionSource :=
  ⟨fun s => .string s.name, named? TransactionSource.all TransactionSource.name⟩

instance : JsonForm EncumbranceStatus :=
  ⟨fun s => .string s.name, named? EncumbranceStatus.all EncumbranceStatus.name⟩

instance : JsonForm BudgetStatus := ⟨fun s => .string s.name, named? BudgetStatus.all BudgetStatus.name⟩

instance : JsonForm FundStatus := ⟨fun s => .string s.name, named? FundStatus.all FundStatus.name⟩

instance : JsonForm ExpenseClassStatus :=
  ⟨fun s => .string s.name, named? ExpenseClassStatus.all ExpenseClassStatus.name⟩

instance : JsonForm Encumbrance where
  encode e := .object
    [("initialAmountEncumbered", encode e.initialAmount), ("amountAwaitingPayment", encode e.awaitingPayment),
     ("amountExpended", encode e.expended), ("status", encode e.status)]
  decode? v := do
    let f ← Fields.ofJson? 4 v
    return { initialAmount := ← f.required 0 "initialAmountEncumbered"
             awaitingPayment := ← f.required 1 "amountAwaitingPayment"
             expended := ← f.required 2 "amountExpended"
             status := ← f.required 3 "status" }

instance : JsonForm Transaction where
  encode t := .object
    ([("id", encode t.id), ("amount", encode t.amount), ("currency", encode t.currency),
      ("transactionType", encode t.kind), ("fiscalYearId", encode t.fiscalYear)] ++
     memberIfSome "fromFundId" t.fromFund ++ memberIfSome "toFundId" t.toFund ++
     memberIfSome "expenseClassId" t.expenseClass ++ [("source", encode t.source)] ++
     memberIfSome "description" t.description ++ [("createdDate", encode t.createdDate)] ++
     memberIfSome "encumbrance" t.encumbrance)
  decode? v := do
    let f ← Fields.ofJson? 12 v
    return { id := ← f.required 0 "id"
             amount := ← f.required 1 "amount"
             currency := ← f.required 2 "currency"
             kind := ← f.required 3 "transactionType"
             fiscalYear := ← f.required 4 "fiscalYearId"
             fromFund := ← f.optional 5 "fromFundId"
             toFund := ← f.optional 6 "toFundId"
             expenseClass := ← f.optional 7 "expenseClassId"
             source := ← f.withDefault 8 "source" .user
             description := ← f.optional 9 "description"
             createdDate := ← f.required 10 "createdDate"
             encumbrance := ← f.optional 11 "encumbrance" }

/-- The names of the totals. -/
def Totals.names : List String := (Totals.replicate ()).fields.map (·.1)

/-- The members that hold the totals. -/
def Totals.members (t : Totals Decimal) : List (String × Json) := t.fields.map fun f => (f.1, encode f.2)

/-- The totals among the fields of a record. -/
def Totals.ofRecord? (f : Fields) : Option (Totals Decimal) :=
  Totals.ofFields? fun name => f.required (Totals.names.idxOf name) name

instance : JsonForm (Totals Decimal) where
  encode t := .object t.members
  decode? v := (Fields.ofJson? 15 v).bind Totals.ofRecord?

instance : JsonForm Budget where
  encode b := .object
    ([("id", encode b.id), ("name", encode b.name), ("fundId", encode b.fund), ("fiscalYearId", encode b.fiscalYear),
      ("currency", encode b.currency), ("budgetStatus", encode b.status)] ++
     memberIfSome "allowableEncumbrance" b.allowableEncumbrance ++
     memberIfSome "allowableExpenditure" b.allowableExpenditure ++ b.totals.members ++
     [("_version", encode b.version)])
  decode? v := do
    let f ← Fields.ofObject? v
    return { id := ← f.required 0 "id"
             name := ← f.required 1 "name"
             fund := ← f.required 2 "fundId"
             fiscalYear := ← f.required 3 "fiscalYearId"
             currency := ← f.required 4 "currency"
             status := ← f.withDefault 5 "budgetStatus" .active
             allowableEncumbrance := ← f.optional 6 "allowableEncumbrance"
             allowableExpenditure := ← f.optional 7 "allowableExpenditure"
             totals := ← Totals.ofRecord? f
             version := ← f.withDefault 23 "_version" 0 }

instance : JsonForm Totals.Drift where
  encode d := .object [("field", encode d.field), ("cached", encode d.cached), ("recomputed", encode d.recomputed)]
  decode? v := do
    let f ← Fields.ofJson? 3 v
    return ⟨← f.required 0 "field", ← f.required 1 "cached", ← f.required 2 "recomputed"⟩

instance : JsonForm Reconciliation where
  encode r := .object [("budget", encode r.budget), ("drift", encode r.drift)]
  decode? v := do
    let f ← Fields.ofJson? 2 v
    return ⟨← f.required 0 "budget", ← f.required 1 "drift"⟩

instance : JsonForm Fund where
  encode f := .object
    [("id", encode f.id), ("code", encode f.code), ("name", encode f.name), ("ledgerId", encode f.ledger),
     ("fundStatus", encode f.status), ("allocatedFromIds", encode f.allocatedFrom),
     ("allocatedToIds", encode f.allocatedTo)]
  decode? v := do
    let f ← Fields.ofJson? 7 v
    return { id := ← f.required 0 "id"
             code := ← f.required 1 "code"
             name := ← f.required 2 "name"
             ledger := ← f.required 3 "ledgerId"
             status := ← f.withDefault 4 "fundStatus" .active
             allocatedFrom := ← f.withDefault 5 "allocatedFromIds" []
             allocatedTo := ← f.withDefault 6 "allocatedToIds" [] }

instance : JsonForm ExpenseClass where
  encode c := .object
    ([("id", encode c.id), ("name", encode c.name)] ++ memberIfSome "code" c.code ++
     memberIfSome "externalAccountNumberExt" c.externalAccountExtension)
  decode? v := do
    let f ← Fields.ofJson? 4 v
    return { id := ← f.required 0 "id"
             name := ← f.required 1 "name"
             code := ← f.optional 2 "code"
             externalAccountExtension := ← f.optional 3 "externalAccountNumberExt" }

instance : JsonForm BudgetExpenseClass where
  encode l := .object
    [("id", encode l.id), ("budgetId", encode l.budget), ("expenseClassId", encode l.expenseClass),
     ("status", encode l.status)]
  decode? v := do
    let f ← Fields.ofJson? 4 v
    return { id := ← f.required 0 "id"
             budget := ← f.required 1 "budgetId"
             expenseClass := ← f.required 2 "expenseClassId"
             status := ← f.withDefault 3 "status" .active }

instance : JsonForm ExpenseClassTotal where
  encode t := .object
    [("id", encode t.id), ("expenseClassName", encode t.name), ("encumbered", encode t.encumbered),
     ("awaitingPayment", encode t.awaitingPayment), ("expended", encode t.expended),
     ("percentageExpended", t.percentageExpended.elim .null encode)]
  decode? v := do
    let f ← Fields.ofJson? 6 v
    return { id := ← f.required 0 "id"
             name := ← f.required 1 "expenseClassName"
             encumbered := ← f.required 2 "encumbered"
             awaitingPayment := ← f.required 3 "awaitingPayment"
             expended := ← f.required 4 "expended"
             percentageExpended := ← f.nullable 5 "percentageExpended" }

instance : JsonForm GroupFundFiscalYear where
  encode l := .object
    ([("id", encode l.id), ("groupId", encode l.group), ("fundId", encode l.fund),
      ("fiscalYearId", encode l.fiscalYear)] ++ memberIfSome "budgetId" l.budget)
  decode? v := do
    let f ← Fields.ofJson? 5 v
    return { id := ← f.required 0 "id"
             group := ← f.required 1 "groupId"
             fund := ← f.required 2 "fundId"
             fiscalYear := ← f.required 3 "fiscalYearId"
             budget := ← f.optional 4 "budgetId" }

instance : JsonForm GroupFiscalYearSummary where
  encode s := .object
    ([("groupId", encode s.group), ("fiscalYearId", encode s.fiscalYear)] ++ s.totals.members)
  decode? v := do
    let f ← Fields.ofObject? v
    return { group := ← f.required 0 "groupId"
             fiscalYear := ← f.required 1 "fiscalYearId"
             totals := ← Totals.ofRecord? f }

/-- Whether a value says that a scope is a budget, and not the budgets of a group. -/
def saysBudget? (v : Json) : Option Bool :=
  named? [true, false] (fun isBudget => if isBudget then "budget" else "group") v

/-- A scope is written with its type and the identifier of the budget or group.  In an array the type has to be a
string. -/
instance : JsonForm ExpenseClassScope where
  encode
    | .budget id => .object [("type", .string "budget"), ("id", encode id)]
    | .group id => .object [("type", .string "group"), ("id", encode id)]
  decode? v := do
    let f ← Fields.ofJson? 2 v
    let type ← match f, ← f.value? 0 "type" with
      | .listed _, type => type.string?.map Json.string
      | .named _, type => some type
    match ← saysBudget? type with
    | true => return .budget (← f.required 1 "id")
    | false => return .group (← f.required 1 "id")

end FundLedger
