import FundLedger.Budget.Basic
/-!
# Groups of funds

A fund belongs to a group for one fiscal year, by a link that names the fund's budget once there is one.

* `GroupFundFiscalYear`: the link.
* `GroupYear`: a group in a fiscal year, ordered by group and then by year.
* `GroupFiscalYearSummary`: the totals of a group in a fiscal year.
-/

namespace FundLedger

/-- Membership of a fund in a group for a fiscal year. -/
structure GroupFundFiscalYear where
  id : GroupFundFiscalYearId
  group : GroupId
  fund : FundId
  fiscalYear : FiscalYearId
  budget : Option BudgetId
deriving DecidableEq

/-- A link without a budget. -/
def GroupFundFiscalYear.create (id : GroupFundFiscalYearId) (group : GroupId) (fund : FundId)
    (fiscalYear : FiscalYearId) : GroupFundFiscalYear := ⟨id, group, fund, fiscalYear, none⟩

/-- A group in a fiscal year. -/
structure GroupYear where
  group : GroupId
  fiscalYear : FiscalYearId
deriving DecidableEq

namespace GroupYear

instance : LT GroupYear := ⟨fun a b => a.group < b.group ∨ (a.group = b.group ∧ a.fiscalYear < b.fiscalYear)⟩

instance (a b : GroupYear) : Decidable (a < b) :=
  inferInstanceAs (Decidable (a.group < b.group ∨ (a.group = b.group ∧ a.fiscalYear < b.fiscalYear)))

end GroupYear

/-- The group and year of a link. -/
def GroupFundFiscalYear.groupYear (link : GroupFundFiscalYear) : GroupYear := ⟨link.group, link.fiscalYear⟩

/-- The totals of a group in a fiscal year. -/
structure GroupFiscalYearSummary where
  group : GroupId
  fiscalYear : FiscalYearId
  totals : Totals Decimal
deriving DecidableEq

end FundLedger
