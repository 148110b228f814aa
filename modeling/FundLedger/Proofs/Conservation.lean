import FundLedger.Proofs.Backing
import FundLedger.Proofs.Flows
/-!
# Conservation of funding

What the budgets of one fiscal year and one currency hold together.  Every transaction of a ledger has its budgets, and
these are in its currency; so an allocation adds to the funding only what comes from no fund and takes only what goes to
no fund, and transfers leave the sum alone.

* `Store.budgetsIn`, `Store.allocationsIn`: the budgets and the allocations of a year and a currency.
* `Store.Backed.netAmountIn_eq`: what a stored transaction brings to these budgets together.
* `Store.Run.funding_conserved`: after any run on an empty ledger.
-/

namespace FundLedger

namespace Store

variable {s s' : Store} {calls : List Call} {fiscalYear : FiscalYearId} {c : Currency} {t : Transaction}

/-- The budgets of a fiscal year in a currency. -/
def budgetsIn (s : Store) (fiscalYear : FiscalYearId) (c : Currency) : List Budget :=
  s.budgets.records.filter fun b => b.fiscalYear == fiscalYear && b.currency == c

/-- The allocations of a fiscal year in a currency. -/
def allocationsIn (s : Store) (fiscalYear : FiscalYearId) (c : Currency) : List Transaction :=
  s.transactions.records.filter fun t => t.kind == .allocation && t.fiscalYear == fiscalYear && t.currency == c

theorem mem_budgetsIn {b : Budget} :
    b ∈ s.budgetsIn fiscalYear c ↔ b ∈ s.budgets ∧ b.fiscalYear = fiscalYear ∧ b.currency = c := by
  unfold budgetsIn
  rw [List.mem_filter, Bool.and_eq_true, beq_iff_eq, beq_iff_eq]
  rfl

theorem OneBudget.nodup_fundsIn (h : s.OneBudget) (fiscalYear : FiscalYearId) (c : Currency) :
    ((s.budgetsIn fiscalYear c).map (·.fund)).Nodup :=
  h.nodup_funds (s.budgets.nodup_records.filter _) (fun _ hb => (mem_budgetsIn.mp hb).1) fun _ hb =>
    (mem_budgetsIn.mp hb).2.1

/-- A fund of a stored transaction has one of these budgets exactly if the transaction is in their currency. -/
theorem Backed.any_fundsIn (hbacked : s.Backed) (h : s.Consistent) (ht : t ∈ s.transactions)
    (hyear : t.fiscalYear = fiscalYear) {role : Option FundId} (hrole : ∀ fund, role = some fund → t.touches fund = true) :
    role.any ((s.budgetsIn fiscalYear c).map (·.fund)).contains = (role.isSome && t.currency == c) := by
  cases role with
  | none => rfl
  | some fund =>
    have htouches := hrole fund rfl
    have hcurrency : ∀ b ∈ s.budgets, b.fund = fund → b.fiscalYear = fiscalYear → t.currency = b.currency := by
      rintro b hb rfl hb'
      refine h.currency b hb t ht ?_
      unfold Budget.covers
      rw [hyear, hb', beq_self_eq_true, Bool.true_and]
      exact htouches
    rw [Option.any_some, Option.isSome_some, Bool.true_and, Bool.eq_iff_iff, List.contains_iff_mem, beq_iff_eq,
      List.mem_map]
    constructor
    · rintro ⟨b, hb, hfund⟩
      obtain ⟨hmem, hb', rfl⟩ := mem_budgetsIn.mp hb
      exact hcurrency b hmem hfund hb'
    · intro hc
      obtain ⟨b, hb, hfund, hb'⟩ := hbacked.budgets t ht fund htouches
      rw [hyear] at hb'
      exact ⟨b, mem_budgetsIn.mpr ⟨hb, hb', (hcurrency b hb hfund hb').symm.trans hc⟩, hfund⟩

/-- In their currency the budgets get all that a transaction moves, and in others nothing. -/
theorem Backed.netAmountIn_eq (hbacked : s.Backed) (h : s.Consistent) (ht : t ∈ s.transactions)
    (hyear : t.fiscalYear = fiscalYear) :
    t.netAmountIn ((s.budgetsIn fiscalYear c).map (·.fund)) =
      if t.currency == c then
        (if t.fromFund.isNone then t.minorAmount else 0) - (if t.toFund.isNone then t.minorAmount else 0)
      else 0 := by
  unfold Transaction.netAmountIn
  rw [hbacked.any_fundsIn h ht hyear fun fund hfund => Transaction.touches_iff.mpr (.inr hfund),
    hbacked.any_fundsIn h ht hyear fun fund hfund => Transaction.touches_iff.mpr (.inl hfund)]
  cases t.currency == c <;> cases t.fromFund <;> cases t.toFund <;> simp

/-- A transfer moves as much as it takes. -/
theorem Backed.netAmountIn_of_isTransfer (hbacked : s.Backed) (h : s.Consistent) (ht : t ∈ s.transactions)
    (hyear : t.fiscalYear = fiscalYear) (htransfer : t.isTransfer = true) :
    t.netAmountIn ((s.budgetsIn fiscalYear c).map (·.fund)) = 0 := by
  have hnamed := hbacked.named t ht
  rw [hbacked.netAmountIn_eq h ht hyear]
  unfold Transaction.fundIssue? at hnamed
  unfold Transaction.isTransfer at htransfer
  cases hkind : t.kind <;> rw [hkind] at hnamed htransfer <;> cases htransfer <;>
    cases hfrom : t.fromFund <;> cases hto : t.toFund <;> simp [hfrom, hto] at hnamed ⊢

/-- What is allocated to the budgets together, in minor units. -/
theorem Backed.sum_allocated (hbacked : s.Backed) (h : s.Consistent) (fiscalYear : FiscalYearId) (c : Currency) :
    ((s.budgetsIn fiscalYear c).map fun b => (b.tally s.transactions.records).derived.allocated).sum =
      (((s.allocationsIn fiscalYear c).filter (·.fromFund.isNone)).map (·.minorAmount)).sum -
        (((s.allocationsIn fiscalYear c).filter (·.toFund.isNone)).map (·.minorAmount)).sum := by
  rw [FundLedger.sum_allocated s.transactions.nodup_ids (fun _ hb => (mem_budgetsIn.mp hb).2.1)
    (OneBudget.nodup_fundsIn h.oneBudget fiscalYear c)]
  have hsplit : s.allocationsIn fiscalYear c =
      (s.transactions.records.filter fun t => t.fiscalYear == fiscalYear && t.kind == .allocation).filter
        fun t => t.currency == c := by
    unfold allocationsIn
    rw [List.filter_filter]
    refine List.filter_congr fun t _ => ?_
    cases t.currency == c <;> cases t.kind == .allocation <;> cases t.fiscalYear == fiscalYear <;> rfl
  have hdifference : ∀ l : List Transaction,
      ((l.filter (·.fromFund.isNone)).map (·.minorAmount)).sum - ((l.filter (·.toFund.isNone)).map (·.minorAmount)).sum =
        (l.map fun t => (if t.fromFund.isNone then t.minorAmount else 0) -
          (if t.toFund.isNone then t.minorAmount else 0)).sum := by
    intro l
    rw [sum_map_filter, sum_map_filter]
    exact (sum_map_sub ..).symm
  rw [hsplit, hdifference, sum_map_filter fun t : Transaction => t.currency == c]
  refine congrArg List.sum (List.map_congr_left fun t ht => ?_)
  obtain ⟨hmem, hof⟩ := List.mem_filter.mp ht
  exact hbacked.netAmountIn_eq h hmem (eq_of_beq (Bool.and_eq_true_iff.mp hof).1)

theorem Backed.sum_netTransfers (hbacked : s.Backed) (h : s.Consistent) (fiscalYear : FiscalYearId) (c : Currency) :
    ((s.budgetsIn fiscalYear c).map fun b => (b.tally s.transactions.records).netTransfers).sum = 0 := by
  rw [FundLedger.sum_netTransfers (fun _ hb => (mem_budgetsIn.mp hb).2.1)
    (OneBudget.nodup_fundsIn h.oneBudget fiscalYear c)]
  refine List.sum_eq_zero fun x hx => ?_
  obtain ⟨t, ht, rfl⟩ := List.mem_map.mp hx
  obtain ⟨hmem, hof⟩ := List.mem_filter.mp ht
  obtain ⟨hyear, htransfer⟩ := Bool.and_eq_true_iff.mp hof
  exact hbacked.netAmountIn_of_isTransfer h hmem (eq_of_beq hyear) htransfer

/-- What the budgets hold and what is recorded, in units of the decimals. -/
theorem Backed.units_funding (hbacked : s.Backed) (h : s.Consistent) (small : s.volume < 2 ^ 94) :
    ((s.budgetsIn fiscalYear c).map (·.totals.totalFunding.units)).sum =
        (((s.allocationsIn fiscalYear c).filter (·.fromFund.isNone)).map (·.amount.units)).sum -
          (((s.allocationsIn fiscalYear c).filter (·.toFund.isNone)).map (·.amount.units)).sum ∧
      ((s.budgetsIn fiscalYear c).map (·.totals.netTransfers.units)).sum = 0 := by
  have hholds : ∀ b ∈ s.budgetsIn fiscalYear c,
      b.totals.Counts c.minorUnits (b.tally s.transactions.records).derived := by
    intro b hb
    obtain ⟨hmem, -, rfl⟩ := mem_budgetsIn.mp hb
    exact h.holds small hmem
  have hamount : ∀ q : Transaction → Bool, (((s.allocationsIn fiscalYear c).filter q).map (·.amount.units)).sum =
      (((s.allocationsIn fiscalYear c).filter q).map (·.minorAmount)).sum * Decimal.minorUnit c.minorUnits := by
    intro q
    rw [← List.sum_map_mul_right]
    refine congrArg List.sum (List.map_congr_left fun t ht => ?_)
    obtain ⟨hmem, hof⟩ := List.mem_filter.mp (List.mem_of_mem_filter ht)
    obtain rfl : t.currency = c := eq_of_beq (Bool.and_eq_true_iff.mp hof).2
    exact hbacked.rounded t hmem
  have hallocated := hbacked.sum_allocated h fiscalYear c
  have htransfers := hbacked.sum_netTransfers h fiscalYear c
  constructor
  · calc ((s.budgetsIn fiscalYear c).map (·.totals.totalFunding.units)).sum
        = ((s.budgetsIn fiscalYear c).map fun b => ((b.tally s.transactions.records).derived.allocated +
            (b.tally s.transactions.records).netTransfers) * Decimal.minorUnit c.minorUnits).sum :=
          congrArg List.sum (List.map_congr_left fun b hb => (hholds b hb).totalFunding)
      _ = (((s.budgetsIn fiscalYear c).map fun b => (b.tally s.transactions.records).derived.allocated).sum +
            ((s.budgetsIn fiscalYear c).map fun b => (b.tally s.transactions.records).netTransfers).sum) *
          Decimal.minorUnit c.minorUnits := by rw [List.sum_map_mul_right, List.sum_map_add]
      _ = _ := by rw [htransfers, Int.add_zero, hallocated, Int.sub_mul, hamount, hamount]
  · calc ((s.budgetsIn fiscalYear c).map (·.totals.netTransfers.units)).sum
        = ((s.budgetsIn fiscalYear c).map fun b =>
            (b.tally s.transactions.records).netTransfers * Decimal.minorUnit c.minorUnits).sum :=
          congrArg List.sum (List.map_congr_left fun b hb => (hholds b hb).sums.netTransfers)
      _ = 0 := by rw [List.sum_map_mul_right, htransfers, Int.zero_mul]

/-- After any run of calls on a ledger without transactions whose budgets are empty: what the budgets of a year hold in a
currency is what was allocated to them from no fund, less what they allocated to no fund, and their net transfers cancel
out. -/
theorem Run.funding_conserved (hrun : s.Run calls s') (hnone : s.transactions.records = []) (hone : s.OneBudget)
    (hzero : ∀ b ∈ s.budgets, b.totals ≈ Totals.zero) (small : (calls.map Call.volume).sum < 2 ^ 94)
    (fiscalYear : FiscalYearId) (c : Currency) :
    ((s'.budgetsIn fiscalYear c).map (·.totals.totalFunding.units)).sum =
        (((s'.allocationsIn fiscalYear c).filter (·.fromFund.isNone)).map (·.amount.units)).sum -
          (((s'.allocationsIn fiscalYear c).filter (·.toFund.isNone)).map (·.amount.units)).sum ∧
      ((s'.budgetsIn fiscalYear c).map (·.totals.netTransfers.units)).sum = 0 := by
  obtain ⟨hconsistent, hbacked, hvolume⟩ := hrun.of_no_transactions hnone hone hzero small
  exact hbacked.units_funding hconsistent hvolume

theorem funding_conserved_twoFunds :
    let s' := ((twoFunds.perform (Call.create allocationToBooks).operation).2.perform
      (Call.create transferToJournals).operation).2
    ((s'.budgetsIn 9 .usd).map (·.totals.totalFunding.units)).sum =
        (((s'.allocationsIn 9 .usd).filter (·.fromFund.isNone)).map (·.amount.units)).sum -
          (((s'.allocationsIn 9 .usd).filter (·.toFund.isNone)).map (·.amount.units)).sum ∧
      ((s'.budgetsIn 9 .usd).map (·.totals.netTransfers.units)).sum = 0 := by
  have hnew : Call.IsNew twoFunds (.create allocationToBooks) := by
    change twoFunds.transactions.find? allocationToBooks.id = none
    decide
  have hnew' : Call.IsNew (twoFunds.perform (Call.create allocationToBooks).operation).2
      (.create transferToJournals) := by
    change (twoFunds.perform (Call.create allocationToBooks).operation).2.transactions.find? 22 = none
    decide +kernel
  have hzero : ∀ b ∈ twoFunds.budgets.records, b.totals ≈ Totals.zero := by decide
  exact Run.funding_conserved (.snoc (.snoc .nil hnew) hnew') rfl consistent_twoFunds.oneBudget hzero (by decide) 9 .usd

end Store

end FundLedger
