import FundLedger.Proofs.Conservation
/-!
# Spending of a ledger

What the budgets of one fiscal year and one currency have reserved and spent together.  A reservation counts in the
budget of its sender only.  A payment, confirmed or not, and a credit count in the budget of every fund that they name,
and so they count twice when they name two funds.

* `Spending`: reserved, awaiting payment, paid and credited.
* `Spending.contribution`: the funds that a transaction counts for.
* `Store.Backed.sum_spending`: what the budgets hold together.
* `Store.Run.spending_counted`: after any run on an empty ledger.
* `Store.payment_of_two_funds_counted_twice`.
-/

namespace FundLedger

/-- The members of a list that are among some others, each of which is a member. -/
theorem sum_map_if_mem {α : Type} [DecidableEq α] {l marked : List α} (hl : l.Nodup) (hmarked : marked.Nodup)
    (hsub : ∀ a ∈ marked, a ∈ l) (x : Int) :
    (l.map fun a => if a ∈ marked then x else 0).sum = marked.length * x := by
  have hperm : (l.filter fun a => decide (a ∈ marked)).Perm marked :=
    (List.perm_ext_iff_of_nodup (hl.filter _) hmarked).mpr fun a => by
      rw [List.mem_filter, decide_eq_true_eq]
      exact ⟨And.right, fun ha => ⟨hsub a ha, ha⟩⟩
  calc (l.map fun a => if a ∈ marked then x else 0).sum
      = ((l.filter fun a => decide (a ∈ marked)).map fun _ => x).sum := by
        rw [sum_map_filter]
        simp only [decide_eq_true_eq]
    _ = (marked.map fun _ => x).sum := (hperm.map _).sum_eq
    _ = marked.length * x := by rw [List.map_const', List.sum_replicate, nsmul_eq_mul]

/-! ## Kinds of spending -/

/-- What a budget keeps apart from its funding. -/
inductive Spending
  | reserved
  | awaiting
  | paid
  | credited
deriving DecidableEq

namespace Spending

variable (spending : Spending) {t : Transaction} {fund : FundId}

/-- The kind of the transactions that are counted. -/
def kind : Spending → TransactionKind
  | reserved => .encumbrance
  | awaiting => .pendingPayment
  | paid => .payment
  | credited => .credit

/-- The sum that they are counted in. -/
def sum {α : Type} (s : Sums α) : Spending → α
  | reserved => s.encumbered
  | awaiting => s.awaitingPayment
  | paid => s.expenditures
  | credited => s.credits

/-- The funds whose budgets count a transaction. -/
def funds (t : Transaction) : Spending → List FundId
  | reserved => t.fromFund.toList
  | awaiting | paid | credited => t.funds

/-- Whether a transaction counts in the budgets of two funds. -/
def isShared (t : Transaction) : Bool := spending != reserved && t.isInternal && t.fromFund != t.toFund

theorem sum_zero : spending.sum (0 : Sums Int) = 0 := by cases spending <;> rfl

theorem sum_add (m n : Sums Int) : spending.sum (m + n) = spending.sum m + spending.sum n := by cases spending <;> rfl

theorem counts_sum {p : Nat} {s : Sums Decimal} {m : Sums Int} (h : s.Counts p m) :
    (spending.sum s).Counts p (spending.sum m) := by
  cases spending with
  | reserved => exact h.encumbered
  | awaiting => exact h.awaitingPayment
  | paid => exact h.expenditures
  | credited => exact h.credits

theorem touches_of_mem_funds (h : fund ∈ spending.funds t) : t.touches fund = true := by
  cases spending with
  | reserved => exact Transaction.touches_iff.mpr (.inl (Option.mem_toList.mp h))
  | awaiting | paid | credited => exact t.mem_funds.mp h

theorem nodup_funds (t : Transaction) : (spending.funds t).Nodup := by
  cases spending with
  | reserved =>
    change t.fromFund.toList.Nodup
    cases t.fromFund <;> simp
  | awaiting | paid | credited => exact t.nodup_funds

/-- A transaction adds its amount to the sum of its kind, for every fund that it counts for. -/
theorem contribution (t : Transaction) (fund : FundId) (initial : Bool) :
    spending.sum (t.contribution fund initial) =
      if t.kind = spending.kind ∧ fund ∈ spending.funds t then t.minorAmount else 0 := by
  have hsender : fund ∈ t.fromFund.toList ↔ t.hasRole fund .sender = true := by
    unfold Transaction.hasRole
    rw [Option.mem_toList, beq_iff_eq]
  cases spending with
  | reserved => exact if_congr (and_congr_right fun _ => hsender.symm) rfl rfl
  | awaiting | paid | credited => exact if_congr (and_congr_right fun _ => (t.mem_funds).symm) rfl rfl

/-- What the tally of a budget has of a kind of spending. -/
theorem sum_tally (b : Budget) (txs : List Transaction) :
    spending.sum (b.tally txs) =
      ((b.scope txs).map fun t =>
        if t.kind = spending.kind ∧ b.fund ∈ spending.funds t then t.minorAmount else 0).sum :=
  tally_apply spending.sum spending.sum_zero spending.sum_add fun t _ => spending.contribution t b.fund _

/-- A transaction that names the fund that its kind asks for counts once, and once more if it is shared. -/
theorem length_funds (hkind : t.kind = spending.kind) (hnamed : t.fundIssue? = none) :
    (spending.funds t).length = 1 + if spending.isShared t then 1 else 0 := by
  unfold Transaction.fundIssue? at hnamed
  rw [hkind] at hnamed
  unfold isShared Transaction.isInternal
  cases hfrom : t.fromFund <;> cases hto : t.toFund
  case some.some sender receiver =>
    by_cases hsame : sender = receiver <;> cases spending <;> simp [funds, Transaction.funds, hfrom, hto, hsame]
  -- where a fund is missing, it is not the one that the kind asks for
  all_goals cases spending <;> simp [kind, funds, Transaction.funds, hfrom, hto] at hnamed ⊢

end Spending

namespace Store

variable {s s' : Store} {calls : List Call} {fiscalYear : FiscalYearId} {c : Currency} {t : Transaction}

/-- The transactions of a kind in a fiscal year and a currency. -/
def transactionsIn (s : Store) (kind : TransactionKind) (fiscalYear : FiscalYearId) (c : Currency) :
    List Transaction :=
  s.transactions.records.filter fun t => t.kind == kind && t.fiscalYear == fiscalYear && t.currency == c

theorem mem_transactionsIn {kind : TransactionKind} :
    t ∈ s.transactionsIn kind fiscalYear c ↔
      t ∈ s.transactions ∧ t.kind = kind ∧ t.fiscalYear = fiscalYear ∧ t.currency = c := by
  unfold transactionsIn
  rw [List.mem_filter, Bool.and_eq_true, Bool.and_eq_true, beq_iff_eq, beq_iff_eq, beq_iff_eq, and_assoc]
  rfl

/-- Of the funds that a transaction counts for, all have one of the budgets if it is in their currency, and else none. -/
theorem Backed.sum_counted (hbacked : s.Backed) (h : s.Consistent) (spending : Spending) (ht : t ∈ s.transactions)
    (hyear : t.fiscalYear = fiscalYear) :
    (((s.budgetsIn fiscalYear c).map (·.fund)).map fun fund =>
        if fund ∈ spending.funds t then t.minorAmount else 0).sum =
      if t.currency == c then (spending.funds t).length * t.minorAmount else 0 := by
  have hmem : ∀ fund ∈ spending.funds t, fund ∈ (s.budgetsIn fiscalYear c).map (·.fund) ↔ t.currency = c := by
    intro fund hfund
    have hany : (some fund).any ((s.budgetsIn fiscalYear c).map (·.fund)).contains =
        ((some fund).isSome && t.currency == c) :=
      hbacked.any_fundsIn h ht hyear fun _ hsome => Option.some.inj hsome ▸ spending.touches_of_mem_funds hfund
    rwa [Option.any_some, Option.isSome_some, Bool.true_and, Bool.eq_iff_iff, List.contains_iff_mem, beq_iff_eq] at hany
  by_cases hc : t.currency = c
  · rw [if_pos (beq_iff_eq.mpr hc)]
    exact sum_map_if_mem (OneBudget.nodup_fundsIn h.oneBudget fiscalYear c) (spending.nodup_funds t)
      (fun fund hfund => (hmem fund hfund).mpr hc) t.minorAmount
  · rw [if_neg fun hbeq => hc (eq_of_beq hbeq)]
    refine List.sum_eq_zero fun x hx => ?_
    obtain ⟨fund, hfund, rfl⟩ := List.mem_map.mp hx
    exact if_neg fun hcounted => hc ((hmem fund hcounted).mp hfund)

/-- What the budgets hold together of one kind of spending, in minor units. -/
theorem Backed.sum_spending (hbacked : s.Backed) (h : s.Consistent) (spending : Spending)
    (fiscalYear : FiscalYearId) (c : Currency) :
    ((s.budgetsIn fiscalYear c).map fun b => spending.sum (b.tally s.transactions.records)).sum =
      ((s.transactionsIn spending.kind fiscalYear c).map fun t => (spending.funds t).length * t.minorAmount).sum := by
  let amount (fund : FundId) (t : Transaction) : Int :=
    if t.kind = spending.kind ∧ fund ∈ spending.funds t then t.minorAmount else 0
  have hnone : ∀ fund t, t.touches fund = false → amount fund t = 0 := by
    intro fund t htouches
    refine if_neg fun hcounted => ?_
    rw [spending.touches_of_mem_funds hcounted.2] at htouches
    cases htouches
  have hsplit : s.transactionsIn spending.kind fiscalYear c =
      (s.transactions.records.filter fun t => t.fiscalYear == fiscalYear).filter fun t =>
        t.kind == spending.kind && t.currency == c := by
    unfold transactionsIn
    rw [List.filter_filter]
    refine List.filter_congr fun t _ => ?_
    cases t.kind == spending.kind <;> cases t.fiscalYear == fiscalYear <;> cases t.currency == c <;> rfl
  rw [List.map_congr_left fun b _ => spending.sum_tally b _,
    sum_scopes (fun _ hb => (mem_budgetsIn.mp hb).2.1) _ amount hnone, hsplit,
    sum_map_filter fun t : Transaction => t.kind == spending.kind && t.currency == c]
  refine congrArg List.sum (List.map_congr_left fun t ht => ?_)
  obtain ⟨hmem, hyear⟩ := List.mem_filter.mp ht
  by_cases hkind : t.kind = spending.kind
  · simp only [amount, hkind, true_and, beq_self_eq_true, Bool.true_and]
    exact hbacked.sum_counted h spending hmem (eq_of_beq hyear)
  · simp [amount, hkind, Function.comp_def]

/-- What the budgets hold together of one kind of spending, in units of the decimals: every amount once, and once more
where it is shared. -/
theorem Backed.units_spending (hbacked : s.Backed) (h : s.Consistent) (small : s.volume < 2 ^ 94)
    (spending : Spending) (fiscalYear : FiscalYearId) (c : Currency) :
    ((s.budgetsIn fiscalYear c).map fun b => (spending.sum b.totals.toSums).units).sum =
      ((s.transactionsIn spending.kind fiscalYear c).map (·.amount.units)).sum +
        (((s.transactionsIn spending.kind fiscalYear c).filter spending.isShared).map (·.amount.units)).sum := by
  have hholds : ∀ b ∈ s.budgetsIn fiscalYear c, (spending.sum b.totals.toSums).units =
      spending.sum (b.tally s.transactions.records) * Decimal.minorUnit c.minorUnits := by
    intro b hb
    obtain ⟨hmem, -, rfl⟩ := mem_budgetsIn.mp hb
    exact spending.counts_sum (h.holds small hmem).sums
  have hamount : ∀ t ∈ s.transactionsIn spending.kind fiscalYear c,
      (spending.funds t).length * t.minorAmount * Decimal.minorUnit c.minorUnits =
        t.amount.units + if spending.isShared t then t.amount.units else 0 := by
    intro t ht
    obtain ⟨hmem, hkind, -, rfl⟩ := mem_transactionsIn.mp ht
    have hunits : t.amount.units = t.minorAmount * Decimal.minorUnit t.currency.minorUnits := hbacked.rounded t hmem
    rw [spending.length_funds hkind (hbacked.named t hmem), hunits]
    cases spending.isShared t
    · simp
    · simp only [if_true]
      push_cast
      ring
  calc ((s.budgetsIn fiscalYear c).map fun b => (spending.sum b.totals.toSums).units).sum
      = ((s.budgetsIn fiscalYear c).map fun b =>
          spending.sum (b.tally s.transactions.records) * Decimal.minorUnit c.minorUnits).sum :=
        congrArg List.sum (List.map_congr_left hholds)
    _ = ((s.transactionsIn spending.kind fiscalYear c).map fun t =>
          (spending.funds t).length * t.minorAmount * Decimal.minorUnit c.minorUnits).sum := by
        rw [List.sum_map_mul_right, hbacked.sum_spending h, List.sum_map_mul_right]
    _ = ((s.transactionsIn spending.kind fiscalYear c).map fun t =>
          t.amount.units + if spending.isShared t then t.amount.units else 0).sum :=
        congrArg List.sum (List.map_congr_left hamount)
    _ = _ := by rw [List.sum_map_add, sum_map_filter spending.isShared]

/-- After any run of calls on a ledger without transactions whose budgets are empty: what the budgets of a year hold in a
currency of one kind of spending is what was recorded of that kind, with the payments and credits of two funds counted
for both of them. -/
theorem Run.spending_counted (hrun : s.Run calls s') (hnone : s.transactions.records = []) (hone : s.OneBudget)
    (hzero : ∀ b ∈ s.budgets, b.totals ≈ Totals.zero) (small : (calls.map Call.volume).sum < 2 ^ 94)
    (spending : Spending) (fiscalYear : FiscalYearId) (c : Currency) :
    ((s'.budgetsIn fiscalYear c).map fun b => (spending.sum b.totals.toSums).units).sum =
      ((s'.transactionsIn spending.kind fiscalYear c).map (·.amount.units)).sum +
        (((s'.transactionsIn spending.kind fiscalYear c).filter spending.isShared).map (·.amount.units)).sum := by
  obtain ⟨hconsistent, hbacked, hvolume⟩ := hrun.of_no_transactions hnone hone hzero small
  exact hbacked.units_spending hconsistent hvolume spending fiscalYear c

/-- Thirty dollars paid by the first fund to the second. -/
def paymentToJournals : Transaction :=
  { Transaction.create 21 .payment 30.00 .usd 9 ⟨0, 0⟩ with fromFund := some 1, toFund := some 2 }

theorem spending_counted_twoFunds :
    let s' := ((twoFunds.perform (Call.create paymentToJournals).operation).2.perform
      (Call.create (pendingFrom 22 1 5.005)).operation).2
    ((s'.budgetsIn 9 .usd).map fun b => (Spending.paid.sum b.totals.toSums).units).sum =
      ((s'.transactionsIn .payment 9 .usd).map (·.amount.units)).sum +
        (((s'.transactionsIn .payment 9 .usd).filter Spending.paid.isShared).map (·.amount.units)).sum := by
  have hnew : Call.IsNew twoFunds (.create paymentToJournals) := by
    change twoFunds.transactions.find? paymentToJournals.id = none
    decide
  have hnew' : Call.IsNew (twoFunds.perform (Call.create paymentToJournals).operation).2
      (.create (pendingFrom 22 1 5.005)) := by
    change (twoFunds.perform (Call.create paymentToJournals).operation).2.transactions.find? 22 = none
    decide +kernel
  have hzero : ∀ b ∈ twoFunds.budgets.records, b.totals ≈ Totals.zero := by decide
  exact Run.spending_counted (.snoc (.snoc .nil hnew) hnew') rfl consistent_twoFunds.oneBudget hzero (by decide)
    .paid 9 .usd

/-- A payment from one fund to another is spent by both of them. -/
theorem payment_of_two_funds_counted_twice :
    let s' := (twoFunds.perform (Call.create paymentToJournals).operation).2
    twoFunds.Run [.create paymentToJournals] s' ∧ twoFunds.transactions.records = [] ∧ twoFunds.OneBudget ∧
      (∀ b ∈ twoFunds.budgets, b.totals ≈ Totals.zero) ∧
      (twoFunds.perform (.createTransaction paymentToJournals)).1 = .ok paymentToJournals ∧
      (s'.budgetsIn 9 .usd).map (·.totals.expenditures) = [30.00, 30.00] ∧
      (s'.transactionsIn .payment 9 .usd).map (·.amount) = [30.00] ∧
      ((s'.budgetsIn 9 .usd).map (·.totals.expenditures.units)).sum ≠
        ((s'.transactionsIn .payment 9 .usd).map (·.amount.units)).sum := by
  have hnew : Call.IsNew twoFunds (.create paymentToJournals) := by
    change twoFunds.transactions.find? paymentToJournals.id = none
    decide
  have hzero : ∀ b ∈ twoFunds.budgets.records, b.totals ≈ Totals.zero := by decide
  refine ⟨.snoc .nil hnew, rfl, consistent_twoFunds.oneBudget, hzero, ?_, ?_, ?_, ?_⟩ <;> decide +kernel

end Store

end FundLedger
