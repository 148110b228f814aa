import FundLedger.Proofs.ClassPartition
import FundLedger.Proofs.References
import FundLedger.Proofs.Spending
/-!
# Breakdowns by expense class

The breakdown of a budget has a line for each expense class that the budget is linked to.  When every transaction of the
budget has one of these classes, each of them counts in one line, and the lines together have what all of the
transactions come to.  That is what the budget itself holds, apart from money that other funds reserved: a line counts a
reservation for the fund that is to receive the money too, and the budget counts it for the sender only.

* `Spending.amount`: what a transaction counts for in a line.
* `expenseClassTotals_addUp`: the lines together.
* `Store.perform_expenseClassTotals`: what is read, and what is broken down.
* `Store.Run.breakdown_addsUp`: after any run on an empty ledger.
* `Store.breakdown_counts_reservation_of_sender`.
-/

namespace FundLedger

/-! ## Amounts -/

/-- What a transaction counts for among those of a kind of spending, in minor units. -/
def Spending.amount (spending : Spending) (t : Transaction) : Int := if t.kind = spending.kind then t.minorAmount else 0

namespace Spending

variable {spending : Spending} {b : Budget} {txs : List Transaction}

/-- A budget counts the payments and credits of all its transactions. -/
theorem sum_amount (h : spending ≠ reserved) :
    ((b.scope txs).map spending.amount).sum = spending.sum (b.tally txs) := by
  rw [sum_tally]
  refine congrArg List.sum (List.map_congr_left fun t ht => ?_)
  have hfund : b.fund ∈ spending.funds t := by
    have hnamed := t.mem_funds.mpr (Budget.touches_of_mem_scope ht)
    cases spending <;> first | exact absurd rfl h | exact hnamed
  simp only [amount, hfund, and_true]

/-- A budget counts the reservations that its fund is the sender of. -/
theorem sum_amount_reserved (b : Budget) (txs : List Transaction) :
    ((b.scope txs).map reserved.amount).sum = (b.tally txs).encumbered +
      (((b.scope txs).filter fun t => t.kind == .encumbrance && !t.hasRole b.fund .sender).map (·.minorAmount)).sum := by
  have hsent : (b.tally txs).encumbered = ((b.scope txs).map fun t =>
      if t.kind = .encumbrance ∧ b.fund ∈ t.fromFund.toList then t.minorAmount else 0).sum := sum_tally reserved b txs
  rw [hsent, sum_map_filter, ← List.sum_map_add]
  refine congrArg List.sum (List.map_congr_left fun t _ => ?_)
  unfold amount Transaction.hasRole
  by_cases hkind : t.kind = .encumbrance <;> by_cases hsender : t.fromFund = some b.fund <;>
    simp [kind, hkind, hsender]

end Spending

/-! ## Lines -/

section Lines

variable {c : Currency} {classes : List ExpenseClass} {txs : List Transaction}

/-- Amounts that are rounded already, and have room together, are added exactly. -/
theorem isExactAt_of_rounded {p : Nat} (hrounded : ∀ t ∈ txs, t.amount.Counts p t.minorAmount)
    (small : volume txs < mantissaLimit) : IsExactAt p txs where
  whole := fun t ht => ⟨_, hrounded t ht⟩
  small := by
    have hvolume : volume txs = (txs.map fun t => (t.amount.minor p).natAbs).sum :=
      congrArg List.sum (List.map_congr_left fun t ht => by rw [(hrounded t ht).minor_eq])
    exact hvolume ▸ small

/-- The value of the transactions of one kind. -/
theorem sum_unitsOfKind {p : Nat} (spending : Spending) (hrounded : ∀ t ∈ txs, t.amount.Counts p t.minorAmount) :
    (txs.map (·.unitsOfKind spending.kind)).sum = (txs.map spending.amount).sum * Decimal.minorUnit p := by
  rw [← List.sum_map_mul_right]
  refine congrArg List.sum (List.map_congr_left fun t ht => ?_)
  have hunits : t.amount.units = t.minorAmount * Decimal.minorUnit p := hrounded t ht
  unfold Transaction.unitsOfKind Spending.amount
  split
  · exact hunits
  · exact (Int.zero_mul _).symm

theorem sum_expendedUnits {p : Nat} (hrounded : ∀ t ∈ txs, t.amount.Counts p t.minorAmount) :
    (txs.map (·.expendedUnits)).sum =
      ((txs.map Spending.paid.amount).sum - (txs.map Spending.credited.amount).sum) * Decimal.minorUnit p := by
  rw [Int.sub_mul, ← sum_unitsOfKind .paid hrounded, ← sum_unitsOfKind .credited hrounded, ← sum_map_sub]
  rfl

/-- Nothing is left over when every transaction has one of the classes. -/
theorem unlisted_eq_nil (hclassed : ∀ t ∈ txs, ∃ expenseClass ∈ classes, t.expenseClass = some expenseClass.id) :
    unlisted classes txs = [] := by
  refine List.filter_eq_nil_iff.mpr fun t ht => ?_
  obtain ⟨expenseClass, hmem, hclass⟩ := hclassed t ht
  simpa using ⟨expenseClass, hmem, hclass⟩

/-- The lines together have what the transactions come to, unless a share has no room. -/
theorem expenseClassTotals_addUp (hids : (classes.map (·.id)).Nodup)
    (hclassed : ∀ t ∈ txs, ∃ expenseClass ∈ classes, t.expenseClass = some expenseClass.id)
    (hrounded : ∀ t ∈ txs, t.amount.Counts c.minorUnits t.minorAmount) (small : volume txs < mantissaLimit) :
    (∃ lines, expenseClassTotals classes txs c = .ok lines ∧
        (lines.map (·.encumbered.units)).sum =
          (txs.map Spending.reserved.amount).sum * Decimal.minorUnit c.minorUnits ∧
        (lines.map (·.awaitingPayment.units)).sum =
          (txs.map Spending.awaiting.amount).sum * Decimal.minorUnit c.minorUnits ∧
        (lines.map (·.expended.units)).sum =
          ((txs.map Spending.paid.amount).sum - (txs.map Spending.credited.amount).sum) *
            Decimal.minorUnit c.minorUnits) ∨
      ∃ part whole operation,
        whole.Counts c.minorUnits ((txs.map Spending.paid.amount).sum - (txs.map Spending.credited.amount).sum) ∧
        percentage part whole = .error operation ∧ expenseClassTotals classes txs c = .error operation := by
  rcases expenseClassTotals_cases (isExactAt_of_rounded hrounded small) classes with
    ⟨lines, hlines, heach⟩ | ⟨_, _, part, whole, operation, _, _, hwhole, hshare, herror⟩
  · obtain ⟨hencumbered, hawaiting, hexpended⟩ := isPartition_of_lines hids heach
    simp only [unlisted_eq_nil hclassed, List.map_nil, List.sum_nil, add_zero] at hencumbered hawaiting hexpended
    exact .inl ⟨lines, hlines, hencumbered.trans (sum_unitsOfKind .reserved hrounded),
      hawaiting.trans (sum_unitsOfKind .awaiting hrounded), hexpended.trans (sum_expendedUnits hrounded)⟩
  · exact .inr ⟨_, _, operation, hwhole.trans (sum_expendedUnits hrounded), hshare, herror⟩

end Lines

/-! ## Breakdowns of budgets -/

namespace Store

variable {s s' : Store} {calls : List Call} {b : Budget}

/-- The expense classes that a budget is linked to, in the order of their identifiers. -/
def classesOf (s : Store) (b : Budget) : List ExpenseClass :=
  (ascending (((byBudget b.id).filter s.budgetExpenseClasses.records).map (·.expenseClass))).filterMap
    s.expenseClasses.find?

theorem mem_classesOf {expenseClass : ExpenseClass} :
    expenseClass ∈ s.classesOf b ↔ expenseClass ∈ s.expenseClasses ∧
      ∃ link ∈ s.budgetExpenseClasses, link.budget = b.id ∧ link.expenseClass = expenseClass.id := by
  unfold classesOf
  simp only [List.mem_filterMap, mem_ascending, byBudget_filter, List.mem_map, List.mem_filter, decide_eq_true_eq,
    Table.find?_eq_some_iff]
  constructor
  · rintro ⟨id, ⟨link, ⟨hlink, hbudget⟩, rfl⟩, hmem, hid⟩
    exact ⟨hmem, link, hlink, hbudget, hid.symm⟩
  · rintro ⟨hmem, link, hlink, hbudget, hclass⟩
    exact ⟨_, ⟨link, ⟨hlink, hbudget⟩, rfl⟩, hmem, hclass.symm⟩

theorem nodup_classesOf (s : Store) (b : Budget) : ((s.classesOf b).map (·.id)).Nodup := by
  have hnodup : (s.classesOf b).Nodup := (nodup_ascending _).filterMap fun id id' x hx hx' =>
    (Table.find?_eq_some_iff.mp hx).2.symm.trans (Table.find?_eq_some_iff.mp hx').2
  exact hnodup.map_on fun x hx y hy hid => Table.eq_of_id_eq (mem_classesOf.mp hx).1 (mem_classesOf.mp hy).1 hid

/-- The breakdown of a budget is that of its transactions into its classes. -/
theorem perform_expenseClassTotals (hb : b ∈ s.budgets) :
    s.perform (.expenseClassTotals (.budget b.id) b.fiscalYear) =
      ((FundLedger.expenseClassTotals (s.classesOf b) (b.scope s.transactions.records) b.currency).mapError
        Failure.overflow, s) := by
  have hfound : s.budgets.find? b.id = some b := Table.find?_eq_some_iff.mpr ⟨hb, rfl⟩
  have hget : s.perform (Operation.budgetsIn b.fiscalYear (.budget b.id)) = (.ok [b], s) := by
    unfold Operation.budgetsIn
    rw [perform_bind, perform_request]
    simp only [answer, hfound]
    rfl
  have hlinks : s.perform ([b].mapM fun b => Operation.request (.queryBudgetExpenseClasses (byBudget b.id))) =
      (.ok ([b].map fun b => (byBudget b.id).filter s.budgetExpenseClasses.records), s) := perform_mapM fun _ _ => rfl
  have htransactions : s.perform (Operation.request (.transactionsByFunds ([b].map (·.fund)) b.fiscalYear [])) =
      (.ok (b.scope s.transactions.records), s) := by
    rw [← b.history_eq_scope]
    rfl
  have hclasses : s.perform (Operation.request (.getExpenseClasses (ascending
      (([b].map fun b => (byBudget b.id).filter s.budgetExpenseClasses.records).flatten.map (·.expenseClass))))) =
        (.ok (s.classesOf b), s) := by
    rw [List.map_singleton, List.flatten_singleton]
    rfl
  unfold Operation.expenseClassTotals
  rw [perform_bind, hget]
  dsimp only
  rw [perform_bind, htransactions]
  dsimp only
  rw [perform_bind, hlinks]
  dsimp only
  rw [perform_bind, hclasses]
  rfl

/-- Every transaction of a budget has an expense class that is stored and that the budget is linked to. -/
def IsClassed (s : Store) (b : Budget) : Prop :=
  ∀ t ∈ b.scope s.transactions.records, ∃ expenseClass ∈ s.expenseClasses, t.expenseClass = some expenseClass.id ∧
    ∃ link ∈ s.budgetExpenseClasses, link.budget = b.id ∧ link.expenseClass = expenseClass.id

/-- The reservations of a budget's transactions that are not the budget's own: its fund is to receive the money. -/
def foreignReservations (s : Store) (b : Budget) : List Transaction :=
  (b.scope s.transactions.records).filter fun t => t.kind == .encumbrance && !t.hasRole b.fund .sender

/-- The lines of a breakdown together are what a budget holds, with the reservations of other funds besides. -/
structure BreaksDown (s : Store) (b : Budget) (lines : List ExpenseClassTotal) : Prop where
  encumbered : (lines.map (·.encumbered.units)).sum =
    b.totals.encumbered.units + ((s.foreignReservations b).map (·.amount.units)).sum
  awaitingPayment : (lines.map (·.awaitingPayment.units)).sum = b.totals.awaitingPayment.units
  expended : (lines.map (·.expended.units)).sum = b.totals.expenditures.units - b.totals.credits.units

/-- What the lines of a budget's breakdown come to, or else the share that had no room. -/
theorem Consistent.breakdown (h : s.Consistent) (hbacked : s.Backed) (small : s.volume < 2 ^ 94) (hb : b ∈ s.budgets)
    (hclassed : s.IsClassed b) :
    (∃ lines, (s.perform (.expenseClassTotals (.budget b.id) b.fiscalYear)).1 = .ok lines ∧ s.BreaksDown b lines) ∨
      ∃ part whole operation, whole.units = b.totals.expenditures.units - b.totals.credits.units ∧
        percentage part whole = .error operation ∧
        (s.perform (.expenseClassTotals (.budget b.id) b.fiscalYear)).1 = .error (.overflow operation) := by
  have hstored : ∀ t ∈ b.scope s.transactions.records, t ∈ s.transactions := fun t ht => List.mem_of_mem_filter ht
  have hrounded : ∀ t ∈ b.scope s.transactions.records, t.amount.Counts b.currency.minorUnits t.minorAmount := by
    intro t ht
    rw [← h.currency b hb t (hstored t ht) (List.mem_filter.mp ht).2]
    exact hbacked.rounded t (hstored t ht)
  have hsmall : FundLedger.volume (b.scope s.transactions.records) < mantissaLimit := by
    have hle : FundLedger.volume (b.scope s.transactions.records) ≤ s.volume := volume_le_of_sublist List.filter_sublist
    unfold mantissaLimit
    omega
  have hclasses : ∀ t ∈ b.scope s.transactions.records, ∃ expenseClass ∈ s.classesOf b,
      t.expenseClass = some expenseClass.id := by
    intro t ht
    obtain ⟨expenseClass, hmem, hclass, hlink⟩ := hclassed t ht
    exact ⟨expenseClass, mem_classesOf.mpr ⟨hmem, hlink⟩, hclass⟩
  -- the amounts that the budget keeps, by its tally
  have hheld : ∀ spending : Spending, (spending.sum b.totals.toSums).units =
      spending.sum (b.tally s.transactions.records) * Decimal.minorUnit b.currency.minorUnits := fun spending =>
    spending.counts_sum (h.holds small hb).sums
  have hforeign : ((s.foreignReservations b).map (·.amount.units)).sum =
      ((s.foreignReservations b).map (·.minorAmount)).sum * Decimal.minorUnit b.currency.minorUnits := by
    rw [← List.sum_map_mul_right]
    exact congrArg List.sum (List.map_congr_left fun t ht => hrounded t (List.mem_of_mem_filter ht))
  have hpaid := hheld .paid
  have hcredited := hheld .credited
  have hawaiting := hheld .awaiting
  have hreserved := hheld .reserved
  simp only [Spending.sum] at hpaid hcredited hawaiting hreserved
  have hnet : ((b.scope s.transactions.records).map Spending.paid.amount).sum -
      ((b.scope s.transactions.records).map Spending.credited.amount).sum =
        (b.tally s.transactions.records).expenditures - (b.tally s.transactions.records).credits := by
    rw [Spending.sum_amount (by decide), Spending.sum_amount (by decide)]
    rfl
  rw [perform_expenseClassTotals hb]
  rcases expenseClassTotals_addUp (nodup_classesOf s b) hclasses hrounded hsmall with
    ⟨lines, hlines, hencumbered, hpending, hexpended⟩ | ⟨part, whole, operation, hwhole, hshare, hlines⟩
  · refine .inl ⟨lines, by rw [hlines]; rfl, ?_, ?_, ?_⟩
    · rw [hencumbered, Spending.sum_amount_reserved, Int.add_mul, hreserved, hforeign]
      rfl
    · rw [hpending, Spending.sum_amount (by decide), hawaiting]
      rfl
    · rw [hexpended, hnet, Int.sub_mul, hpaid, hcredited]
  · refine .inr ⟨part, whole, operation, ?_, hshare, by rw [hlines]; rfl⟩
    rw [hwhole, hnet, Int.sub_mul, hpaid, hcredited]

/-- After any run of calls on a ledger without transactions whose budgets are empty: the lines of the breakdown of a
budget all of whose transactions are classed come to what the budget holds, and what other funds reserved for its fund
besides.  There is no breakdown only if a share of what is expended has no room in a decimal. -/
theorem Run.breakdown_addsUp (hrun : s.Run calls s') (hnone : s.transactions.records = []) (hone : s.OneBudget)
    (hzero : ∀ b ∈ s.budgets, b.totals ≈ Totals.zero) (small : (calls.map Call.volume).sum < 2 ^ 94)
    (hb : b ∈ s'.budgets) (hclassed : s'.IsClassed b) :
    (∃ lines, (s'.perform (.expenseClassTotals (.budget b.id) b.fiscalYear)).1 = .ok lines ∧ s'.BreaksDown b lines) ∨
      ∃ part whole operation, whole.units = b.totals.expenditures.units - b.totals.credits.units ∧
        percentage part whole = .error operation ∧
        (s'.perform (.expenseClassTotals (.budget b.id) b.fiscalYear)).1 = .error (.overflow operation) := by
  obtain ⟨hconsistent, hbacked, hvolume⟩ := hrun.of_no_transactions hnone hone hzero small
  exact hconsistent.breakdown hbacked hvolume hb hclassed

/-- Two funds with an expense class that both budgets are linked to. -/
def twoFundsOneClass : Store :=
  { twoFunds with
    expenseClasses := .ofList [.create 41 "print"]
    budgetExpenseClasses := .ofList [.create 31 11 41, .create 32 12 41] }

/-- Twenty dollars that the first fund reserves for the second. -/
def reservationForJournals : Transaction :=
  { reservationForClass with toFund := some 2 }

/-- The breakdown of the second fund's budget has the money, and the budget itself does not. -/
theorem breakdown_counts_reservation_of_sender :
    let s' := (twoFundsOneClass.perform (Call.create reservationForJournals).operation).2
    ∃ b ∈ s'.budgets, b.id = 12 ∧ s'.IsClassed b ∧ b.totals.encumbered = .zero ∧
      ∃ lines, (s'.perform (.expenseClassTotals (.budget b.id) b.fiscalYear)).1 = .ok lines ∧
        s'.BreaksDown b lines ∧ lines.map (·.encumbered) = [20.00] := by
  intro s'
  have hnew : Call.IsNew twoFundsOneClass (.create reservationForJournals) := by
    change twoFundsOneClass.transactions.find? reservationForJournals.id = none
    decide
  have hzero : ∀ b ∈ twoFundsOneClass.budgets.records, b.totals ≈ Totals.zero := by decide
  have hclassed : ∀ b ∈ s'.budgets.records, ∀ t ∈ b.scope s'.transactions.records,
      ∃ expenseClass ∈ s'.expenseClasses.records, t.expenseClass = some expenseClass.id ∧
        ∃ link ∈ s'.budgetExpenseClasses.records, link.budget = b.id ∧ link.expenseClass = expenseClass.id := by
    decide +kernel
  have hheld : ∀ b ∈ s'.budgets.records, b.id = 12 → b.totals.encumbered = .zero ∧ b.fiscalYear = 9 := by decide +kernel
  have hlines : (s'.perform (.expenseClassTotals (.budget 12) 9)).1.toOption.map (·.map (·.encumbered)) = some [20.00] := by
    decide +kernel
  have hfound : (s'.budgets.find? 12).isSome = true := by decide +kernel
  obtain ⟨b, hb⟩ := Option.isSome_iff_exists.mp hfound
  obtain ⟨hmem, hid⟩ := Table.find?_eq_some_iff.mp hb
  obtain ⟨hempty, hyear⟩ := hheld b hmem hid
  refine ⟨b, hmem, hid, hclassed b hmem, hempty, ?_⟩
  have hid' : b.id = 12 := hid
  rw [← hid', ← hyear] at hlines
  rcases Run.breakdown_addsUp (.snoc .nil hnew) rfl consistent_twoFunds.oneBudget hzero (by decide) hmem
    (hclassed b hmem) with ⟨lines, hok, hsum⟩ | ⟨_, _, _, -, -, herror⟩
  · rw [hok] at hlines
    exact ⟨lines, hok, hsum, Option.some.inj hlines⟩
  · rw [herror] at hlines
    cases hlines

end Store

end FundLedger
