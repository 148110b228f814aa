import FundLedger.Proofs.Legality
import FundLedger.Proofs.Repair
/-!
# Overflows while a transaction is recorded

A refused transaction leaves no trace.  A screened one is stored first and then applied to its budgets one after the
other, and when the totals of one of them overflow, it stays where it was: it is stored, the budgets before that one count
it, and everything else is as it was.  For the budgets that it does not concern nothing has changed then, neither what is
stored nor what recalculation finds; any other budget can be recalculated only if the new transaction can be added up with
the rest.

* `Store.IsCutShort`: what an overflow leaves.
* `Store.perform_recalculateBudget_fst`: when a budget can be recalculated, and to what.
* `Store.OneBudget.createTransaction_outcome`: what comes of a transaction, and when.
-/

namespace FundLedger

namespace Store

variable {s t : Store} {tx : Transaction} {b : Budget}

/-! ## Recalculation -/

/-- What recalculation of a stored budget returns. -/
theorem perform_recalculateBudget_fst (hb : b ∈ s.budgets) :
    (s.perform (.recalculateBudget b.id)).1 =
      ((b.recompute s.transactions.records).map fun totals =>
        (⟨{ b with totals, version := b.version + 1 }, b.totals.drift totals⟩ : Reconciliation)).mapError .overflow := by
  rw [perform_recalculateBudget_eq hb]
  cases hrecompute : b.recompute s.transactions.records with
  | ok totals =>
    rw [perform_recalculate_of_recompute hb hrecompute]
    rfl
  | error o =>
    have hreconcile :
        b.reconcile (s.transactions.records.filter fun t => t.isAmong [b.fund] b.fiscalYear []) = .error o := by
      unfold Budget.reconcile
      rw [Budget.recompute_of_scope_eq (b.scope_historyOf _), hrecompute]
      rfl
    unfold Operation.recalculate
    rw [perform_bind, perform_historyOf]
    simp only [perform_bind, perform_ofArithmetic, hreconcile, Except.mapError]
    rfl

/-- A budget can be recalculated unless its transactions overflow. -/
theorem recalculates_iff (hb : b ∈ s.budgets) :
    (∃ reconciliation, (s.perform (.recalculateBudget b.id)).1 = .ok reconciliation) ↔
      ∃ totals, b.recompute s.transactions.records = .ok totals := by
  rw [perform_recalculateBudget_fst hb]
  cases b.recompute s.transactions.records with
  | ok totals => exact iff_of_true ⟨_, rfl⟩ ⟨totals, rfl⟩
  | error o =>
    refine iff_of_false ?_ ?_
    · rintro ⟨_, h⟩
      cases h
    · rintro ⟨_, h⟩
      cases h

/-- Recalculation depends on the budget and on the transactions in its scope alone. -/
theorem perform_recalculateBudget_congr {id : BudgetId} (hfind : t.budgets.find? id = s.budgets.find? id)
    (hscope : ∀ b ∈ s.budgets, b.id = id → b.scope t.transactions.records = b.scope s.transactions.records) :
    (t.perform (.recalculateBudget id)).1 = (s.perform (.recalculateBudget id)).1 := by
  cases hstored : s.budgets.find? id with
  | none =>
    have hunknown : ∀ u : Store, u.budgets.find? id = none →
        (u.perform (.recalculateBudget id)).1 = .error (StoreError.notFound .budgets id.text).toFailure := by
      intro u hu
      unfold Operation.recalculateBudget
      rw [perform_bind, perform_getBudget_of_none hu]
    rw [hunknown s hstored, hunknown t (hfind.trans hstored)]
  | some b =>
    obtain ⟨hb, rfl⟩ := Table.find?_eq_some_iff.mp hstored
    obtain ⟨hb', -⟩ := Table.find?_eq_some_iff.mp (hfind.trans hstored)
    change (t.perform (.recalculateBudget b.id)).1 = (s.perform (.recalculateBudget b.id)).1
    rw [perform_recalculateBudget_fst hb, perform_recalculateBudget_fst hb',
      Budget.recompute_of_scope_eq (hscope b hb rfl)]

/-! ## What is left -/

/-- The transaction is stored, its effect on the first `k` of its budgets is written, it overflows at the next one, and
all other records are as they were. -/
structure IsCutShort (s : Store) (tx : Transaction) (k : Nat) (o : Overflow) (left : Store) : Prop where
  overflow : ∃ b, (s.budgetsOf tx)[k]? = some b ∧ b.applyWithHistory tx (s.historyFor tx) = .error o
  others : left = { s with transactions := s.transactions.put tx, budgets := left.budgets }
  written : ∀ b ∈ (s.budgetsOf tx).take k, ∃ totals, b.applyWithHistory tx (s.historyFor tx) = .ok { b with totals } ∧
    { b with totals, version := b.version + 1 } ∈ left.budgets
  unwritten : ∀ b ∈ s.budgets, b ∉ (s.budgetsOf tx).take k → b ∈ left.budgets
  ids : ∀ c ∈ left.budgets, ∃ b ∈ s.budgets, c.id = b.id

theorem OverflowsAt.isCutShort {k : Nat} {o : Overflow} (h : OverflowsAt tx (s.historyFor tx) (s.budgetsOf tx) k o) :
    s.IsCutShort tx k o (s.partlyRecorded tx k) where
  overflow := h.here
  others := s.partlyRecorded_eq tx k
  written := by
    intro b hb
    obtain ⟨b', happly⟩ := h.before b hb
    obtain ⟨totals, rfl⟩ := Budget.applyWithHistory_eq_ok happly
    exact ⟨totals, happly, mem_partlyRecorded.mpr (.inl ⟨b, hb, by rw [Budget.applied_eq happly]⟩)⟩
  unwritten := fun _ => mem_partlyRecorded_of_unwritten
  ids := fun _ => exists_id_of_mem_partlyRecorded

/-- A budget that the transaction does not concern is stored as before, or still is not there. -/
theorem IsCutShort.find?_eq {k : Nat} {o : Overflow} (h : s.IsCutShort tx k o t) {id : BudgetId}
    (hid : ∀ b ∈ s.budgets, b.id = id → b.covers tx = false) : t.budgets.find? id = s.budgets.find? id := by
  cases hstored : s.budgets.find? id with
  | none =>
    refine Table.find?_eq_none_iff.mpr fun c hc => ?_
    obtain ⟨b, hb, hsame⟩ := h.ids c hc
    exact fun hcid => Table.find?_eq_none_iff.mp hstored b hb (hsame.symm.trans hcid)
  | some b =>
    obtain ⟨hb, hbid⟩ := Table.find?_eq_some_iff.mp hstored
    refine Table.find?_eq_some_iff.mpr ⟨h.unwritten b hb fun hmem => ?_, hbid⟩
    have hcovers := (mem_of_mem_budgetsOf (List.mem_of_mem_take hmem)).2
    rw [hid b hb hbid] at hcovers
    cases hcovers

/-- The budgets that the transaction does not concern are recalculated as before. -/
theorem IsCutShort.perform_recalculateBudget {k : Nat} {o : Overflow} (h : s.IsCutShort tx k o t)
    (hfresh : s.transactions.find? tx.id = none) {id : BudgetId}
    (hid : ∀ b ∈ s.budgets, b.id = id → b.covers tx = false) :
    (t.perform (.recalculateBudget id)).1 = (s.perform (.recalculateBudget id)).1 := by
  refine perform_recalculateBudget_congr (h.find?_eq hid) fun b hb hbid => ?_
  rw [h.others]
  exact Table.filter_put hfresh (hid b hb hbid)

/-- The transaction stays. -/
theorem IsCutShort.ne {k : Nat} {o : Overflow} (h : s.IsCutShort tx k o t) (hfresh : s.transactions.find? tx.id = none) :
    t ≠ s := by
  rintro rfl
  have hmem : tx ∈ t.transactions := by
    rw [congrArg Store.transactions h.others]
    exact Table.mem_put.mpr (.inl rfl)
  exact Table.find?_eq_none_iff.mp hfresh tx hmem rfl

/-- Every budget is still stored, perhaps with other totals. -/
theorem IsCutShort.exists_stored {k : Nat} {o : Overflow} (h : s.IsCutShort tx k o t) (hb : b ∈ s.budgets) :
    ∃ totals version, { b with totals, version } ∈ t.budgets := by
  by_cases hwritten : b ∈ (s.budgetsOf tx).take k
  · obtain ⟨totals, -, hmem⟩ := h.written b hwritten
    exact ⟨totals, b.version + 1, hmem⟩
  · exact ⟨b.totals, b.version, h.unwritten b hb hwritten⟩

/-- A budget can be recalculated afterwards unless its transactions overflow together with the new one. -/
theorem IsCutShort.recalculates_iff {k : Nat} {o : Overflow} (h : s.IsCutShort tx k o t) (hb : b ∈ s.budgets) :
    (∃ reconciliation, (t.perform (.recalculateBudget b.id)).1 = .ok reconciliation) ↔
      ∃ totals, b.recompute (s.transactions.put tx).records = .ok totals := by
  obtain ⟨totals, version, hstored⟩ := h.exists_stored hb
  have htransactions : t.transactions = s.transactions.put tx := congrArg Store.transactions h.others
  have hiff := Store.recalculates_iff hstored
  rw [htransactions] at hiff
  exact hiff

/-! ## The outcome -/

/-- A new transaction that is not legal is refused, and everything is as before.  A legal one is accepted if there is room
for it in its budgets.  Otherwise an overflow cuts it short: it is stored, budgets that it does not concern are
recalculated as they would have been before, and any other budget can be recalculated exactly if its transactions and
the new one can be added up. -/
theorem OneBudget.createTransaction_outcome (h : s.OneBudget) (hfresh : s.transactions.find? tx.id = none) :
    (¬s.Legal tx ∧ ∃ e, s.perform (.createTransaction tx) = (.error (.finance e), s)) ∨
      (s.Legal tx ∧ s.HasRoomFor tx.normalized ∧ ∃ created, (s.perform (.createTransaction tx)).1 = .ok created) ∨
      s.Legal tx ∧ ¬s.HasRoomFor tx.normalized ∧
        ∃ k o left, s.perform (.createTransaction tx) = (.error (.overflow o), left) ∧ left ≠ s ∧
          s.IsCutShort tx.normalized k o left ∧
          (∀ id, (∀ b ∈ s.budgets, b.id = id → b.covers tx.normalized = false) →
            (left.perform (.recalculateBudget id)).1 = (s.perform (.recalculateBudget id)).1) ∧
          ∀ b ∈ s.budgets, (∃ reconciliation, (left.perform (.recalculateBudget b.id)).1 = .ok reconciliation) ↔
            ∃ totals, b.recompute (s.transactions.put tx.normalized).records = .ok totals := by
  rw [Operation.createTransaction_eq, perform_bind]
  rcases perform_screen_cases h tx with ⟨hlegal, hscreen⟩ | ⟨hillegal, e, hscreen⟩
  swap
  · rw [hscreen]
    exact .inl ⟨hillegal, e, rfl⟩
  rw [hscreen]
  by_cases hroom : s.HasRoomFor tx.normalized
  · exact .inr (.inl ⟨hlegal, hroom, tx.normalized, congrArg Prod.fst (perform_record hroom.apply)⟩)
  · obtain ⟨k, o, hover, hrecord⟩ := perform_record_of_not_hasRoomFor hroom
    have hleft := hover.isCutShort
    exact .inr (.inr ⟨hlegal, hroom, k, o, s.partlyRecorded tx.normalized k, hrecord, hleft.ne hfresh, hleft,
      fun _ hid => hleft.perform_recalculateBudget hfresh hid, fun _ hb => hleft.recalculates_iff hb⟩)

/-! ## A full budget -/

/-- An allocation to the second fund. -/
def allocationToJournals (id : TransactionId) (amount : Decimal) : Transaction :=
  { Transaction.create id .allocation amount .usd 9 ⟨0, 0⟩ with toFund := some 2 }

/-- The second fund has the largest amount that there is. -/
def fullJournals : Store :=
  (twoFunds.perform (.createTransaction (allocationToJournals 21 79228162514264337593543950335e0))).2

theorem consistent_fullJournals : fullJournals.Consistent where
  oneBudget := by
    change ∀ b ∈ fullJournals.budgets.records, ∀ b' ∈ fullJournals.budgets.records,
      b.fund = b'.fund → b.fiscalYear = b'.fiscalYear → b = b'
    decide +kernel
  currency := by
    change ∀ b ∈ fullJournals.budgets.records, ∀ tx ∈ fullJournals.transactions.records,
      b.covers tx = true → tx.currency = b.currency
    decide +kernel
  totals := by
    have hrecompute : ∀ b ∈ fullJournals.budgets.records,
        (b.recompute fullJournals.transactions.records).toOption.any (fun t => decide (b.totals ≈ t)) = true := by
      decide +kernel
    intro b hb
    have hb' := hrecompute b hb
    unfold Budget.Reflects
    cases hr : b.recompute fullJournals.transactions.records with
    | error o =>
      rw [hr] at hb'
      cases hb'
    | ok t =>
      rw [hr] at hb'
      exact ⟨t, rfl, of_decide_eq_true hb'⟩

/-- A transfer to the second fund is stored and counted by the budget of the first fund before it overflows.  The other
budget could be recalculated before and cannot be recalculated any more. -/
theorem transfer_cut_short_before_journals :
    fullJournals.Consistent ∧ fullJournals.transactions.find? transferToJournals.id = none ∧
      ∃ k left, fullJournals.perform (.createTransaction transferToJournals) = (.error (.overflow .addition), left) ∧
        left ≠ fullJournals ∧ fullJournals.IsCutShort transferToJournals.normalized k .addition left ∧
        (fullJournals.transactions.records.map (·.id) = [21] ∧ left.transactions.records.map (·.id) = [21, 22]) ∧
        (fullJournals.budgets.records.map (·.version) = [0, 1] ∧ left.budgets.records.map (·.version) = [1, 1]) ∧
        (∃ reconciliation, (fullJournals.perform (.recalculateBudget 12)).1 = .ok reconciliation) ∧
        (left.perform (.recalculateBudget 12)).1 = .error (.overflow .addition) := by
  have hfresh : fullJournals.transactions.find? transferToJournals.id = none := by decide +kernel
  have hoverflow : (fullJournals.perform (.createTransaction transferToJournals)).1 = .error (.overflow .addition) := by
    decide +kernel
  have hbefore : (fullJournals.perform (.recalculateBudget 12)).1.toOption.isSome = true := by decide +kernel
  refine ⟨consistent_fullJournals, hfresh, ?_⟩
  rcases OneBudget.createTransaction_outcome consistent_fullJournals.oneBudget hfresh with
    ⟨-, e, hrefused⟩ | ⟨-, -, created, hok⟩ | ⟨-, -, k, o, left, hperform, hne, hleft, -⟩
  · rw [hrefused] at hoverflow
    cases hoverflow
  · cases hoverflow.symm.trans hok
  obtain rfl : left = (fullJournals.perform (.createTransaction transferToJournals)).2 := by rw [hperform]
  obtain rfl : o = .addition := by
    rw [hperform] at hoverflow
    exact Failure.overflow.inj (Except.error.inj hoverflow)
  refine ⟨k, _, hperform, hne, hleft, ⟨?_, ?_⟩, ⟨?_, ?_⟩, ?_, ?_⟩
  · decide +kernel
  · decide +kernel
  · decide +kernel
  · decide +kernel
  · cases hresult : (fullJournals.perform (.recalculateBudget 12)).1 with
    | error failure =>
      rw [hresult] at hbefore
      cases hbefore
    | ok reconciliation => exact ⟨reconciliation, rfl⟩
  · decide +kernel

end Store

end FundLedger
