import FundLedger.Operation.Budget
import FundLedger.Proofs.AccountCalls
/-!
# Operations that keep a store consistent

What the other operations do to a consistent store.  Each of them either fails before it writes anything, or it leaves a
consistent store with the same amounts.

* `Store.Change`: what an operation makes of the transactions and budgets of a store.
* `Store.Keeps`: what is common to all of them.
* `Store.Consistent.recalculate`: recomputed totals are those that were there, by value.
* `Store.Consistent.accountCall` and the other operations.
-/

namespace FundLedger

namespace Budget

variable (b : Budget) (txs : List Transaction)

/-- The history that is asked for is the scope of the budget. -/
theorem history_eq_scope : (txs.filter fun t => t.isAmong [b.fund] b.fiscalYear []) = b.scope txs := by
  unfold scope
  refine List.filter_congr fun t _ => ?_
  simp [Transaction.isAmong]

theorem scope_historyOf : b.scope (txs.filter fun t => t.isAmong [b.fund] b.fiscalYear []) = b.scope txs := by
  rw [history_eq_scope]
  unfold scope
  rw [List.filter_filter]
  simp only [Bool.and_self]

/-- The recomputed totals depend on the transactions in the scope of the budget only. -/
theorem recompute_of_scope_eq {b : Budget} {txs txs' : List Transaction} (h : b.scope txs = b.scope txs') :
    b.recompute txs = b.recompute txs' := by
  unfold recompute
  rw [h]

theorem reconcile_historyOf {totals : Totals Decimal} (h : b.recompute txs = .ok totals) :
    b.reconcile (txs.filter fun t => t.isAmong [b.fund] b.fiscalYear []) =
      .ok ⟨{ b with totals }, b.totals.drift totals⟩ := by
  unfold reconcile
  rw [recompute_of_scope_eq (b.scope_historyOf txs), h]
  rfl

end Budget

namespace Store

variable {α : Type} {s : Store} {b : Budget}

/-- What becomes of the transactions and budgets of a store. -/
inductive Change (s : Store) : Store → Prop
  /-- An admitted transaction is recorded and applied to its budgets. -/
  | recorded {tx : Transaction} {context : AdmissionContext} (hfresh : s.transactions.find? tx.id = none)
      (hcontext : context.budgets = s.budgetsOf tx.normalized) (hadmission : tx.normalized.admission context = .ok ()) :
      Change s (s.recorded tx.normalized)
  /-- The account of a reservation is another one. -/
  | accounted {tx tx' : Transaction} (htx : tx ∈ s.transactions) (hbare : tx'.bare = tx.bare) :
      Change s { s with transactions := s.transactions.put tx' }
  /-- Totals are written anew, if any. -/
  | rewritten {s' : Store} (htransactions : s'.transactions = s.transactions) (hbudgets : s.SameBudgets s') : Change s s'
  /-- A budget without transactions is deleted. -/
  | deleted {b : Budget} {s' : Store} (hb : b ∈ s.budgets) (hscope : b.scope s.transactions.records = [])
      (htransactions : s'.transactions = s.transactions) (hbudgets : s'.budgets = s.budgets.erase b.id) : Change s s'

/-- The store is consistent afterwards, its amounts have grown by at most `extra`, it has changed in one of some ways,
and it is the same as before if there was a failure. -/
structure Keeps (s : Store) (extra : Nat) (outcome : Except Failure α × Store) : Prop where
  consistent : outcome.2.Consistent
  volume_le : outcome.2.volume ≤ s.volume + extra
  unchanged : ∀ failure, outcome.1 = .error failure → outcome.2 = s
  change : s.Change outcome.2

/-- A failure that leaves the store alone. -/
theorem Consistent.keeps_error (h : s.Consistent) (extra : Nat) (failure : Failure) :
    s.Keeps extra ((.error failure, s) : Except Failure α × Store) :=
  ⟨h, Nat.le_add_right .., fun _ _ => rfl, .rewritten rfl (.of_eq rfl)⟩

/-- A result with the same transactions. -/
theorem keeps_ok {s' : Store} (h : s'.Consistent) (htransactions : s'.transactions = s.transactions)
    (hchange : s.Change s') (a : α) : s.Keeps 0 ((.ok a, s') : Except Failure α × Store) := by
  refine ⟨h, ?_, fun failure he => (by cases he), hchange⟩
  unfold volume
  rw [htransactions]
  exact Nat.le_refl _

theorem perform_getBudget_eq (s : Store) (id : BudgetId) :
    s.perform (Operation.request (.getBudget id)) =
      ((found .budgets id (s.budgets.find? id)).mapError StoreError.toFailure, s) := rfl

theorem perform_getBudget_of_none {id : BudgetId} (hfind : s.budgets.find? id = none) :
    s.perform (Operation.request (.getBudget id)) = (.error (StoreError.notFound .budgets id.text).toFailure, s) := by
  rw [perform_getBudget_eq, hfind]
  rfl

theorem perform_getBudget_of_mem (hb : b ∈ s.budgets) :
    s.perform (Operation.request (.getBudget b.id)) = (.ok b, s) := by
  have hfind : s.budgets.find? b.id = some b := Table.find?_eq_some_iff.mpr ⟨hb, rfl⟩
  rw [perform_getBudget_eq, hfind]
  rfl

theorem perform_getBudget (s : Store) (id : BudgetId) :
    (∃ failure, s.perform (Operation.request (.getBudget id)) = (.error failure, s)) ∨
      ∃ b ∈ s.budgets, b.id = id ∧ s.perform (Operation.request (.getBudget id)) = (.ok b, s) := by
  cases hfind : s.budgets.find? id with
  | none => exact .inl ⟨_, perform_getBudget_of_none hfind⟩
  | some b =>
    obtain ⟨hb, rfl⟩ := Table.find?_eq_some_iff.mp hfind
    exact .inr ⟨b, hb, rfl, perform_getBudget_of_mem hb⟩

/-! ## Encumbrances -/

/-- A transaction written with a new account of reserved money. -/
theorem Consistent.keeps_putBare (h : s.Consistent) (small : s.volume < 2 ^ 94) {tx tx' : Transaction}
    (htx : tx ∈ s.transactions) (hbare : tx'.bare = tx.bare) (a : α) :
    s.Keeps 0 ((.ok a, { s with transactions := s.transactions.put tx' }) : Except Failure α × Store) :=
  ⟨h.putBare small htx hbare, (volume_putBare htx hbare).le, fun failure he => (by cases he), .accounted htx hbare⟩

/-- A call on the account of a reservation. -/
theorem Consistent.accountCall (h : s.Consistent) (small : s.volume < 2 ^ 94) (id : TransactionId)
    (call : AccountCall) : s.Keeps 0 (s.perform (call.operation id)) := by
  cases hfind : s.transactions.find? id with
  | none =>
    obtain ⟨failure, he⟩ := perform_accountCall_of_none hfind call
    rw [he]
    exact h.keeps_error 0 failure
  | some tx =>
    rw [perform_accountCall hfind call]
    rcases hwritten : call.written tx with failure | _ | tx'
    · exact h.keeps_error 0 failure
    · exact keeps_ok h rfl (.rewritten rfl (.of_eq rfl)) ()
    · have htx := (Table.find?_eq_some_iff.mp hfind).1
      exact h.keeps_putBare small htx (AccountCall.bare_of_written hwritten) ()

/-! ## Recalculation -/

theorem perform_historyOf (s : Store) (b : Budget) :
    s.perform (Operation.historyOf b) =
      (.ok (s.transactions.records.filter fun t => t.isAmong [b.fund] b.fiscalYear []), s) := rfl

/-- The totals of a stored budget are recomputed, and written; what they differed in is reported. -/
theorem perform_recalculate_of_recompute {totals : Totals Decimal} (hb : b ∈ s.budgets)
    (hrecompute : b.recompute s.transactions.records = .ok totals) :
    s.perform (Operation.recalculate b) =
      (.ok ⟨{ b with totals, version := b.version + 1 }, b.totals.drift totals⟩, s.write { b with totals }) := by
  have hwrite : s.perform (Operation.request (.updateBudget { b with totals })) =
      (.ok { b with totals, version := b.version + 1 }, s.write { b with totals }) :=
    perform_updateBudget_of_mem hb rfl rfl
  unfold Operation.recalculate
  rw [perform_bind, perform_historyOf]
  simp only [perform_bind, perform_ofArithmetic, b.reconcile_historyOf _ hrecompute, Except.mapError, hwrite, perform_pure]

theorem perform_recalculate (hb : b ∈ s.budgets) (hcount : b.Countable s.transactions.records) :
    ∃ totals reconciliation, s.perform (Operation.recalculate b) = (.ok reconciliation, s.write { b with totals }) ∧
      { b with totals, version := b.version + 1 }.Reflects s.transactions.records := by
  obtain ⟨totals, hrecompute, hcounts⟩ := Budget.recompute_counts hcount
  exact ⟨totals, _, perform_recalculate_of_recompute hb hrecompute,
    (Budget.reflects_iff (hcount.withTotals totals (b.version + 1))).mpr hcounts⟩

/-- A stored budget is found by its identifier. -/
theorem perform_recalculateBudget_eq (hb : b ∈ s.budgets) :
    s.perform (.recalculateBudget b.id) = s.perform (Operation.recalculate b) := by
  unfold Operation.recalculateBudget
  rw [perform_bind, perform_getBudget_of_mem hb]

theorem perform_recalculateBudget (hb : b ∈ s.budgets) (hcount : b.Countable s.transactions.records) :
    ∃ totals reconciliation, s.perform (.recalculateBudget b.id) = (.ok reconciliation, s.write { b with totals }) ∧
      { b with totals, version := b.version + 1 }.Reflects s.transactions.records := by
  rw [perform_recalculateBudget_eq hb]
  exact perform_recalculate hb hcount

theorem Consistent.recalculate (h : s.Consistent) (small : s.volume < 2 ^ 94) (hb : b ∈ s.budgets) :
    ∃ totals reconciliation, s.perform (Operation.recalculate b) = (.ok reconciliation, s.write { b with totals }) ∧
      (s.write { b with totals }).Consistent := by
  obtain ⟨totals, reconciliation, hperform, hreflects⟩ := perform_recalculate hb (h.countable small hb)
  exact ⟨totals, reconciliation, hperform, h.putBudget hb rfl rfl rfl rfl hreflects⟩

theorem Consistent.recalculateBudget (h : s.Consistent) (small : s.volume < 2 ^ 94) (id : BudgetId) :
    s.Keeps 0 (s.perform (.recalculateBudget id)) := by
  unfold Operation.recalculateBudget
  rw [perform_bind]
  rcases s.perform_getBudget id with ⟨failure, he⟩ | ⟨b, hb, -, hok⟩
  · rw [he]
    exact h.keeps_error 0 failure
  rw [hok]
  obtain ⟨totals, reconciliation, hperform, hconsistent⟩ := h.recalculate small hb
  simp only [hperform]
  have hchange : s.Change (s.write { b with totals }) := .rewritten rfl (.write hb totals b.version)
  exact keeps_ok hconsistent (s.write_transactions _) hchange reconciliation

/-- Budgets that were read before are recalculated one after the other. -/
theorem Consistent.recalculateAll {bs : List Budget} (h : s.Consistent) (small : s.volume < 2 ^ 94)
    (hstored : ∀ b ∈ bs, b ∈ s.budgets) (hids : (bs.map (·.id)).Nodup) :
    ∃ reconciliations s', s.perform (bs.mapM Operation.recalculate) = (.ok reconciliations, s') ∧ s'.Consistent ∧
      s'.transactions = s.transactions ∧ s.SameBudgets s' := by
  induction bs generalizing s with
  | nil => exact ⟨[], s, rfl, h, rfl, .of_eq rfl⟩
  | cons b rest ih =>
    obtain ⟨totals, reconciliation, hperform, hconsistent⟩ := h.recalculate small (hstored b List.mem_cons_self)
    -- the other budgets are still stored as they were read
    obtain ⟨reconciliations, s', hrestOk, hs', htransactions, hbudgets⟩ :=
      ih hconsistent small (mem_write_of_nodup totals hids hstored) (List.nodup_cons.mp hids).2
    have hfirst : s.SameBudgets (s.write { b with totals }) := .write (hstored b List.mem_cons_self) totals b.version
    refine ⟨reconciliation :: reconciliations, s', ?_, hs', htransactions, hfirst.trans hbudgets⟩
    rw [List.mapM_cons, perform_bind, hperform]
    simp only [perform_bind, hrestOk, perform_pure]

theorem Consistent.recalculateFiscalYear (h : s.Consistent) (small : s.volume < 2 ^ 94) (fiscalYear : FiscalYearId) :
    s.Keeps 0 (s.perform (.recalculateFiscalYear fiscalYear)) := by
  have hread : s.perform (Operation.request (.queryBudgets (byFiscalYear fiscalYear))) =
      (.ok ((byFiscalYear fiscalYear).filter s.budgets.records), s) := rfl
  have hstored : ∀ b ∈ (byFiscalYear fiscalYear).filter s.budgets.records, b ∈ s.budgets := fun b hb =>
    List.mem_of_mem_filter hb
  obtain ⟨reconciliations, s', hperform, hs', htransactions, hbudgets⟩ :=
    h.recalculateAll small hstored (s.budgets.nodup_ids.sublist (List.filter_sublist.map _))
  unfold Operation.recalculateFiscalYear
  rw [perform_bind, hread]
  simp only [hperform]
  exact keeps_ok hs' htransactions (.rewritten htransactions hbudgets) reconciliations

/-! ## Deletion -/

theorem perform_deleteBudgetExpenseClass {l : BudgetExpenseClass} (hl : l ∈ s.budgetExpenseClasses) :
    s.perform (Operation.request (.deleteBudgetExpenseClass l.id)) =
      (.ok (), { s with budgetExpenseClasses := s.budgetExpenseClasses.erase l.id }) := by
  have hfind : s.budgetExpenseClasses.find? l.id = some l := Table.find?_eq_some_iff.mpr ⟨hl, rfl⟩
  change ((s.deleteBudgetExpenseClass l.id).1.mapError StoreError.toFailure, (s.deleteBudgetExpenseClass l.id).2) = _
  unfold Store.deleteBudgetExpenseClass
  rw [hfind]
  rfl

/-- Links that were read before are deleted one after the other. -/
theorem perform_deleteLinks {links : List BudgetExpenseClass} (hstored : ∀ l ∈ links, l ∈ s.budgetExpenseClasses)
    (hids : (links.map (·.id)).Nodup) :
    ∃ budgetExpenseClasses,
      s.perform (Operation.deleteLinks links) = (.ok (), { s with budgetExpenseClasses }) ∧
        ∀ l, l ∈ budgetExpenseClasses ↔ l ∈ s.budgetExpenseClasses ∧ l ∉ links := by
  induction links generalizing s with
  | nil => exact ⟨s.budgetExpenseClasses, rfl, fun l => by simp⟩
  | cons l rest ih =>
    obtain ⟨hnotin, hrest⟩ := List.nodup_cons.mp hids
    have hmem : ∀ k, k ∈ s.budgetExpenseClasses.erase l.id ↔ k ∈ s.budgetExpenseClasses ∧ k ≠ l := by
      intro k
      refine Table.mem_erase.trans (and_congr_right fun hk => not_congr ⟨fun hid => ?_, congrArg _⟩)
      exact Table.eq_of_id_eq hk (hstored l List.mem_cons_self) hid
    have hstored' : ∀ k ∈ rest, k ∈ s.budgetExpenseClasses.erase l.id := by
      intro k hk
      refine (hmem k).mpr ⟨hstored k (List.mem_cons_of_mem l hk), ?_⟩
      rintro rfl
      exact hnotin (List.mem_map_of_mem hk)
    obtain ⟨budgetExpenseClasses, hperform, hleft⟩ :=
      ih (s := { s with budgetExpenseClasses := s.budgetExpenseClasses.erase l.id }) hstored' hrest
    refine ⟨budgetExpenseClasses, ?_, fun k => ?_⟩
    · unfold Operation.deleteLinks
      rw [perform_bind, perform_deleteBudgetExpenseClass (hstored l List.mem_cons_self)]
      exact hperform
    · rw [hleft k, hmem k, List.mem_cons, not_or, and_assoc]

/-- A budget is deleted with its links if it has no transactions; otherwise nothing is. -/
theorem perform_deleteBudget (s : Store) (id : BudgetId) :
    (∃ failure, s.perform (.deleteBudget id) = (.error failure, s)) ∨
      ∃ b ∈ s.budgets, b.id = id ∧ b.scope s.transactions.records = [] ∧ ∃ budgetExpenseClasses,
        s.perform (.deleteBudget id) =
            (.ok (), { s with budgetExpenseClasses, budgets := s.budgets.erase id }) ∧
          ∀ l, l ∈ budgetExpenseClasses ↔ l ∈ s.budgetExpenseClasses ∧ l.budget ≠ id := by
  have hread : s.perform (Operation.request (.queryBudgetExpenseClasses (byBudget id))) =
      (.ok ((byBudget id).filter s.budgetExpenseClasses.records), s) := rfl
  unfold Operation.deleteBudget
  rw [perform_bind]
  rcases s.perform_getBudget id with ⟨failure, he⟩ | ⟨b, hb, hid, hok⟩
  · rw [he]
    exact .inl ⟨failure, rfl⟩
  rw [hok]
  simp only [perform_bind, perform_historyOf, hread, perform_ofRule]
  split_ifs with hempty
  swap
  · exact .inl ⟨_, rfl⟩
  refine .inr ⟨b, hb, hid, ?_, ?_⟩
  · rw [← b.history_eq_scope, List.isEmpty_iff.mp hempty]
  -- nothing has been written so far, and from here on nothing fails
  have hstored : ∀ l ∈ (byBudget id).filter s.budgetExpenseClasses.records, l ∈ s.budgetExpenseClasses := fun l hl =>
    List.mem_of_mem_filter hl
  obtain ⟨budgetExpenseClasses, hlinks, hleft⟩ :=
    perform_deleteLinks hstored (s.budgetExpenseClasses.nodup_ids.sublist (List.filter_sublist.map _))
  have hdelete : { s with budgetExpenseClasses }.perform (Operation.request (.deleteBudget id)) =
      (.ok (), { s with budgetExpenseClasses, budgets := s.budgets.erase id }) := by
    have hfind : s.budgets.find? id = some b := Table.find?_eq_some_iff.mpr ⟨hb, hid⟩
    change (({ s with budgetExpenseClasses }.deleteBudget id).1.mapError StoreError.toFailure,
      ({ s with budgetExpenseClasses }.deleteBudget id).2) = _
    unfold Store.deleteBudget
    simp only [hfind]
    rfl
  refine ⟨budgetExpenseClasses, ?_, fun l => ?_⟩
  · simp only [Except.mapError, hlinks, hdelete]
  · rw [hleft, byBudget_filter]
    refine and_congr_right fun hl => not_congr ?_
    rw [List.mem_filter, decide_eq_true_eq]
    exact and_iff_right hl

theorem Consistent.deleteBudget (h : s.Consistent) (id : BudgetId) : s.Keeps 0 (s.perform (.deleteBudget id)) := by
  rcases s.perform_deleteBudget id with ⟨failure, he⟩ | ⟨b, hb, rfl, hscope, budgetExpenseClasses, hok, -⟩
  · rw [he]
    exact h.keeps_error 0 failure
  · rw [hok]
    refine keeps_ok ?_ ?_ ?_ ()
    · exact (h.eraseBudget b.id).of_eq rfl rfl
    · rfl
    · exact .deleted hb hscope rfl rfl

/-- A link is deleted if no transaction of the budget has its class; otherwise nothing is. -/
theorem perform_removeExpenseClass (s : Store) (id : BudgetId) (expenseClass : ExpenseClassId) :
    (∃ failure, s.perform (.removeExpenseClass id expenseClass) = (.error failure, s)) ∨
      ∃ b ∈ s.budgets, ∃ l ∈ s.budgetExpenseClasses, b.id = id ∧ l.budget = id ∧ l.expenseClass = expenseClass ∧
        (∀ tx ∈ b.scope s.transactions.records, tx.expenseClass ≠ some expenseClass) ∧
        s.perform (.removeExpenseClass id expenseClass) =
          (.ok (), { s with budgetExpenseClasses := s.budgetExpenseClasses.erase l.id }) := by
  have hread : s.perform (Operation.request (.queryBudgetExpenseClasses (linksOfClass id expenseClass))) =
      (.ok ((linksOfClass id expenseClass).filter s.budgetExpenseClasses.records), s) := rfl
  unfold Operation.removeExpenseClass
  rw [perform_bind]
  rcases s.perform_getBudget id with ⟨failure, he⟩ | ⟨b, hb, hid, hok⟩
  · rw [he]
    exact .inl ⟨failure, rfl⟩
  rw [hok]
  simp only [perform_bind, hread, perform_historyOf, perform_ofRule]
  rcases hlinks : (linksOfClass id expenseClass).filter s.budgetExpenseClasses.records with _ | ⟨l, rest⟩
  · exact .inl ⟨_, rfl⟩
  have hl : l ∈ (linksOfClass id expenseClass).filter s.budgetExpenseClasses.records := by
    rw [hlinks]
    exact List.mem_cons_self
  rw [linksOfClass_filter, List.mem_filter, Bool.and_eq_true, decide_eq_true_eq, decide_eq_true_eq] at hl
  obtain ⟨hstored, hbudget, hclass⟩ := hl
  simp only [Except.mapError]
  split_ifs with hused
  · exact .inl ⟨_, rfl⟩
  refine .inr ⟨b, hb, l, hstored, hid, hbudget, hclass, fun tx htx hof => hused ?_, ?_⟩
  · rw [← b.history_eq_scope] at htx
    exact List.any_eq_true.mpr ⟨tx, htx, beq_iff_eq.mpr hof⟩
  · exact perform_deleteBudgetExpenseClass hstored

theorem Consistent.removeExpenseClass (h : s.Consistent) (id : BudgetId) (expenseClass : ExpenseClassId) :
    s.Keeps 0 (s.perform (.removeExpenseClass id expenseClass)) := by
  rcases s.perform_removeExpenseClass id expenseClass with ⟨failure, he⟩ | ⟨b, -, l, -, -, -, -, -, hok⟩
  · rw [he]
    exact h.keeps_error 0 failure
  · rw [hok]
    refine keeps_ok ?_ ?_ ?_ ()
    · exact h.of_eq rfl rfl
    · rfl
    · exact .rewritten rfl (.of_eq rfl)

end Store

end FundLedger
