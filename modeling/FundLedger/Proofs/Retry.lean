import FundLedger.Proofs.Outages
import FundLedger.Proofs.Runs
/-!
# Recording a transaction again

A transaction is recorded a second time after an attempt that failed.  Its record takes the place of the first one, and
an allocation does not see itself in the history.  But a budget that the first attempt has written counts the
transaction once more.

* `Store.perform_screen_map`: what was admitted is admitted again.
* `Store.Consistent.retry_begun`: no budget was written; the second attempt leads where one attempt leads.
* `Store.Consistent.retry_half`: the first of two budgets was written; the second attempt changes it again.
* `Store.Consistent.retry_consistent_iff`: when the store is consistent after the second attempt.
-/

namespace FundLedger

/-! ## Screening again -/

namespace Transaction

variable {tx : Transaction} {f : Budget → Budget}

/-- The rules look at neither the totals nor the version of a budget. -/
theorem admission_map (hf : ∀ b, ∃ totals version, f b = { b with totals, version }) (context : AdmissionContext) :
    tx.admission { context with budgets := context.budgets.map f } = tx.admission context := by
  have hfind : ∀ fund, AdmissionContext.budgetOf? { context with budgets := context.budgets.map f } fund =
      (context.budgetOf? fund).map f := by
    intro fund
    unfold AdmissionContext.budgetOf?
    rw [List.find?_map]
    refine congrArg (Option.map f) (congrArg (context.budgets.find? ·) (funext fun b => ?_))
    obtain ⟨totals, version, hb⟩ := hf b
    simp only [Function.comp_apply, hb]
  have hissues : ∀ funds, tx.budgetIssues { context with budgets := context.budgets.map f } funds =
      tx.budgetIssues context funds := by
    intro funds
    induction funds with
    | nil => rfl
    | cons fund rest ih =>
      unfold budgetIssues
      rw [hfind, ih]
      cases context.budgetOf? fund with
      | none => rfl
      | some b =>
        obtain ⟨totals, version, hb⟩ := hf b
        simp only [Option.map_some, hb]
        rfl
  unfold admission
  simp only [hissues]

/-- A record of the transaction itself in the history makes no difference. -/
theorem othersOfYear_historyIn_put {t : Table Transaction} (hfresh : t.find? tx.id = none) :
    tx.othersOfYear (tx.historyIn (t.put tx).records) = tx.othersOfYear (tx.historyIn t.records) := by
  unfold historyIn
  split
  · unfold othersOfYear
    rw [List.filter_filter, List.filter_filter]
    exact Table.filter_put hfresh (by simp)
  · rfl

end Transaction

/-- A transaction does the same with histories that differ in itself only. -/
theorem Budget.applyWithHistory_congr {b : Budget} {tx : Transaction} {recorded recorded' : List Transaction}
    (h : tx.othersOfYear recorded = tx.othersOfYear recorded') :
    b.applyWithHistory tx recorded = b.applyWithHistory tx recorded' := by
  unfold Transaction.othersOfYear at h
  unfold applyWithHistory Transaction.effectsAfter
  rw [h]

/-- A transaction that the sender's budget counts already is counted once more. -/
theorem Budget.applyWithHistory_again {b : Budget} {tx : Transaction} {txs : List Transaction}
    (h : b.Reflects (tx :: txs)) (hcount : b.Countable (tx :: txs)) (hcurrency : tx.currency = b.currency)
    (hsender : tx.hasRole b.fund .sender = true) (hreceiver : tx.hasRole b.fund .receiver = false)
    (recorded : List Transaction) :
    ∃ totals, b.applyWithHistory tx recorded = .ok { b with totals } ∧
      ({ b with totals }.Reflects (tx :: txs) ↔ tx.minorAmount = 0) := by
  have hholds := (reflects_iff hcount).mp h
  have hreceived : tx.isReceivedBy b.fund = false := by
    unfold Transaction.isReceivedBy
    rw [hreceiver, Bool.and_false]
  have small : (b.tally (tx :: txs)).norm + 2 * tx.minorAmount.natAbs < mantissaLimit := by
    have hnorm : (b.tally (tx :: txs)).norm ≤ 2 * volume (b.scope (tx :: txs)) := norm_tally_le b.fund _
    have hscope := hcount.small_scope
    have hvolume := hcount.small
    have hown : tx.minorAmount.natAbs ≤ volume (tx :: txs) := minorAmount_le_volume List.mem_cons_self
    unfold mantissaLimit
    omega
  obtain ⟨totals, happly, hnext⟩ := applyWithHistory_adds hholds hcurrency hreceived small recorded
  refine ⟨totals, happly, ?_⟩
  rw [reflects_iff (hcount.withTotals totals b.version), ← tx.contribution_eq_zero_iff hsender hreceiver false]
  constructor
  · intro hsame
    have heq : b.tally (tx :: txs) = b.tally (tx :: txs) + tx.contribution b.fund false :=
      Sums.derived_inj.mp ((Totals.Counts.equiv_iff hsame hnext).mp rfl)
    exact left_eq_add.mp heq
  · intro hzero
    rw [hzero, add_zero] at hnext
    exact hnext

namespace Store

variable {s s' : Store} {tx : Transaction} {f : Budget → Budget}

theorem perform_linkedFunds_congr (h : s'.funds = s.funds) (tx : Transaction) :
    (s'.perform (Operation.linkedFunds tx)).1 = (s.perform (Operation.linkedFunds tx)).1 := by
  have hread : ∀ (s : Store) (id : FundId), s.perform (Operation.request (.getFund id)) =
      ((found .funds id (s.funds.find? id)).mapError StoreError.toFailure, s) := fun _ _ => rfl
  unfold Operation.linkedFunds
  split
  · rename_i sender receiver _ _ _
    simp only [perform_bind, hread, h]
    cases (found .funds sender (s.funds.find? sender)).mapError StoreError.toFailure with
    | error e => rfl
    | ok a =>
      simp only [h]
      cases (found .funds receiver (s.funds.find? receiver)).mapError StoreError.toFailure <;> rfl
  · rfl

theorem perform_classLinksFor_map (h : s'.budgetExpenseClasses = s.budgetExpenseClasses)
    (hf : ∀ b, ∃ totals version, f b = { b with totals, version }) (tx : Transaction) (budgets : List Budget) :
    (s'.perform (Operation.classLinksFor tx (budgets.map f))).1 = (s.perform (Operation.classLinksFor tx budgets)).1 := by
  have hread : ∀ (s : Store) (query : Query), s.perform (Operation.request (.queryBudgetExpenseClasses query)) =
      (.ok (query.filter s.budgetExpenseClasses.records), s) := fun _ _ => rfl
  have hsending : (tx.fromFund.bind fun fund => (budgets.map f).find? fun b => b.fund == fund) =
      (tx.fromFund.bind fun fund => budgets.find? fun b => b.fund == fund).map f := by
    cases tx.fromFund with
    | none => rfl
    | some fund =>
      simp only [Option.bind_some, List.find?_map]
      refine congrArg (Option.map f) (congrArg (budgets.find? ·) (funext fun b => ?_))
      obtain ⟨totals, version, hb⟩ := hf b
      simp only [Function.comp_apply, hb]
  unfold Operation.classLinksFor
  simp only [hsending]
  cases tx.fromFund.bind fun fund => budgets.find? fun b => b.fund == fund with
  | none =>
    cases tx.kind <;> cases tx.expenseClass <;> rfl
  | some b =>
    obtain ⟨totals, version, hb⟩ := hf b
    simp only [Option.map_some, hb]
    cases tx.kind <;> cases tx.expenseClass <;> first | rfl | simp only [hread, h]

/-- What was admitted before is admitted with budgets that differ in their totals and versions. -/
theorem perform_screen_map (hfunds : s'.funds = s.funds) (hlinks : s'.budgetExpenseClasses = s.budgetExpenseClasses)
    (hf : ∀ b, ∃ totals version, f b = { b with totals, version }) (hbudgets : s'.budgetsOf tx = (s.budgetsOf tx).map f)
    {screened : List Budget × List Transaction} (hok : s.perform (Operation.screen tx) = (.ok screened, s)) :
    s'.perform (Operation.screen tx) = (.ok (s'.budgetsOf tx, s'.historyFor tx), s') := by
  obtain ⟨funds, hread⟩ := perform_of_reads (Operation.reads_linkedFunds tx) s
  obtain ⟨funds', hread'⟩ := perform_of_reads (Operation.reads_linkedFunds tx) s'
  obtain ⟨links, hclasses⟩ := perform_of_reads (Operation.reads_classLinksFor tx (s.budgetsOf tx)) s
  obtain ⟨links', hclasses'⟩ := perform_of_reads (Operation.reads_classLinksFor tx (s'.budgetsOf tx)) s'
  have hsameFunds : funds' = funds := by
    have hcongr := perform_linkedFunds_congr hfunds tx
    rwa [hread, hread'] at hcongr
  have hsameLinks : links' = links := by
    have hcongr := perform_classLinksFor_map hlinks hf tx (s.budgetsOf tx)
    rw [← hbudgets] at hcongr
    rwa [hclasses, hclasses'] at hcongr
  subst hsameFunds hsameLinks
  unfold Operation.screen at hok ⊢
  simp only [perform_bind, perform_budgetsFor, hread] at hok
  simp only [perform_bind, perform_budgetsFor, hread']
  cases funds' with
  | error e => cases hok
  | ok funds' =>
    simp only [hclasses] at hok
    simp only [hclasses']
    cases links' with
    | error e => cases hok
    | ok links' =>
      have hadmission := tx.admission_map hf ⟨s.budgetsOf tx, funds'.1, funds'.2, links'⟩
      rw [← hbudgets] at hadmission
      simp only [perform_ofRule] at hok ⊢
      rw [hadmission]
      cases hrule : tx.admission ⟨s.budgetsOf tx, funds'.1, funds'.2, links'⟩ with
      | error e =>
        rw [hrule] at hok
        cases hok
      | ok _ =>
        simp only [Except.mapError, perform_recordedAllocations, perform_pure]

/-! ## Budgets of the second attempt -/

theorem budgetsOf_write {b : Budget} (hb : b ∈ s.budgets) (totals : Totals Decimal) (tx : Transaction) :
    (s.write { b with totals }).budgetsOf tx =
      (s.budgetsOf tx).map fun c => if c = b then { b with totals, version := b.version + 1 } else c := by
  have hfind : ∀ fund fiscalYear, (s.write { b with totals }).budgetOf? fund fiscalYear =
      (s.budgetOf? fund fiscalYear).map fun c => if c = b then { b with totals, version := b.version + 1 } else c := by
    intro fund fiscalYear
    have hrecords : (s.write { b with totals }).budgets.records =
        s.budgets.records.map fun c => if c = b then { b with totals, version := b.version + 1 } else c :=
      Table.put_eq_map hb rfl
    unfold budgetOf?
    rw [hrecords, List.find?_map]
    refine congrArg (Option.map _) (congrArg (s.budgets.records.find? ·) (funext fun c => ?_))
    by_cases hc : c = b
    · rw [Function.comp_apply, if_pos hc, hc]
    · simp only [Function.comp_apply, if_neg hc]
  unfold budgetsOf
  rw [List.map_filterMap]
  exact List.filterMap_congr fun fund _ => hfind fund tx.fiscalYear

/-- Of two budgets of a transaction, the first one is that of its sender. -/
theorem roles_of_budgetsOf {b b' : Budget} {rest : List Budget} (h : s.budgetsOf tx = b :: b' :: rest) :
    rest = [] ∧ tx.hasRole b.fund .sender = true ∧ tx.hasRole b.fund .receiver = false := by
  have hlength : (b :: b' :: rest).length ≤ tx.funds.length := h ▸ List.length_filterMap_le ..
  unfold budgetsOf at h
  unfold Transaction.funds at h hlength
  cases hsender : tx.fromFund with
  | none => cases hreceiver : tx.toFund <;> simp [hsender, hreceiver] at hlength
  | some sender =>
    cases hreceiver : tx.toFund with
    | none => simp [hsender, hreceiver] at hlength
    | some receiver =>
      by_cases hsame : sender = receiver
      · simp [hsender, hreceiver, hsame] at hlength
      · simp only [hsender, hreceiver, if_neg hsame] at h
        cases hs : s.budgetOf? sender tx.fiscalYear with
        | none => cases hr : s.budgetOf? receiver tx.fiscalYear <;> simp [hs, hr] at h
        | some c =>
          cases hr : s.budgetOf? receiver tx.fiscalYear with
          | none => simp [hs, hr] at h
          | some c' =>
            simp [hs, hr] at h
            obtain ⟨rfl, rfl, rfl⟩ := h
            obtain ⟨-, rfl, -⟩ := mem_of_budgetOf? hs
            refine ⟨rfl, ?_, ?_⟩
            · simp [Transaction.hasRole, hsender]
            · simpa [Transaction.hasRole, hreceiver] using Ne.symm hsame

/-- A screened transaction that can be applied to its budgets is recorded. -/
theorem perform_screen_record (hok : s.perform (Operation.screen tx) = (.ok (s.budgetsOf tx, s.historyFor tx), s))
    (happly : ∀ b ∈ s.budgetsOf tx, ∃ totals, b.applyWithHistory tx (s.historyFor tx) = .ok { b with totals }) :
    s.perform (Operation.screen tx >>= Operation.record tx) = (.ok tx, s.recorded tx) := by
  rw [perform_bind, hok]
  exact perform_record happly

/-- The store has recorded the transaction, and what it tells of the history is the same as before. -/
theorem applyWithHistory_of_put (hfresh : s.transactions.find? tx.id = none)
    (hput : s'.transactions = s.transactions.put tx) (b : Budget) :
    b.applyWithHistory tx (s'.historyFor tx) = b.applyWithHistory tx (s.historyFor tx) := by
  refine Budget.applyWithHistory_congr ?_
  unfold historyFor
  rw [hput]
  exact tx.othersOfYear_historyIn_put hfresh

/-- When no budget was written, the second attempt does what the first one would have done. -/
theorem Consistent.retry_begun (h : s.Consistent) (hfresh : s.transactions.find? tx.id = none)
    (small : s.volume + tx.minorAmount.natAbs < 2 ^ 94) {screened : List Budget × List Transaction}
    (hscreened : s.perform (Operation.screen tx) = (.ok screened, s)) :
    (s.begin tx).perform (Operation.screen tx >>= Operation.record tx) =
      s.perform (Operation.screen tx >>= Operation.record tx) := by
  obtain ⟨rfl, hholds⟩ := h.holds_of_screened hfresh small hscreened
  have hsame : ∀ b : Budget, b.applyWithHistory tx ((s.begin tx).historyFor tx) =
      b.applyWithHistory tx (s.historyFor tx) := applyWithHistory_of_put hfresh rfl
  have happly : ∀ b ∈ s.budgetsOf tx, ∃ totals, b.applyWithHistory tx (s.historyFor tx) = .ok { b with totals } :=
    fun b hb => (hholds b hb).2.imp fun _ hok => hok.1
  have hbudgets : (s.begin tx).budgetsOf tx = s.budgetsOf tx := rfl
  have hsameBudgets : (s.begin tx).budgetsOf tx = (s.budgetsOf tx).map fun b => b := hbudgets.trans (List.map_id' _).symm
  have hagain : (s.begin tx).perform (Operation.screen tx) =
      (.ok ((s.begin tx).budgetsOf tx, (s.begin tx).historyFor tx), s.begin tx) :=
    perform_screen_map (s := s) rfl rfl (fun b => ⟨b.totals, b.version, rfl⟩) hsameBudgets hscreened
  rw [perform_screen_record hscreened happly, perform_screen_record hagain fun b hb => ?_]
  · -- the record takes its own place
    have hput : (s.transactions.put tx).put tx = s.transactions.put tx :=
      Table.put_of_mem (Table.mem_put.mpr (.inl rfl))
    have happlied : ((s.begin tx).budgetsOf tx).map (fun b : Budget => b.applied tx ((s.begin tx).historyFor tx)) =
        (s.budgetsOf tx).map fun b : Budget => b.applied tx (s.historyFor tx) := by
      rw [hbudgets]
      refine List.map_congr_left fun b _ => ?_
      unfold Budget.applied
      rw [hsame b]
    unfold Store.recorded
    rw [happlied]
    unfold begin
    simp only [hput]
  · rw [hsame b]
    exact happly b hb

/-! ## After half an attempt -/

section

variable {b b' : Budget} {totals totals' twice : Totals Decimal}

/-- The store with a transaction and one written budget. -/
def half (s : Store) (tx : Transaction) (b : Budget) : Store := (s.begin tx).write b

theorem ne_of_budgetsOf (hbudgets : s.budgetsOf tx = [b, b']) : b.id ≠ b'.id := by
  have hids := s.nodup_budgetsOf tx
  rw [hbudgets] at hids
  simpa using hids

theorem budgetsOf_half (hbudgets : s.budgetsOf tx = [b, b']) (totals : Totals Decimal) :
    (s.half tx { b with totals }).budgetsOf tx = [{ b with totals, version := b.version + 1 }, b'] := by
  have hb : b ∈ s.budgetsOf tx := hbudgets ▸ List.mem_cons_self
  have hne : b' ≠ b := fun heq => ne_of_budgetsOf hbudgets (congrArg Budget.id heq.symm)
  refine (budgetsOf_write (s := s.begin tx) (mem_of_mem_budgetsOf hb).1 totals tx).trans ?_
  change (s.budgetsOf tx).map _ = _
  rw [hbudgets]
  simp only [List.map_cons, List.map_nil, if_true, if_neg hne]

theorem perform_screen_half (hbudgets : s.budgetsOf tx = [b, b']) (totals : Totals Decimal)
    {screened : List Budget × List Transaction} (hscreened : s.perform (Operation.screen tx) = (.ok screened, s)) :
    (s.half tx { b with totals }).perform (Operation.screen tx) =
      (.ok ((s.half tx { b with totals }).budgetsOf tx, (s.half tx { b with totals }).historyFor tx),
        s.half tx { b with totals }) := by
  have hb : b ∈ s.budgetsOf tx := hbudgets ▸ List.mem_cons_self
  have hmap := budgetsOf_write (s := s.begin tx) (mem_of_mem_budgetsOf hb).1 totals tx
  refine perform_screen_map (s := s) rfl rfl (fun c => ?_) hmap hscreened
  by_cases hc : c = b
  · exact ⟨totals, b.version + 1, by rw [if_pos hc, hc]⟩
  · exact ⟨c.totals, c.version, by rw [if_neg hc]⟩

/-- The second attempt after half of one. -/
theorem perform_half (hfresh : s.transactions.find? tx.id = none) (hbudgets : s.budgetsOf tx = [b, b'])
    {screened : List Budget × List Transaction} (hscreened : s.perform (Operation.screen tx) = (.ok screened, s))
    (htwice : { b with totals, version := b.version + 1 }.applyWithHistory tx (s.historyFor tx) =
      .ok { b with totals := twice, version := b.version + 1 })
    (happly' : b'.applyWithHistory tx (s.historyFor tx) = .ok { b' with totals := totals' }) :
    (s.half tx { b with totals }).perform (Operation.screen tx >>= Operation.record tx) =
        (.ok tx, (s.half tx { b with totals }).recorded tx) ∧
      ∀ c, c ∈ ((s.half tx { b with totals }).recorded tx).budgets ↔
        c = { b with totals := twice, version := b.version + 1 + 1 } ∨
          c = { b' with totals := totals', version := b'.version + 1 } ∨
          c ∈ s.budgets ∧ c.id ≠ b.id ∧ c.id ≠ b'.id := by
  have hsame : ∀ c : Budget, c.applyWithHistory tx ((s.half tx { b with totals }).historyFor tx) =
      c.applyWithHistory tx (s.historyFor tx) := applyWithHistory_of_put hfresh rfl
  have hsecond := budgetsOf_half hbudgets totals
  have happlies : ∀ c ∈ (s.half tx { b with totals }).budgetsOf tx, ∃ totals,
      c.applyWithHistory tx ((s.half tx { b with totals }).historyFor tx) = .ok { c with totals } := by
    intro c hc
    rw [hsecond] at hc
    rcases List.mem_pair.mp hc with rfl | rfl
    · exact ⟨twice, (hsame _).trans htwice⟩
    · exact ⟨totals', (hsame _).trans happly'⟩
  refine ⟨perform_screen_record (perform_screen_half hbudgets totals hscreened) happlies, fun c => ?_⟩
  rw [mem_recorded_iff happlies, hsecond]
  simp only [hsame, List.mem_pair]
  constructor
  · rintro (⟨_, rfl | rfl, totals'', hok, rfl⟩ | ⟨hmem, hother⟩)
    · cases htwice.symm.trans hok
      exact .inl rfl
    · cases happly'.symm.trans hok
      exact .inr (.inl rfl)
    · have hne : c.id ≠ b.id := hother { b with totals, version := b.version + 1 } (.inl rfl)
      refine .inr (.inr ⟨?_, hne, hother _ (.inr rfl)⟩)
      rcases mem_write.mp hmem with rfl | ⟨hmem, -⟩
      · exact absurd rfl hne
      · exact hmem
  · rintro (rfl | rfl | ⟨hmem, hne, hne'⟩)
    · exact .inl ⟨_, .inl rfl, twice, htwice, rfl⟩
    · exact .inl ⟨_, .inr rfl, totals', happly', rfl⟩
    · refine .inr ⟨mem_write.mpr (.inr ⟨hmem, hne⟩), ?_⟩
      rintro _ (rfl | rfl)
      · exact hne
      · exact hne'

/-- When the sender's budget was written, the second attempt applies the transaction to it once more. -/
theorem Consistent.retry_half (h : s.Consistent) (hfresh : s.transactions.find? tx.id = none)
    (small : s.volume + tx.minorAmount.natAbs < 2 ^ 94) {screened : List Budget × List Transaction}
    (hscreened : s.perform (Operation.screen tx) = (.ok screened, s)) (hbudgets : s.budgetsOf tx = [b, b'])
    (hleft : s' = s.half tx (b.applied tx (s.historyFor tx))) :
    s'.perform (Operation.screen tx >>= Operation.record tx) = (.ok tx, s'.recorded tx) ∧
      ((s'.recorded tx).Consistent ↔ tx.minorAmount = 0) := by
  obtain ⟨rfl, hholds⟩ := h.holds_of_screened hfresh small hscreened
  have hb : b ∈ s.budgetsOf tx := hbudgets ▸ List.mem_cons_self
  have hb' : b' ∈ s.budgetsOf tx := hbudgets ▸ List.mem_cons_of_mem b List.mem_cons_self
  obtain ⟨hcurrency, totals, happly, hreflects⟩ := hholds b hb
  obtain ⟨hcurrency', totals', happly', hreflects'⟩ := hholds b' hb'
  obtain ⟨-, hsender, hreceiver⟩ := roles_of_budgetsOf hbudgets
  rw [Budget.applied_eq happly] at hleft
  subst hleft
  have hcount : b.Countable (tx :: s.transactions.records) :=
    h.countable_cons hfresh small (mem_of_mem_budgetsOf hb).1 fun _ => hcurrency
  obtain ⟨twice, htwice, hzero⟩ := Budget.applyWithHistory_again (b := { b with totals, version := b.version + 1 })
    hreflects (hcount.withTotals totals (b.version + 1)) hcurrency hsender hreceiver (s.historyFor tx)
  obtain ⟨hperform, hmem⟩ := perform_half hfresh hbudgets hscreened htwice happly'
  refine ⟨hperform, ?_⟩
  have hperm : ((s.half tx { b with totals }).recorded tx).transactions.records.Perm (tx :: s.transactions.records) := by
    have hput : ((s.half tx { b with totals }).recorded tx).transactions = (s.transactions.put tx).put tx :=
      writeAll_transactions _ _
    rw [hput, Table.put_of_mem (Table.mem_put.mpr (.inl rfl))]
    exact Table.put_perm_of_fresh hfresh
  rw [← hzero]
  constructor
  · intro hconsistent
    have hcount' := (hcount.withTotals twice (b.version + 1 + 1)).perm hperm.symm
    exact (hconsistent.totals _ ((hmem _).mpr (.inl rfl))).perm hcount' hperm
  · intro htwiceReflects
    refine h.of_reflects hperm hfresh small (fun c hc => (hholds c hc).1) fun c hc => ?_
    rcases (hmem c).mp hc with rfl | rfl | ⟨hold, hne, hne'⟩
    · exact ⟨b, (mem_of_mem_budgetsOf hb).1, twice, _, rfl, htwiceReflects⟩
    · exact ⟨b', (mem_of_mem_budgetsOf hb').1, totals', _, rfl, hreflects'⟩
    · -- neither the sender's nor the receiver's budget
      have hcovers : c.covers tx = false := by
        rw [← Bool.not_eq_true]
        intro hcovers
        have hin : c ∈ s.budgetsOf tx := (mem_budgetsOf h).mpr ⟨hold, hcovers⟩
        rw [hbudgets] at hin
        rcases List.mem_pair.mp hin with rfl | rfl
        · exact hne rfl
        · exact hne' rfl
      exact ⟨c, hold, c.totals, c.version, rfl, h.reflects_of_not_covers hfresh small hold hcovers⟩

end

/-! ## The second attempt -/

theorem half_budgets_ne {b : Budget} (hb : b ∈ s.budgets) (totals : Totals Decimal) :
    (s.half tx { b with totals }).budgets ≠ s.budgets := by
  intro heq
  have hmem : { b with totals, version := b.version + 1 } ∈ s.budgets := by
    rw [← heq]
    exact mem_write.mpr (.inl rfl)
  have hsame : { b with totals, version := b.version + 1 } = b := Table.eq_of_id_eq hmem hb rfl
  have hversion : b.version + 1 = b.version := congrArg Budget.version hsame
  exact absurd (Int64.add_eq_left.mp hversion) (by decide)

/-- What an attempt that failed leaves: the store as it was, the transaction without a written budget, or half. -/
theorem Consistent.failed_attempt_cases {outages : List Outage} {last : FailingStore} {e : Failure} (h : s.Consistent)
    (hfresh : s.transactions.find? tx.id = none) (small : s.volume + tx.minorAmount.natAbs < 2 ^ 94)
    (hfail : (FailingStore.mk s outages).perform (.createTransaction tx) = (.error e, last)) :
    last.store = s ∨
      (∃ screened, s.perform (Operation.screen tx.normalized) = (.ok screened, s)) ∧
        (last.store = s.begin tx.normalized ∨ ∃ b b', s.budgetsOf tx.normalized = [b, b'] ∧
          last.store = s.half tx.normalized (b.applied tx.normalized (s.historyFor tx.normalized))) := by
  rcases FailingStore.perform_createTransaction_error h hfresh small hfail with
    hleft | ⟨hscreened, written, b, rest, hbudgets, hleft⟩
  · exact .inl hleft
  · refine .inr ⟨hscreened, ?_⟩
    match written with
    | [] => exact .inl hleft
    | [first] =>
      obtain ⟨rfl, -, -⟩ := roles_of_budgetsOf hbudgets
      exact .inr ⟨first, b, hbudgets, hleft⟩
    | first :: second :: others =>
      -- a transaction has two budgets at most
      obtain ⟨hnone, -, -⟩ := roles_of_budgetsOf hbudgets
      simp at hnone

/-- The attempt after one that failed does what that should have done, or it follows half an attempt. -/
theorem Consistent.retry_cases {outages : List Outage} {last : FailingStore} {e : Failure} (h : s.Consistent)
    (hfresh : s.transactions.find? tx.id = none) (small : s.volume + tx.minorAmount.natAbs < 2 ^ 94)
    (hfail : (FailingStore.mk s outages).perform (.createTransaction tx) = (.error e, last)) :
    last.store.budgets = s.budgets ∧ last.store.perform (.createTransaction tx) = s.perform (.createTransaction tx) ∨
      last.store.budgets ≠ s.budgets ∧
        (∃ b b', s.budgetsOf tx.normalized = [b, b'] ∧
          last.store = s.half tx.normalized (b.applied tx.normalized (s.historyFor tx.normalized))) ∧
        (last.store.perform (.createTransaction tx)).1 = .ok tx.normalized ∧
        ((last.store.perform (.createTransaction tx)).2.Consistent ↔ tx.minorAmount = 0) := by
  have hfresh' : s.transactions.find? tx.normalized.id = none := hfresh
  have small' : s.volume + tx.normalized.minorAmount.natAbs < 2 ^ 94 := by
    rw [tx.minorAmount_normalized]
    exact small
  rcases h.failed_attempt_cases hfresh small hfail with
    hleft | ⟨⟨screened, hscreened⟩, hleft | ⟨b, b', hbudgets, hleft⟩⟩
  · rw [hleft]
    exact .inl ⟨rfl, rfl⟩
  · rw [hleft, Operation.createTransaction_eq]
    exact .inl ⟨rfl, h.retry_begun hfresh' small' hscreened⟩
  · obtain ⟨hretry, hzero⟩ := h.retry_half hfresh' small' hscreened hbudgets hleft
    have hne : last.store.budgets ≠ s.budgets := by
      obtain ⟨rfl, hholds⟩ := h.holds_of_screened hfresh' small' hscreened
      have hb : b ∈ s.budgetsOf tx.normalized := hbudgets ▸ List.mem_cons_self
      obtain ⟨-, totals, happly, -⟩ := hholds b hb
      rw [hleft, Budget.applied_eq happly]
      exact half_budgets_ne (mem_of_mem_budgetsOf hb).1 totals
    rw [Operation.createTransaction_eq, hretry, ← tx.minorAmount_normalized]
    exact .inr ⟨hne, ⟨b, b', hbudgets, hleft⟩, rfl, hzero⟩

/-- A new transaction is recorded again after an attempt that failed.  When no budget was written, that does what one
attempt would have done.  Otherwise the first of two budgets was; the second attempt succeeds, and the store is not
consistent unless the amount is zero. -/
theorem Consistent.retry_consistent_iff {outages : List Outage} {last : FailingStore} {e : Failure} (h : s.Consistent)
    (hfresh : s.transactions.find? tx.id = none) (small : s.volume + tx.minorAmount.natAbs < 2 ^ 94)
    (hfail : (FailingStore.mk s outages).perform (.createTransaction tx) = (.error e, last)) :
    (last.store.budgets = s.budgets → last.store.perform (.createTransaction tx) = s.perform (.createTransaction tx)) ∧
      (last.store.budgets ≠ s.budgets →
        (∃ b b', s.budgetsOf tx.normalized = [b, b'] ∧
          last.store = s.half tx.normalized (b.applied tx.normalized (s.historyFor tx.normalized))) ∧
        (last.store.perform (.createTransaction tx)).1 = .ok tx.normalized) ∧
      ((last.store.perform (.createTransaction tx)).2.Consistent ↔
        last.store.budgets = s.budgets ∨ tx.minorAmount = 0) := by
  rcases h.retry_cases hfresh small hfail with ⟨hbudgets, hsame⟩ | ⟨hne, hhalf, hok, hzero⟩
  · refine ⟨fun _ => hsame, fun hne => absurd hbudgets hne, fun _ => .inl hbudgets, fun _ => ?_⟩
    rw [hsame]
    rcases h.createTransaction hfresh small with ⟨e, he⟩ | ⟨hok, hconsistent⟩
    · rw [he]
      exact h
    · rw [hok]
      exact hconsistent
  · refine ⟨fun hbudgets => absurd hbudgets hne, fun _ => ⟨hhalf, hok⟩, ?_⟩
    rw [hzero, or_iff_right hne]

/-- The second budget that is to be written is not. -/
def secondUpdateFails : Outage where
  affects := fun
    | .updateBudget _ => true
    | _ => false
  after := 1
  error := .unavailable "update_budget failed"

/-- The sender of a transfer pays twice when the transfer is recorded again. -/
theorem retry_pays_transfer_twice :
    let first := (FailingStore.mk twoFunds [secondUpdateFails]).perform (.createTransaction transferToJournals)
    let second := first.2.store.perform (.createTransaction transferToJournals)
    (∃ e, first.1 = .error (.finance e) ∧ e.isRetryable = true) ∧ second.1 = .ok transferToJournals.normalized ∧
      ¬second.2.Consistent := by
  intro first second
  have hfail : first.1 = .error (.finance (.storageFailed "storage unavailable: update_budget failed")) := by
    decide +kernel
  have hne : first.2.store.budgets ≠ twoFunds.budgets := by
    intro heq
    have hrecords : first.2.store.budgets.records ≠ twoFunds.budgets.records := by decide +kernel
    exact hrecords (congrArg Table.records heq)
  obtain ⟨-, hhalf, hiff⟩ := Consistent.retry_consistent_iff consistent_twoFunds
    (by decide : twoFunds.transactions.find? transferToJournals.id = none) (by decide) (Prod.ext hfail rfl)
  refine ⟨⟨_, hfail, rfl⟩, (hhalf hne).2, fun hconsistent => ?_⟩
  rcases hiff.mp hconsistent with hsame | hzero
  · exact hne hsame
  · exact absurd hzero (by decide)

end Store

end FundLedger
