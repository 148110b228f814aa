import FundLedger.Proofs.Requests
import FundLedger.Proofs.Runs
/-!
# Recalculation of a fiscal year

The budgets of a fiscal year are recalculated one after the other, in the order of their identifiers.  When one of them
cannot be written, those before it have their recomputed totals and nothing else has changed.  Recomputed totals depend on
the transactions alone, so another attempt ends where one without the failure ends.

* `Totals.mem_drift`: the report of a recalculated budget lists the amounts that changed.
* `Store.IsPartlyRecalculated`: what is left when a budget could not be written.
* `Store.IsRecalculated`: the store after all budgets of the year.
* `Store.recalculateFiscalYear_rerun`: a failure at any budget, and another attempt.
-/

namespace FundLedger

/-! ## What is reported -/

namespace Totals

variable {α : Type}

theorem map_fst_fields (t : Totals α) : t.fields.map Prod.fst = names := rfl

theorem nodup_map_fst_fields (t : Totals α) : (t.fields.map Prod.fst).Nodup := by
  rw [map_fst_fields]
  decide +kernel

/-- Pairs of the same name, in two lists that have the same names. -/
theorem mem_zip_iff {l l' : List (String × α)} (hnames : l.map Prod.fst = l'.map Prod.fst)
    (hnodup : (l.map Prod.fst).Nodup) {name : String} {a b : α} :
    ((name, a), (name, b)) ∈ l.zip l' ↔ (name, a) ∈ l ∧ (name, b) ∈ l' := by
  refine ⟨List.of_mem_zip, ?_⟩
  induction l generalizing l' with
  | nil => simp
  | cons x rest ih =>
    obtain _ | ⟨x', rest'⟩ := l'
    · simp
    simp only [List.map_cons, List.cons.injEq] at hnames
    obtain ⟨hnotin, hrest⟩ := List.nodup_cons.mp hnodup
    rintro ⟨ha, hb⟩
    rcases List.mem_cons.mp ha with rfl | ha <;> rcases List.mem_cons.mp hb with rfl | hb
    · exact List.mem_cons_self
    · have hname : name ∈ rest'.map Prod.fst := List.mem_map.mpr ⟨_, hb, rfl⟩
      exact absurd (hnames.2 ▸ hname) hnotin
    · have hname : name ∈ rest.map Prod.fst := List.mem_map.mpr ⟨_, ha, rfl⟩
      exact absurd (hnames.1 ▸ hname) hnotin
    · exact List.mem_cons_of_mem _ (ih hnames.2 hrest ⟨ha, hb⟩)

/-- What has drifted are the amounts that differ by value, each with what it was and what it is. -/
theorem mem_drift {cached recomputed : Totals Decimal} {d : Drift} :
    d ∈ cached.drift recomputed ↔ (d.field, d.cached) ∈ cached.fields ∧ (d.field, d.recomputed) ∈ recomputed.fields ∧
      ¬d.cached ≈ d.recomputed := by
  have hnames : cached.fields.map Prod.fst = recomputed.fields.map Prod.fst :=
    cached.map_fst_fields.trans recomputed.map_fst_fields.symm
  have hpairs : ∀ p ∈ cached.fields.zip recomputed.fields, p.1.1 = p.2.1 := by
    intro p hp
    obtain ⟨i, hi⟩ := List.mem_iff_getElem?.mp hp
    obtain ⟨hold, hnew⟩ := List.getElem?_zip_eq_some.mp hi
    have hname := congrArg (·[i]?) hnames
    simpa [hold, hnew] using hname
  rw [← and_assoc, ← mem_zip_iff hnames cached.nodup_map_fst_fields]
  unfold drift
  rw [List.mem_filterMap]
  constructor
  · rintro ⟨⟨⟨name, old⟩, ⟨name', new⟩⟩, hp, hd⟩
    obtain rfl : name = name' := hpairs _ hp
    dsimp only at hd
    split at hd
    · cases hd
    · obtain rfl := Option.some.inj hd
      exact ⟨hp, by assumption⟩
  · rintro ⟨hp, hne⟩
    exact ⟨_, hp, if_neg hne⟩

theorem drift_self (t : Totals Decimal) : t.drift t = [] := by
  refine List.eq_nil_iff_forall_not_mem.mpr fun d hd => ?_
  obtain ⟨hcached, hrecomputed, hne⟩ := mem_drift.mp hd
  have hsame := List.inj_on_of_nodup_map t.nodup_map_fst_fields hcached hrecomputed rfl
  exact hne (congrArg (fun p : String × Decimal => p.2.units) hsame)

end Totals

/-- A budget was recalculated: it has other totals and the next version, and the amounts that changed are listed. -/
structure Reconciliation.Reports (r : Reconciliation) (b : Budget) : Prop where
  budget : ∃ totals, r.budget = { b with totals, version := b.version + 1 }
  drift : ∀ d, d ∈ r.drift ↔ (d.field, d.cached) ∈ b.totals.fields ∧ (d.field, d.recomputed) ∈ r.budget.totals.fields ∧
    ¬d.cached ≈ d.recomputed

namespace Budget

variable {b : Budget} {txs : List Transaction} {totals : Totals Decimal}

/-- The budget with recomputed totals, or as it was if these overflow. -/
def recalculated (b : Budget) (txs : List Transaction) : Budget :=
  { b with totals := (b.recompute txs).toOption.getD b.totals }

theorem recalculated_eq (h : b.recompute txs = .ok totals) : b.recalculated txs = { b with totals } := by
  unfold recalculated
  rw [h]
  rfl

/-- What recalculation returns. -/
def reconciled (b : Budget) (txs : List Transaction) : Reconciliation :=
  ⟨{ b.recalculated txs with version := b.version + 1 }, b.totals.drift (b.recalculated txs).totals⟩

theorem reports_reconciled (b : Budget) (txs : List Transaction) : (b.reconciled txs).Reports b :=
  ⟨⟨_, rfl⟩, fun _ => Totals.mem_drift⟩

/-- Once recalculated, a budget does not drift. -/
theorem drift_reconciled_again (h : b.recompute txs = .ok totals) : ((b.reconciled txs).budget.reconciled txs).drift = [] := by
  have hagain : (b.reconciled txs).budget.recompute txs = .ok totals := h
  unfold reconciled at hagain ⊢
  rw [recalculated_eq hagain, recalculated_eq h]
  exact totals.drift_self

end Budget

/-! ## Budgets one after the other -/

/-- Budgets cannot be written any more after so many writes. -/
def Outage.ofBudgetWrites (after : Nat) (error : StoreError) : Outage := ⟨StorageRequest.isBudgetWrite, after, error⟩

namespace Store

variable {s : Store} {b c : Budget} {bs : List Budget}

/-- The store after some budgets were recalculated. -/
def recalculateAll (s : Store) (bs : List Budget) : Store := s.writeAll (bs.map (·.recalculated s.transactions.records))

theorem recalculateAll_cons (s : Store) (b : Budget) (rest : List Budget) :
    s.recalculateAll (b :: rest) = (s.write (b.recalculated s.transactions.records)).recalculateAll rest := rfl

/-- All these budgets can be recalculated. -/
def HasRoomForTotals (s : Store) (bs : List Budget) : Prop :=
  ∀ b ∈ bs, ∃ totals, b.recompute s.transactions.records = .ok totals

/-- So they can when their transactions are in their currency and the amounts are moderate. -/
theorem hasRoomForTotals_of_currency (small : s.volume < 2 ^ 94)
    (hcurrency : ∀ b ∈ bs, ∀ t ∈ b.scope s.transactions.records, t.currency = b.currency) : s.HasRoomForTotals bs := by
  intro b hb
  have hscope : FundLedger.volume (b.scope s.transactions.records) < 2 ^ 94 :=
    Nat.lt_of_le_of_lt (volume_le_of_sublist List.filter_sublist) small
  obtain ⟨totals, hrecompute, -⟩ := Budget.recompute_counts_of_scope (hcurrency b hb) hscope
  exact ⟨totals, hrecompute⟩

theorem perform_recalculateAll (hstored : ∀ b ∈ bs, b ∈ s.budgets) (hids : (bs.map (·.id)).Nodup)
    (hroom : s.HasRoomForTotals bs) :
    s.perform (bs.mapM Operation.recalculate) =
      (.ok (bs.map (·.reconciled s.transactions.records)), s.recalculateAll bs) := by
  induction bs generalizing s with
  | nil => rfl
  | cons b rest ih =>
    obtain ⟨⟨totals, hrecompute⟩, hrest⟩ := List.forall_mem_cons.mp hroom
    have hfirst := perform_recalculate_of_recompute (hstored b List.mem_cons_self) hrecompute
    have hnext := ih (mem_write_of_nodup totals hids hstored) (List.nodup_cons.mp hids).2 hrest
    rw [List.mapM_cons, perform_bind, hfirst]
    simp only [perform_bind, hnext, perform_pure]
    rw [recalculateAll_cons, List.map_cons, Budget.reconciled, Budget.recalculated_eq hrecompute]
    rfl

end Store

namespace FailingStore

variable {s : Store} {b : Budget} {bs : List Budget} {totals : Totals Decimal}

/-- The history of a budget is read all the same. -/
theorem perform_historyOf (s : Store) (b : Budget) (n : Nat) (e : StoreError) :
    (FailingStore.mk s [.ofBudgetWrites n e]).perform (Operation.historyOf b) =
      (.ok (s.transactions.records.filter fun t => t.isAmong [b.fund] b.fiscalYear []),
        ⟨s, [.ofBudgetWrites n e]⟩) := rfl

/-- The budget cannot be written now. -/
theorem perform_recalculate_zero (hrecompute : b.recompute s.transactions.records = .ok totals) (e : StoreError) :
    (FailingStore.mk s [.ofBudgetWrites 0 e]).perform (Operation.recalculate b) =
      (.error e.toFailure, ⟨s, [.ofBudgetWrites 0 e]⟩) := by
  have hwrite : (FailingStore.mk s [.ofBudgetWrites 0 e]).perform (Operation.request (.updateBudget { b with totals })) =
      (.error e.toFailure, ⟨s, [.ofBudgetWrites 0 e]⟩) := rfl
  unfold Operation.recalculate
  rw [perform_bind, perform_historyOf]
  simp only [perform_bind, perform_ofArithmetic, b.reconcile_historyOf _ hrecompute, Except.mapError, hwrite]

/-- The budget is recalculated as without the outage, which is one write nearer then. -/
theorem perform_recalculate_succ (hb : b ∈ s.budgets) (hrecompute : b.recompute s.transactions.records = .ok totals)
    (n : Nat) (e : StoreError) :
    (FailingStore.mk s [.ofBudgetWrites (n + 1) e]).perform (Operation.recalculate b) =
      (.ok ⟨{ b with totals, version := b.version + 1 }, b.totals.drift totals⟩,
        ⟨s.write { b with totals }, [.ofBudgetWrites n e]⟩) := by
  have hanswer : (FailingStore.mk s [.ofBudgetWrites (n + 1) e]).answer (.updateBudget { b with totals }) =
      ((s.updateBudget { b with totals }).1, ⟨(s.updateBudget { b with totals }).2, [.ofBudgetWrites n e]⟩) := rfl
  have hwrite : (FailingStore.mk s [.ofBudgetWrites (n + 1) e]).perform (Operation.request (.updateBudget { b with totals })) =
      (.ok { b with totals, version := b.version + 1 }, ⟨s.write { b with totals }, [.ofBudgetWrites n e]⟩) := by
    have hupdate : s.updateBudget { b with totals } =
        (.ok { b with totals, version := b.version + 1 }, s.write { b with totals }) :=
      Store.updateBudget_of_mem hb rfl rfl
    rw [perform_request, hanswer, hupdate]
    rfl
  unfold Operation.recalculate
  rw [perform_bind, perform_historyOf]
  simp only [perform_bind, perform_ofArithmetic, b.reconcile_historyOf _ hrecompute, Except.mapError, hwrite, perform_pure]

/-- Budgets are recalculated one after the other until one cannot be written. -/
theorem perform_recalculateAll_interrupted (hstored : ∀ b ∈ bs, b ∈ s.budgets) (hids : (bs.map (·.id)).Nodup)
    (hroom : s.HasRoomForTotals bs) {k : Nat} (hk : k < bs.length) (e : StoreError) :
    (FailingStore.mk s [.ofBudgetWrites k e]).perform (bs.mapM Operation.recalculate) =
      (.error e.toFailure, ⟨s.recalculateAll (bs.take k), [.ofBudgetWrites 0 e]⟩) := by
  induction bs generalizing s k with
  | nil => cases hk
  | cons b rest ih =>
    obtain ⟨⟨totals, hrecompute⟩, hrest⟩ := List.forall_mem_cons.mp hroom
    rw [List.mapM_cons, perform_bind]
    cases k with
    | zero =>
      rw [perform_recalculate_zero hrecompute e]
      rfl
    | succ k =>
      have hnext := ih (Store.mem_write_of_nodup totals hids hstored) (List.nodup_cons.mp hids).2 hrest
        (Nat.lt_of_succ_lt_succ hk)
      rw [perform_recalculate_succ (hstored b List.mem_cons_self) hrecompute k e]
      simp only [perform_bind, hnext]
      rw [List.take_succ_cons, Store.recalculateAll_cons, Budget.recalculated_eq hrecompute]

end FailingStore

/-! ## The budgets of a year -/

namespace Store

variable {s t t' : Store} {fiscalYear : FiscalYearId} {k : Nat} {b c : Budget} {bs : List Budget}

/-- The budgets of a fiscal year, in the order of their identifiers. -/
def yearBudgets (s : Store) (fiscalYear : FiscalYearId) : List Budget :=
  s.budgets.records.filter fun b => decide (b.fiscalYear = fiscalYear)

theorem mem_yearBudgets : b ∈ s.yearBudgets fiscalYear ↔ b ∈ s.budgets ∧ b.fiscalYear = fiscalYear := by
  unfold yearBudgets
  rw [List.mem_filter, decide_eq_true_eq]
  rfl

theorem nodup_yearBudgets (s : Store) (fiscalYear : FiscalYearId) : ((s.yearBudgets fiscalYear).map (·.id)).Nodup :=
  s.budgets.nodup_ids.sublist (List.filter_sublist.map _)

/-- The first `k` budgets of a fiscal year have their recomputed totals, and everything else is as it was. -/
structure IsPartlyRecalculated (s : Store) (fiscalYear : FiscalYearId) (k : Nat) (left : Store) : Prop where
  others : left = { s with budgets := left.budgets }
  written : ∀ b ∈ (s.yearBudgets fiscalYear).take k, ∃ totals, b.recompute s.transactions.records = .ok totals ∧
    { b with totals, version := b.version + 1 } ∈ left.budgets
  unwritten : ∀ b ∈ s.budgets, b ∉ (s.yearBudgets fiscalYear).take k → b ∈ left.budgets
  ids : ∀ c ∈ left.budgets, ∃ b ∈ s.budgets, c.id = b.id

/-- All budgets of a fiscal year have their recomputed totals, and those of other years are as they were. -/
structure IsRecalculated (s : Store) (fiscalYear : FiscalYearId) (t : Store) : Prop where
  others : t = { s with budgets := t.budgets }
  same : s.SameBudgets t
  ofYear : ∀ c ∈ t.budgets, c.fiscalYear = fiscalYear → c.recompute s.transactions.records = .ok c.totals
  ofOtherYears : ∀ c ∈ t.budgets, c.fiscalYear ≠ fiscalYear → c ∈ s.budgets

theorem mem_recalculateAll (hids : (bs.map (·.id)).Nodup) :
    c ∈ (s.recalculateAll bs).budgets ↔
      (∃ b ∈ bs, c = (b.reconciled s.transactions.records).budget) ∨ c ∈ s.budgets ∧ ∀ b ∈ bs, c.id ≠ b.id := by
  have hsame : (bs.map (·.recalculated s.transactions.records)).map (·.id) = bs.map (·.id) := by
    rw [List.map_map]
    rfl
  unfold recalculateAll
  rw [mem_writeAll (hsame ▸ hids)]
  simp only [List.mem_map, exists_exists_and_eq_and, forall_exists_index, and_imp, forall_apply_eq_imp_iff₂]
  rfl

theorem sameBudgets_recalculateAll (hstored : ∀ b ∈ bs, b ∈ s.budgets) : s.SameBudgets (s.recalculateAll bs) := by
  refine .writeAll fun c hc => ?_
  obtain ⟨b, hb, rfl⟩ := List.mem_map.mp hc
  exact ⟨b, hstored b hb, _, b.version, rfl⟩

/-- Budgets of other years are not written. -/
theorem mem_of_mem_recalculateAll (hids : (bs.map (·.id)).Nodup) (hyear : ∀ b ∈ bs, b.fiscalYear = fiscalYear)
    (hc : c ∈ (s.recalculateAll bs).budgets) (hother : c.fiscalYear ≠ fiscalYear) : c ∈ s.budgets := by
  rcases (mem_recalculateAll hids).mp hc with ⟨b, hb, rfl⟩ | ⟨hc, -⟩
  · exact absurd (hyear b hb) hother
  · exact hc

section Year

variable (hroom : s.HasRoomForTotals (s.yearBudgets fiscalYear))

include hroom

theorem perform_recalculateFiscalYear :
    s.perform (.recalculateFiscalYear fiscalYear) =
      (.ok ((s.yearBudgets fiscalYear).map (·.reconciled s.transactions.records)),
        s.recalculateAll (s.yearBudgets fiscalYear)) := by
  have hread : s.perform (Operation.request (.queryBudgets (byFiscalYear fiscalYear))) =
      (.ok (s.yearBudgets fiscalYear), s) := by
    unfold yearBudgets
    rw [← byFiscalYear_filter]
    rfl
  unfold Operation.recalculateFiscalYear
  rw [perform_bind, hread]
  exact perform_recalculateAll (fun b hb => (mem_yearBudgets.mp hb).1) (s.nodup_yearBudgets fiscalYear) hroom

theorem perform_recalculateFiscalYear_interrupted (hk : k < (s.yearBudgets fiscalYear).length) (e : StoreError) :
    (FailingStore.mk s [.ofBudgetWrites k e]).perform (.recalculateFiscalYear fiscalYear) =
      (.error e.toFailure, ⟨s.recalculateAll ((s.yearBudgets fiscalYear).take k), [.ofBudgetWrites 0 e]⟩) := by
  have hread : (FailingStore.mk s [.ofBudgetWrites k e]).perform (Operation.request (.queryBudgets (byFiscalYear fiscalYear))) =
      (.ok (s.yearBudgets fiscalYear), ⟨s, [.ofBudgetWrites k e]⟩) := by
    unfold yearBudgets
    rw [← byFiscalYear_filter]
    rfl
  unfold Operation.recalculateFiscalYear
  rw [FailingStore.perform_bind, hread]
  exact FailingStore.perform_recalculateAll_interrupted (fun b hb => (mem_yearBudgets.mp hb).1)
    (s.nodup_yearBudgets fiscalYear) hroom hk e

theorem isRecalculated : s.IsRecalculated fiscalYear (s.recalculateAll (s.yearBudgets fiscalYear)) where
  others := s.writeAll_eq _
  same := sameBudgets_recalculateAll fun b hb => (mem_yearBudgets.mp hb).1
  ofYear := by
    intro c hc hyear
    rcases (mem_recalculateAll (s.nodup_yearBudgets fiscalYear)).mp hc with ⟨b, hb, rfl⟩ | ⟨hc, hnot⟩
    · obtain ⟨totals, hrecompute⟩ := hroom b hb
      unfold Budget.reconciled
      rw [Budget.recalculated_eq hrecompute]
      exact hrecompute
    · exact absurd rfl (hnot c (mem_yearBudgets.mpr ⟨hc, hyear⟩))
  ofOtherYears := fun c hc hother =>
    mem_of_mem_recalculateAll (s.nodup_yearBudgets fiscalYear) (fun b hb => (mem_yearBudgets.mp hb).2) hc hother

theorem isPartlyRecalculated (k : Nat) :
    s.IsPartlyRecalculated fiscalYear k (s.recalculateAll ((s.yearBudgets fiscalYear).take k)) := by
  have hids : (((s.yearBudgets fiscalYear).take k).map (·.id)).Nodup :=
    (s.nodup_yearBudgets fiscalYear).sublist ((List.take_sublist k _).map _)
  have hstored : ∀ b ∈ (s.yearBudgets fiscalYear).take k, b ∈ s.budgets := fun b hb =>
    (mem_yearBudgets.mp (List.mem_of_mem_take hb)).1
  refine ⟨s.writeAll_eq _, fun b hb => ?_, fun b hb hnot => ?_, fun c hc => ?_⟩
  · obtain ⟨totals, hrecompute⟩ := hroom b (List.mem_of_mem_take hb)
    refine ⟨totals, hrecompute, (mem_recalculateAll hids).mpr (.inl ⟨b, hb, ?_⟩)⟩
    unfold Budget.reconciled
    rw [Budget.recalculated_eq hrecompute]
  · refine (mem_recalculateAll hids).mpr (.inr ⟨hb, fun b' hb' hid => hnot ?_⟩)
    rwa [Table.eq_of_id_eq hb (hstored b' hb') hid]
  · obtain ⟨b, hb, totals, version, rfl⟩ := (sameBudgets_recalculateAll hstored).of_mem c hc
    exact ⟨b, hb, rfl⟩

end Year

/-- Budgets in the order of their identifiers are the same list when they are the same budgets. -/
theorem eq_of_ascending {bs' : List Budget} (h : (bs.map (·.id)).Pairwise (· < ·))
    (h' : (bs'.map (·.id)).Pairwise (· < ·)) (hmem : ∀ b, b ∈ bs ↔ b ∈ bs') : bs = bs' := by
  have hsame : (⟨bs, List.pairwise_map.mp h⟩ : Table Budget) = ⟨bs', List.pairwise_map.mp h'⟩ :=
    Table.ext_of_mem_iff hmem
  exact congrArg Table.records hsame

theorem ascending_yearBudgets (s : Store) (fiscalYear : FiscalYearId) :
    ((s.yearBudgets fiscalYear).map (·.id)).Pairwise (· < ·) :=
  List.pairwise_map.mpr (s.budgets.ascending.filter _)

/-- The budgets of the year afterwards, still in the order of their identifiers. -/
theorem yearBudgets_recalculateAll_take (s : Store) (fiscalYear : FiscalYearId) (k : Nat) :
    (s.recalculateAll ((s.yearBudgets fiscalYear).take k)).yearBudgets fiscalYear =
      ((s.yearBudgets fiscalYear).take k).map (fun b => (b.reconciled s.transactions.records).budget) ++
        (s.yearBudgets fiscalYear).drop k := by
  have hids := s.nodup_yearBudgets fiscalYear
  have hidsTake : (((s.yearBudgets fiscalYear).take k).map (·.id)).Nodup := hids.sublist ((List.take_sublist k _).map _)
  have hsameIds : (((s.yearBudgets fiscalYear).take k).map (fun b => (b.reconciled s.transactions.records).budget) ++
      (s.yearBudgets fiscalYear).drop k).map (·.id) = (s.yearBudgets fiscalYear).map (·.id) := by
    rw [List.map_append, List.map_map]
    change ((s.yearBudgets fiscalYear).take k).map (·.id) ++ _ = _
    rw [← List.map_append, List.take_append_drop]
  refine eq_of_ascending (ascending_yearBudgets _ _) (hsameIds ▸ s.ascending_yearBudgets fiscalYear) fun c => ?_
  rw [mem_yearBudgets, mem_recalculateAll hidsTake, List.mem_append, List.mem_map]
  constructor
  · rintro ⟨⟨b, hb, rfl⟩ | ⟨hc, hnot⟩, hyear⟩
    · exact .inl ⟨b, hb, rfl⟩
    · have hmem : c ∈ s.yearBudgets fiscalYear := mem_yearBudgets.mpr ⟨hc, hyear⟩
      rw [← List.take_append_drop k (s.yearBudgets fiscalYear)] at hmem
      exact .inr ((List.mem_append.mp hmem).resolve_left fun htake => hnot c htake rfl)
  · rintro (⟨b, hb, rfl⟩ | hc)
    · exact ⟨.inl ⟨b, hb, rfl⟩, (mem_yearBudgets.mp (List.mem_of_mem_take hb)).2⟩
    · obtain ⟨hstored, hyear⟩ := mem_yearBudgets.mp (List.mem_of_mem_drop hc)
      refine ⟨.inr ⟨hstored, fun b hb hid => ?_⟩, hyear⟩
      obtain rfl := Table.eq_of_id_eq hstored (mem_yearBudgets.mp (List.mem_of_mem_take hb)).1 hid
      exact List.disjoint_take_drop hids.of_map le_rfl hb hc

/-- Stores that were recalculated have the same totals. -/
theorem IsRecalculated.totals_eq (h : s.IsRecalculated fiscalYear t) (h' : s.IsRecalculated fiscalYear t') (id : BudgetId) :
    (t.budgets.find? id).map (·.totals) = (t'.budgets.find? id).map (·.totals) := by
  cases hfind : s.budgets.find? id with
  | none =>
    have hnone : ∀ {u : Store}, s.IsRecalculated fiscalYear u → u.budgets.find? id = none := by
      intro u hu
      refine Table.find?_eq_none_iff.mpr fun c hc => ?_
      obtain ⟨b, hb, totals, version, rfl⟩ := hu.same.of_mem c hc
      exact Table.find?_eq_none_iff.mp hfind b hb
    rw [hnone h, hnone h']
  | some b =>
    obtain ⟨hb, hid⟩ := Table.find?_eq_some_iff.mp hfind
    obtain ⟨totals, version, hc⟩ := h.same.mem b hb
    obtain ⟨totals', version', hc'⟩ := h'.same.mem b hb
    rw [Table.find?_eq_some_iff.mpr ⟨hc, hid⟩, Table.find?_eq_some_iff.mpr ⟨hc', hid⟩]
    by_cases hyear : b.fiscalYear = fiscalYear
    · have hrecompute : b.recompute s.transactions.records = .ok totals := h.ofYear _ hc hyear
      have hrecompute' : b.recompute s.transactions.records = .ok totals' := h'.ofYear _ hc' hyear
      exact congrArg some (Except.ok.inj (hrecompute.symm.trans hrecompute'))
    · have hsame := Table.eq_of_id_eq (h.ofOtherYears _ hc hyear) (h'.ofOtherYears _ hc' hyear) rfl
      exact congrArg (fun b : Budget => some b.totals) hsame

/-- Recalculation goes on from what an interrupted one has left. -/
theorem IsRecalculated.of_recalculateAll (hids : (bs.map (·.id)).Nodup)
    (hbs : ∀ b ∈ bs, b ∈ s.yearBudgets fiscalYear) (h : (s.recalculateAll bs).IsRecalculated fiscalYear t) :
    s.IsRecalculated fiscalYear t where
  others := by
    have hleft := s.writeAll_eq (bs.map (·.recalculated s.transactions.records))
    rw [h.others]
    exact congrArg (fun left : Store => { left with budgets := t.budgets }) hleft
  same := (sameBudgets_recalculateAll fun b hb => (mem_yearBudgets.mp (hbs b hb)).1).trans h.same
  ofYear := by
    intro c hc hyear
    have hrecompute := h.ofYear c hc hyear
    have htransactions : (s.recalculateAll bs).transactions = s.transactions := s.writeAll_transactions _
    rwa [htransactions] at hrecompute
  ofOtherYears := fun c hc hother =>
    mem_of_mem_recalculateAll hids (fun b hb => (mem_yearBudgets.mp (hbs b hb)).2) (h.ofOtherYears c hc hother) hother

/-! ## Another attempt -/

/-- What was recalculated has room for its totals once more: they depend on the transactions alone. -/
theorem HasRoomForTotals.again (hroom : s.HasRoomForTotals (s.yearBudgets fiscalYear)) (k : Nat) :
    (s.recalculateAll ((s.yearBudgets fiscalYear).take k)).HasRoomForTotals
      ((s.recalculateAll ((s.yearBudgets fiscalYear).take k)).yearBudgets fiscalYear) := by
  have htransactions : (s.recalculateAll ((s.yearBudgets fiscalYear).take k)).transactions = s.transactions :=
    s.writeAll_transactions _
  rw [yearBudgets_recalculateAll_take]
  intro c hc
  rw [htransactions]
  rcases List.mem_append.mp hc with hc | hc
  · obtain ⟨b, hb, rfl⟩ := List.mem_map.mp hc
    exact hroom b (List.mem_of_mem_take hb)
  · exact hroom c (List.mem_of_mem_drop hc)

/-- The budgets that were recalculated before have not drifted since. -/
theorem drift_again (hroom : s.HasRoomForTotals (s.yearBudgets fiscalYear)) (hk : k ≤ (s.yearBudgets fiscalYear).length) :
    ∀ b ∈ ((s.recalculateAll ((s.yearBudgets fiscalYear).take k)).yearBudgets fiscalYear).take k,
      (b.reconciled s.transactions.records).drift = [] := by
  intro c hc
  rw [yearBudgets_recalculateAll_take, List.take_append_of_le_length (by simpa using hk)] at hc
  obtain ⟨b, hb, rfl⟩ := List.mem_map.mp (List.mem_of_mem_take hc)
  obtain ⟨totals, hrecompute⟩ := hroom b (List.mem_of_mem_take hb)
  exact Budget.drift_reconciled_again hrecompute

/-- Recalculation of a fiscal year stops at the first budget that cannot be written, whichever it is, and however the
cached totals have drifted.  The budgets before it have their recomputed totals and everything else is as it was.  Another
attempt succeeds.  It reports for each budget what it changed, which is nothing for those that were written before, and
it leads to the totals that one attempt without the failure leads to. -/
theorem recalculateFiscalYear_rerun (hroom : s.HasRoomForTotals (s.yearBudgets fiscalYear))
    (hk : k < (s.yearBudgets fiscalYear).length) (e : StoreError) :
    ∃ left outages, (FailingStore.mk s [.ofBudgetWrites k e]).perform (.recalculateFiscalYear fiscalYear) =
        (.error e.toFailure, ⟨left, outages⟩) ∧
      s.IsPartlyRecalculated fiscalYear k left ∧
      ∃ results final, left.perform (.recalculateFiscalYear fiscalYear) = (.ok results, final) ∧
        List.Forall₂ (fun b r => r.Reports b ∧ r.budget ∈ final.budgets) (left.yearBudgets fiscalYear) results ∧
        (∀ r ∈ results.take k, r.drift = []) ∧ s.IsRecalculated fiscalYear final ∧
        ∃ results' clean, s.perform (.recalculateFiscalYear fiscalYear) = (.ok results', clean) ∧
          ∀ id, (final.budgets.find? id).map (·.totals) = (clean.budgets.find? id).map (·.totals) := by
  have htransactions : (s.recalculateAll ((s.yearBudgets fiscalYear).take k)).transactions = s.transactions :=
    s.writeAll_transactions _
  have hfinal := isRecalculated (hroom.again k)
  have hrerun : s.IsRecalculated fiscalYear _ := hfinal.of_recalculateAll
    ((s.nodup_yearBudgets fiscalYear).sublist ((List.take_sublist k _).map _)) fun b hb => List.mem_of_mem_take hb
  refine ⟨_, _, perform_recalculateFiscalYear_interrupted hroom hk e, isPartlyRecalculated hroom k, _, _,
    perform_recalculateFiscalYear (hroom.again k), ?_, ?_, hrerun, _, _, perform_recalculateFiscalYear hroom,
    hrerun.totals_eq (isRecalculated hroom)⟩
  · refine List.forall₂_map_right_iff.mpr (List.forall₂_same.mpr fun b hb => ⟨b.reports_reconciled _, ?_⟩)
    exact (mem_recalculateAll (nodup_yearBudgets _ fiscalYear)).mpr (.inl ⟨b, hb, rfl⟩)
  · rw [← List.map_take, htransactions]
    exact List.forall_mem_map.mpr (drift_again hroom hk.le)

/-- Two budgets of one year and one of another, none of which has the totals of its transactions. -/
def driftedFunds : Store where
  budgets := .ofList
    [.create 11 "books" 1 9 .usd, { Budget.create 12 "journals" 2 9 .usd with totals := .replicate 7.00, version := 3 },
      .create 13 "maps" 1 8 .usd]
  transactions := .ofList [allocationToBooks, pendingFrom 23 2 4.505, pendingFrom 24 1 1.00]

theorem recalculateFiscalYear_rerun_driftedFunds :
    let e : StoreError := .unavailable "update_budget failed"
    driftedFunds.HasRoomForTotals (driftedFunds.yearBudgets 9) ∧ 1 < (driftedFunds.yearBudgets 9).length ∧
      ∃ left outages, (FailingStore.mk driftedFunds [.ofBudgetWrites 1 e]).perform (.recalculateFiscalYear 9) =
          (.error e.toFailure, ⟨left, outages⟩) ∧
        driftedFunds.IsPartlyRecalculated 9 1 left ∧
        ∃ results final, left.perform (.recalculateFiscalYear 9) = (.ok results, final) ∧
          (∀ r ∈ results.take 1, r.drift = []) ∧ driftedFunds.IsRecalculated 9 final := by
  intro e
  have hroom : driftedFunds.HasRoomForTotals (driftedFunds.yearBudgets 9) :=
    hasRoomForTotals_of_currency (by decide) (by decide)
  have hk : 1 < (driftedFunds.yearBudgets 9).length := by decide
  obtain ⟨left, outages, hfails, hleft, results, final, hrerun, -, hdrift, hfinal, -⟩ :=
    recalculateFiscalYear_rerun hroom hk e
  exact ⟨hroom, hk, left, outages, hfails, hleft, results, final, hrerun, hdrift, hfinal⟩

end Store

end FundLedger
