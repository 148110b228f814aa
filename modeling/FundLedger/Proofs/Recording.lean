import FundLedger.Proofs.Consistency
import FundLedger.Proofs.Incremental
import FundLedger.Proofs.Screening
/-!
# Recording a transaction

On a consistent store a transaction with a new identifier is either refused, and nothing is written, or it is recorded
and applied to every budget that covers it, and the store is consistent again.

* `Store.writeAll`, `Store.mem_writeAll`: some budgets written one after the other.
* `Store.SameBudgets`: stores whose budgets differ in totals and versions only.
* `Store.perform_applyToAll`: a transaction applied to budgets as they are stored.
* `Store.Consistent.createTransaction`: recording on a consistent store.
-/

namespace FundLedger

/-! ## Written budgets -/

namespace Store

variable {s : Store} {b b' c : Budget}

/-- The store after a budget was written. -/
def write (s : Store) (b : Budget) : Store := { s with budgets := s.budgets.put { b with version := b.version + 1 } }

/-- The store after some budgets were written. -/
def writeAll (s : Store) (bs : List Budget) : Store := bs.foldl write s

/-- A budget with the version of the stored one is written. -/
theorem updateBudget_of_mem (hb : b ∈ s.budgets) (hid : b'.id = b.id) (hversion : b'.version = b.version) :
    s.updateBudget b' = (.ok { b' with version := b'.version + 1 }, s.write b') := by
  have hfind : s.budgets.find? b'.id = some b := Table.find?_eq_some_iff.mpr ⟨hb, hid.symm⟩
  unfold updateBudget
  rw [hfind]
  simp only [hversion, if_true]
  rw [← hversion]
  rfl

theorem perform_updateBudget_of_mem (hb : b ∈ s.budgets) (hid : b'.id = b.id) (hversion : b'.version = b.version) :
    s.perform (Operation.request (.updateBudget b')) =
      (.ok { b' with version := b'.version + 1 }, s.write b') := by
  rw [perform_request]
  change ((s.updateBudget b').1.mapError StoreError.toFailure, (s.updateBudget b').2) = _
  rw [updateBudget_of_mem hb hid hversion]
  rfl

/-- A transaction is stored. -/
theorem perform_request_createTransaction (s : Store) (tx : Transaction) :
    s.perform (Operation.request (.createTransaction tx)) = (.ok tx, { s with transactions := s.transactions.put tx }) :=
  rfl

theorem mem_write : c ∈ (s.write b).budgets ↔ c = { b with version := b.version + 1 } ∨ c ∈ s.budgets ∧ c.id ≠ b.id :=
  Table.mem_put

theorem write_transactions (s : Store) (b : Budget) : (s.write b).transactions = s.transactions := rfl

/-- Nothing else is written. -/
theorem writeAll_eq (s : Store) (bs : List Budget) : s.writeAll bs = { s with budgets := (s.writeAll bs).budgets } := by
  induction bs generalizing s with
  | nil => rfl
  | cons b rest ih => exact ih (s.write b)

theorem writeAll_transactions (s : Store) (bs : List Budget) : (s.writeAll bs).transactions = s.transactions := by
  rw [writeAll_eq]

/-- A stored budget is one of the written ones, or it was stored before and is not written. -/
theorem mem_writeAll {bs : List Budget} (hids : (bs.map (·.id)).Nodup) :
    c ∈ (s.writeAll bs).budgets ↔
      (∃ b ∈ bs, c = { b with version := b.version + 1 }) ∨ c ∈ s.budgets ∧ ∀ b ∈ bs, c.id ≠ b.id := by
  induction bs generalizing s with
  | nil => simp [writeAll]
  | cons b rest ih =>
    obtain ⟨hb, hrest⟩ := List.nodup_cons.mp hids
    have hne : ∀ b' ∈ rest, b.id ≠ b'.id := fun b' hb' heq => hb (List.mem_map.mpr ⟨b', hb', heq.symm⟩)
    change c ∈ ((s.write b).writeAll rest).budgets ↔ _
    rw [ih hrest, mem_write]
    constructor
    · rintro (⟨b', hb', rfl⟩ | ⟨rfl | ⟨hc, hcb⟩, hall⟩)
      · exact .inl ⟨b', List.mem_cons_of_mem b hb', rfl⟩
      · exact .inl ⟨b, List.mem_cons_self, rfl⟩
      · exact .inr ⟨hc, List.forall_mem_cons.mpr ⟨hcb, hall⟩⟩
    · rintro (⟨b', hb', rfl⟩ | ⟨hc, hall⟩)
      · rcases List.mem_cons.mp hb' with rfl | hb'
        · exact .inr ⟨.inl rfl, hne⟩
        · exact .inl ⟨b', hb', rfl⟩
      · obtain ⟨hcb, hall⟩ := List.forall_mem_cons.mp hall
        exact .inr ⟨.inr ⟨hc, hcb⟩, hall⟩

/-- The same budgets, of which totals and versions may differ. -/
structure SameBudgets (s s' : Store) : Prop where
  of_mem : ∀ c ∈ s'.budgets, ∃ b ∈ s.budgets, ∃ totals version, c = { b with totals, version }
  mem : ∀ b ∈ s.budgets, ∃ totals version, { b with totals, version } ∈ s'.budgets

namespace SameBudgets

variable {s' s'' : Store}

theorem of_eq (h : s'.budgets = s.budgets) : s.SameBudgets s' where
  of_mem := fun c hc => ⟨c, h ▸ hc, c.totals, c.version, rfl⟩
  mem := fun b hb => ⟨b.totals, b.version, h.symm ▸ hb⟩

theorem symm (h : s.SameBudgets s') : s'.SameBudgets s where
  of_mem := by
    intro b hb
    obtain ⟨totals, version, hc⟩ := h.mem b hb
    exact ⟨_, hc, b.totals, b.version, rfl⟩
  mem := by
    intro c hc
    obtain ⟨b, hb, totals, version, rfl⟩ := h.of_mem c hc
    exact ⟨b.totals, b.version, hb⟩

theorem trans (h : s.SameBudgets s') (h' : s'.SameBudgets s'') : s.SameBudgets s'' where
  of_mem := by
    intro d hd
    obtain ⟨c, hc, totals, version, rfl⟩ := h'.of_mem d hd
    obtain ⟨b, hb, _, _, rfl⟩ := h.of_mem c hc
    exact ⟨b, hb, totals, version, rfl⟩
  mem := by
    intro b hb
    obtain ⟨_, _, hc⟩ := h.mem b hb
    obtain ⟨totals, version, hd⟩ := h'.mem _ hc
    exact ⟨totals, version, hd⟩

/-- A stored budget written with other totals. -/
theorem write (hb : b ∈ s.budgets) (totals : Totals Decimal) (version : Int64) :
    s.SameBudgets (s.write { b with totals, version }) where
  of_mem := by
    intro c hc
    rcases mem_write.mp hc with rfl | ⟨hc, -⟩
    · exact ⟨b, hb, totals, version + 1, rfl⟩
    · exact ⟨c, hc, c.totals, c.version, rfl⟩
  mem := by
    intro c hc
    by_cases hid : c.id = b.id
    · obtain rfl := Table.eq_of_id_eq hc hb hid
      exact ⟨totals, version + 1, mem_write.mpr (.inl rfl)⟩
    · exact ⟨c.totals, c.version, mem_write.mpr (.inr ⟨hc, hid⟩)⟩

theorem writeAll {bs : List Budget} (h : ∀ c ∈ bs, ∃ b ∈ s.budgets, ∃ totals version, c = { b with totals, version }) :
    s.SameBudgets (s.writeAll bs) := by
  induction bs generalizing s with
  | nil => exact .of_eq rfl
  | cons c rest ih =>
    obtain ⟨⟨b, hb, totals, version, rfl⟩, hrest⟩ := List.forall_mem_cons.mp h
    have hfirst := SameBudgets.write hb totals version
    refine hfirst.trans (ih fun c hc => ?_)
    obtain ⟨b', hb', totals', version', rfl⟩ := hrest c hc
    obtain ⟨_, _, hstored⟩ := hfirst.mem b' hb'
    exact ⟨_, hstored, totals', version', rfl⟩

end SameBudgets

end Store

/-! ## Computations that went through -/

section Results

variable {ε ε' α β : Type} {result : Except ε α} {a : α} {b : β}

theorem eq_ok_of_mapError {f : ε → ε'} (h : result.mapError f = .ok a) : result = .ok a := by
  cases result with
  | error e => cases h
  | ok x => exact congrArg Except.ok (Except.ok.inj h)

theorem exists_ok_of_bind {f : α → Except ε β} (h : (result >>= f) = .ok b) : ∃ a, result = .ok a ∧ f a = .ok b := by
  cases result with
  | error e => cases h
  | ok a => exact ⟨a, rfl, h⟩

end Results

/-! ## Budgets of a transaction -/

theorem Transaction.nodup_funds (tx : Transaction) : tx.funds.Nodup := by
  unfold funds
  cases tx.fromFund with
  | none => cases tx.toFund <;> simp
  | some sender =>
    cases tx.toFund with
    | none => simp
    | some receiver => by_cases h : sender = receiver <;> simp [h]

/-- The budget after a transaction, or as it was if that overflows. -/
def Budget.applied (b : Budget) (tx : Transaction) (recorded : List Transaction) : Budget :=
  (b.applyWithHistory tx recorded).toOption.getD b

theorem Budget.applied_eq {b b' : Budget} {tx : Transaction} {recorded : List Transaction}
    (h : b.applyWithHistory tx recorded = .ok b') : b.applied tx recorded = b' := by
  unfold applied
  rw [h]
  rfl

/-- A transaction changes the totals of a budget only. -/
theorem Budget.applyWithHistory_eq_ok {b b' : Budget} {tx : Transaction} {recorded : List Transaction}
    (h : b.applyWithHistory tx recorded = .ok b') : ∃ totals, b' = { b with totals } := by
  unfold applyWithHistory applyEffects at h
  split at h
  · cases h
    exact ⟨b.totals, rfl⟩
  · obtain ⟨sums, -, h⟩ := exists_ok_of_bind h
    obtain ⟨totals, -, h⟩ := exists_ok_of_bind h
    cases h
    exact ⟨_, rfl⟩

/-- Recomputed totals change the totals of a budget only. -/
theorem Budget.reconcile_eq_ok {b : Budget} {history : List Transaction} {r : Reconciliation}
    (h : b.reconcile history = .ok r) : ∃ totals, b.recompute history = .ok totals ∧ r.budget = { b with totals } := by
  obtain ⟨totals, hrecompute, h⟩ := exists_ok_of_bind h
  cases h
  exact ⟨totals, hrecompute, rfl⟩

theorem Budget.exists_applied (b : Budget) (tx : Transaction) (recorded : List Transaction) :
    ∃ totals, b.applied tx recorded = { b with totals } := by
  unfold applied
  cases happly : b.applyWithHistory tx recorded with
  | error e => exact ⟨b.totals, rfl⟩
  | ok b' => exact applyWithHistory_eq_ok happly

namespace Store

variable {s : Store} {b : Budget} {tx : Transaction} {recorded : List Transaction}

theorem mem_of_budgetOf? {fund : FundId} {fiscalYear : FiscalYearId} (h : s.budgetOf? fund fiscalYear = some b) :
    b ∈ s.budgets ∧ b.fund = fund ∧ b.fiscalYear = fiscalYear := by
  have hb := List.find?_some h
  rw [Bool.and_eq_true, decide_eq_true_eq, decide_eq_true_eq] at hb
  exact ⟨List.mem_of_find?_eq_some h, hb⟩

theorem budgetOf?_eq_some (h : s.OneBudget) (hb : b ∈ s.budgets) : s.budgetOf? b.fund b.fiscalYear = some b := by
  cases hfind : s.budgetOf? b.fund b.fiscalYear with
  | none =>
    have hnone := List.find?_eq_none.mp hfind b hb
    simp at hnone
  | some b' =>
    obtain ⟨hb', hfund, hyear⟩ := mem_of_budgetOf? hfind
    rw [h b' hb' b hb hfund hyear]

theorem mem_of_mem_budgetsOf (h : b ∈ s.budgetsOf tx) : b ∈ s.budgets ∧ b.covers tx = true := by
  obtain ⟨fund, hfund, hb⟩ := List.mem_filterMap.mp h
  obtain ⟨hmem, rfl, hyear⟩ := mem_of_budgetOf? hb
  refine ⟨hmem, ?_⟩
  unfold Budget.covers
  rw [hyear, beq_self_eq_true, Bool.true_and]
  exact tx.mem_funds.mp hfund

/-- In a consistent store the budgets of a transaction are all that cover it. -/
theorem mem_budgetsOf (h : s.Consistent) : b ∈ s.budgetsOf tx ↔ b ∈ s.budgets ∧ b.covers tx = true := by
  refine ⟨mem_of_mem_budgetsOf, fun ⟨hb, hcovers⟩ => ?_⟩
  obtain ⟨hyear, htouches⟩ := Bool.and_eq_true_iff.mp hcovers
  refine List.mem_filterMap.mpr ⟨b.fund, tx.mem_funds.mpr htouches, ?_⟩
  rw [eq_of_beq hyear]
  exact budgetOf?_eq_some h.oneBudget hb

theorem nodup_budgetsOf (s : Store) (tx : Transaction) : ((s.budgetsOf tx).map (·.id)).Nodup := by
  have hnodup : (s.budgetsOf tx).Nodup := by
    refine List.Nodup.filterMap (fun fund fund' b hb hb' => ?_) tx.nodup_funds
    rw [← (mem_of_budgetOf? hb).2.1, (mem_of_budgetOf? hb').2.1]
  exact hnodup.map_on fun b hb b' hb' hid =>
    Table.eq_of_id_eq (mem_of_mem_budgetsOf hb).1 (mem_of_mem_budgetsOf hb').1 hid

theorem perform_discard {α : Type} (d : Operation α) :
    s.perform (discard d) =
      match s.perform d with
      | (.ok _, s') => (.ok (), s')
      | (.error e, s') => (.error e, s') := by
  have hdiscard : discard d = d >>= fun _ => pure () := (bind_pure_comp (fun _ => ()) d).symm
  rw [hdiscard, perform_bind]
  rfl

theorem perform_discard_snd {α : Type} (d : Operation α) : (s.perform (discard d)).2 = (s.perform d).2 := by
  rw [perform_discard]
  rcases s.perform d with ⟨_ | _, s'⟩ <;> rfl

/-- A part of an operation that went through has a result that the rest went on with. -/
theorem perform_bind_eq_ok {α β : Type} {d : Operation α} {f : α → Operation β} {y : β}
    (h : (s.perform (d >>= f)).1 = .ok y) :
    ∃ x, (s.perform d).1 = .ok x ∧ s.perform (d >>= f) = (s.perform d).2.perform (f x) := by
  rw [perform_bind] at h ⊢
  rcases hperform : s.perform d with ⟨e | x, s'⟩
  · rw [hperform] at h
    cases h
  · exact ⟨x, rfl, rfl⟩

/-- A transaction applied to a budget as it is stored. -/
theorem perform_applyTo {totals : Totals Decimal} (hb : b ∈ s.budgets)
    (happly : b.applyWithHistory tx recorded = .ok { b with totals }) :
    s.perform (Operation.applyTo tx recorded b) = (.ok (), s.write { b with totals }) := by
  have hwrite : s.perform (Operation.request (.updateBudget { b with totals })) =
      (.ok { b with totals, version := b.version + 1 }, s.write { b with totals }) :=
    perform_updateBudget_of_mem hb rfl rfl
  unfold Operation.applyTo
  simp only [perform_bind, perform_ofArithmetic, happly, Except.mapError, perform_discard, hwrite]

/-- The other budgets are stored as they were. -/
theorem mem_write_of_nodup {rest : List Budget} (totals : Totals Decimal) (hids : ((b :: rest).map (·.id)).Nodup)
    (hstored : ∀ c ∈ b :: rest, c ∈ s.budgets) : ∀ c ∈ rest, c ∈ (s.write { b with totals }).budgets := fun c hc =>
  mem_write.mpr (.inr ⟨hstored c (List.mem_cons_of_mem b hc), fun heq =>
    (List.nodup_cons.mp hids).1 (List.mem_map.mpr ⟨c, hc, heq⟩)⟩)

/-- A transaction applied to budgets as they are stored. -/
theorem perform_applyToAll {todo : List Budget} (hstored : ∀ b ∈ todo, b ∈ s.budgets) (hids : (todo.map (·.id)).Nodup)
    (happly : ∀ b ∈ todo, ∃ totals, b.applyWithHistory tx recorded = .ok { b with totals }) :
    s.perform (Operation.applyToAll tx recorded todo) = (.ok (), s.writeAll (todo.map (·.applied tx recorded))) := by
  induction todo generalizing s with
  | nil => rfl
  | cons b rest ih =>
    obtain ⟨totals, hb⟩ := happly b List.mem_cons_self
    have hnext := ih (mem_write_of_nodup totals hids hstored) (List.nodup_cons.mp hids).2 fun c hc =>
      happly c (List.mem_cons_of_mem b hc)
    unfold Operation.applyToAll
    rw [perform_bind, perform_applyTo (hstored b List.mem_cons_self) hb]
    simp only
    rw [hnext, List.map_cons, Budget.applied_eq hb]
    rfl

end Store

/-! ## Recording -/

section Recording

variable {s : Store} {b : Budget} {tx : Transaction} {txs : List Transaction}

/-- The recorded transaction has the same rounded amount. -/
theorem Transaction.minorAmount_normalized (tx : Transaction) : tx.normalized.minorAmount = tx.minorAmount :=
  tx.counts_roundedAmount.round.minor_eq

theorem Transaction.historyIn_sublist (tx : Transaction) (txs : List Transaction) :
    (tx.historyIn txs).Sublist txs := by
  unfold historyIn
  split
  · exact List.filter_sublist
  · exact List.nil_sublist txs

/-- What an allocation is told knows the allocations that its receiver got from others. -/
theorem Budget.knowsReceived_historyIn (hyear : tx.fiscalYear = b.fiscalYear) (txs : List Transaction) :
    b.KnowsReceived tx (tx.historyIn txs) (txs.filter fun t => t.id != tx.id) := by
  intro hreceived
  obtain ⟨hkind, hrole⟩ : tx.kind = .allocation ∧ tx.toFund = some b.fund := by
    simpa [Transaction.isReceivedBy, Transaction.hasRole] using hreceived
  unfold Transaction.historyIn Transaction.othersOfYear receivedAllocations scope
  rw [hkind, hrole]
  simp only [List.filter_filter]
  refine List.Perm.of_eq (List.filter_congr fun t _ => ?_)
  unfold Transaction.isAmong Transaction.touches
  rw [hyear]
  simp only [List.any_cons, List.any_nil, List.isEmpty_cons]
  cases t.kind <;> cases t.hasRole b.fund .receiver <;> cases t.hasRole b.fund .sender <;>
    cases t.id != tx.id <;> cases t.fiscalYear == b.fiscalYear <;> rfl

namespace Store

/-- The store after a transaction was recorded and applied to its budgets. -/
def recorded (s : Store) (tx : Transaction) : Store :=
  { s with transactions := s.transactions.put tx }.writeAll
    ((s.budgetsOf tx).map fun b : Budget => b.applied tx (s.historyFor tx))

theorem sameBudgets_recorded (s : Store) (tx : Transaction) : s.SameBudgets (s.recorded tx) := by
  have hsame : s.SameBudgets { s with transactions := s.transactions.put tx } := .of_eq rfl
  refine hsame.trans (.writeAll fun c hc => ?_)
  obtain ⟨b, hb, rfl⟩ := List.mem_map.mp hc
  obtain ⟨totals, happlied⟩ := b.exists_applied tx (s.historyFor tx)
  exact ⟨b, (mem_of_mem_budgetsOf hb).1, totals, b.version, happlied⟩

theorem filter_ids_of_fresh (hfresh : s.transactions.find? tx.id = none) :
    (s.transactions.records.filter fun t => t.id != tx.id) = s.transactions.records :=
  List.filter_eq_self.mpr fun t ht => bne_iff_ne.mpr (Table.find?_eq_none_iff.mp hfresh t ht)

/-- The budgets of an admitted transaction are in its currency. -/
theorem Consistent.currency_of_admission (h : s.Consistent) {context : AdmissionContext}
    (hcontext : context.budgets = s.budgetsOf tx) (hadmission : tx.admission context = .ok ())
    (hb : b ∈ s.budgetsOf tx) : tx.currency = b.currency := by
  obtain ⟨hmem, hcovers⟩ := mem_of_mem_budgetsOf hb
  obtain ⟨hyear, htouches⟩ := Bool.and_eq_true_iff.mp hcovers
  obtain ⟨b', hb', hcurrency⟩ := Transaction.admission_currency hadmission b.fund (tx.mem_funds.mpr htouches)
  have hfund : (b'.fund == b.fund) = true := List.find?_some (p := fun c : Budget => c.fund == b.fund) hb'
  have hin : b' ∈ s.budgetsOf tx := hcontext ▸ List.mem_of_find?_eq_some hb'
  obtain ⟨hmem', hcovers'⟩ := mem_of_mem_budgetsOf hin
  obtain ⟨hyear', -⟩ := Bool.and_eq_true_iff.mp hcovers'
  rwa [h.oneBudget b' hmem' b hmem (eq_of_beq hfund) ((eq_of_beq hyear').symm.trans (eq_of_beq hyear))] at hcurrency

theorem Consistent.countable_cons (h : s.Consistent) (hfresh : s.transactions.find? tx.id = none)
    (small : s.volume + tx.minorAmount.natAbs < 2 ^ 94) (hb : b ∈ s.budgets)
    (hcurrency : b.covers tx = true → tx.currency = b.currency) : b.Countable (tx :: s.transactions.records) where
  currency := by
    intro t ht
    obtain ⟨hmem, hcovers⟩ := List.mem_filter.mp ht
    rcases List.mem_cons.mp hmem with rfl | hmem
    · exact hcurrency hcovers
    · exact h.currency b hb t hmem hcovers
  ids := by
    refine List.nodup_cons.mpr ⟨fun hmem => ?_, s.transactions.nodup_ids⟩
    obtain ⟨t, ht, hid⟩ := List.mem_map.mp hmem
    exact Table.find?_eq_none_iff.mp hfresh t ht hid
  small := by
    rw [volume_cons, Nat.add_comm]
    exact small

/-- A budget of a new transaction holds the tally with it when that was applied. -/
theorem Consistent.applied_holds (h : s.Consistent) (hfresh : s.transactions.find? tx.id = none)
    (small : s.volume + tx.minorAmount.natAbs < 2 ^ 94) (hb : b ∈ s.budgetsOf tx) (hcurrency : tx.currency = b.currency) :
    ∃ totals, b.applyWithHistory tx (s.historyFor tx) = .ok { b with totals } ∧
      { b with totals }.Reflects (tx :: s.transactions.records) := by
  obtain ⟨hmem, hcovers⟩ := mem_of_mem_budgetsOf hb
  obtain ⟨hyear, -⟩ := Bool.and_eq_true_iff.mp hcovers
  have hcount := h.countable_cons hfresh small hmem fun _ => hcurrency
  have hholds := (Budget.reflects_iff (hcount.sublist (List.sublist_cons_self ..))).mp (h.totals b hmem)
  have hrecorded : ((s.historyFor tx).map (·.id)).Nodup :=
    s.transactions.nodup_ids.sublist ((tx.historyIn_sublist _).map _)
  have hknows := Budget.knowsReceived_historyIn (eq_of_beq hyear) s.transactions.records
  rw [filter_ids_of_fresh hfresh] at hknows
  obtain ⟨totals, happly, hnext⟩ :=
    Budget.applyWithHistory_holds hholds hcount (eq_of_beq hyear) hrecorded hknows
  exact ⟨totals, happly, (Budget.reflects_iff (hcount.withTotals totals b.version)).mpr hnext⟩

/-- A budget that does not cover the new transaction reflects it as it is. -/
theorem Consistent.reflects_of_not_covers (h : s.Consistent) (hfresh : s.transactions.find? tx.id = none)
    (small : s.volume + tx.minorAmount.natAbs < 2 ^ 94) (hb : b ∈ s.budgets) (hcovers : b.covers tx = false) :
    b.Reflects (tx :: s.transactions.records) := by
  have hcount := h.countable_cons hfresh small hb fun hcov => absurd hcov (by simp [hcovers])
  rw [Budget.reflects_iff hcount, Budget.tally_cons_of_not_covers hcovers]
  exact (Budget.reflects_iff (hcount.sublist (List.sublist_cons_self ..))).mp (h.totals b hb)

/-- The budgets afterwards: those of the transaction were applied to and written, the others are as they were. -/
theorem mem_recorded_iff
    (happly : ∀ b ∈ s.budgetsOf tx, ∃ totals, b.applyWithHistory tx (s.historyFor tx) = .ok { b with totals })
    {c : Budget} :
    c ∈ (s.recorded tx).budgets ↔
      (∃ b ∈ s.budgetsOf tx, ∃ totals, b.applyWithHistory tx (s.historyFor tx) = .ok { b with totals } ∧
        c = { b with totals, version := b.version + 1 }) ∨
      c ∈ s.budgets ∧ ∀ b ∈ s.budgetsOf tx, c.id ≠ b.id := by
  have happlied : ∀ b ∈ s.budgetsOf tx, (b.applied tx (s.historyFor tx)).id = b.id := by
    intro b hb
    obtain ⟨totals, hok⟩ := happly b hb
    rw [Budget.applied_eq hok]
  have hids : (((s.budgetsOf tx).map fun b : Budget => b.applied tx (s.historyFor tx)).map (·.id)).Nodup := by
    have hsame : ((s.budgetsOf tx).map fun b : Budget => (b.applied tx (s.historyFor tx)).id) =
        (s.budgetsOf tx).map (·.id) := List.map_congr_left happlied
    rw [List.map_map]
    exact hsame ▸ nodup_budgetsOf s tx
  refine (mem_writeAll hids).trans ?_
  constructor
  · rintro (⟨b', hb', rfl⟩ | ⟨hmem, hother⟩)
    · obtain ⟨b, hb, rfl⟩ := List.mem_map.mp hb'
      obtain ⟨totals, hok⟩ := happly b hb
      rw [Budget.applied_eq hok]
      exact .inl ⟨b, hb, totals, hok, rfl⟩
    · refine .inr ⟨hmem, fun b hb => ?_⟩
      rw [← happlied b hb]
      exact hother _ (List.mem_map_of_mem hb)
  · rintro (⟨b, hb, totals, hok, rfl⟩ | ⟨hmem, hother⟩)
    · exact .inl ⟨_, List.mem_map_of_mem hb, by rw [Budget.applied_eq hok]⟩
    · refine .inr ⟨hmem, fun b' hb' => ?_⟩
      obtain ⟨b, hb, rfl⟩ := List.mem_map.mp hb'
      rw [happlied b hb]
      exact hother b hb

/-- A store with one more transaction, whose budgets reflect that. -/
theorem Consistent.of_reflects {s' : Store} (h : s.Consistent)
    (hperm : s'.transactions.records.Perm (tx :: s.transactions.records)) (hfresh : s.transactions.find? tx.id = none)
    (small : s.volume + tx.minorAmount.natAbs < 2 ^ 94) (hcurrency : ∀ b ∈ s.budgetsOf tx, tx.currency = b.currency)
    (hbudgets : ∀ c ∈ s'.budgets, ∃ b ∈ s.budgets, ∃ totals version,
      c = { b with totals, version } ∧ c.Reflects (tx :: s.transactions.records)) : s'.Consistent := by
  constructor
  · intro c hc c' hc' hfund hyear
    obtain ⟨b, hb, totals, version, rfl, -⟩ := hbudgets c hc
    obtain ⟨b', hb', totals', version', rfl, -⟩ := hbudgets c' hc'
    obtain rfl := h.oneBudget b hb b' hb' hfund hyear
    exact Table.eq_of_id_eq hc hc' rfl
  · intro c hc t ht hcovers
    obtain ⟨b, hb, totals, version, rfl, -⟩ := hbudgets c hc
    rcases List.mem_cons.mp (hperm.mem_iff.mp ht) with rfl | ht
    · exact hcurrency b ((mem_budgetsOf h).mpr ⟨hb, hcovers⟩)
    · exact h.currency b hb t ht hcovers
  · intro c hc
    obtain ⟨b, hb, totals, version, rfl, hreflects⟩ := hbudgets c hc
    have hcount := h.countable_cons hfresh small hb fun hcovers =>
      hcurrency b ((mem_budgetsOf h).mpr ⟨hb, hcovers⟩)
    exact hreflects.perm (hcount.withTotals totals version) hperm.symm

/-- A store with a new transaction that was applied to all its budgets. -/
theorem Consistent.recorded (h : s.Consistent) (hfresh : s.transactions.find? tx.id = none)
    (small : s.volume + tx.minorAmount.natAbs < 2 ^ 94)
    (hcurrency : ∀ b ∈ s.budgetsOf tx, tx.currency = b.currency) : (s.recorded tx).Consistent := by
  have htransactions : (s.recorded tx).transactions = s.transactions.put tx := writeAll_transactions _ _
  have hperm : (s.recorded tx).transactions.records.Perm (tx :: s.transactions.records) := by
    rw [htransactions]
    exact Table.put_perm_of_fresh hfresh
  have hholds : ∀ b ∈ s.budgetsOf tx, ∃ totals, b.applyWithHistory tx (s.historyFor tx) = .ok { b with totals } ∧
      { b with totals }.Reflects (tx :: s.transactions.records) := fun b hb =>
    h.applied_holds hfresh small hb (hcurrency b hb)
  refine h.of_reflects hperm hfresh small hcurrency fun c hc => ?_
  have happly : ∀ b ∈ s.budgetsOf tx, ∃ totals, b.applyWithHistory tx (s.historyFor tx) = .ok { b with totals } :=
    fun b hb => (hholds b hb).imp fun _ hok => hok.1
  rcases (mem_recorded_iff happly).mp hc with ⟨b, hb, totals, hok, rfl⟩ | ⟨hmem, hother⟩
  · obtain ⟨totals', hok', hreflects⟩ := hholds b hb
    obtain rfl : totals = totals' := congrArg Budget.totals (Except.ok.inj (hok.symm.trans hok'))
    exact ⟨b, (mem_of_mem_budgetsOf hb).1, totals, b.version + 1, rfl, hreflects⟩
  · -- a budget that was not written does not cover the transaction
    have hcovers : c.covers tx = false := by
      rw [← Bool.not_eq_true]
      exact fun hcovers => hother c ((mem_budgetsOf h).mpr ⟨hmem, hcovers⟩) rfl
    exact ⟨c, hmem, c.totals, c.version, rfl, h.reflects_of_not_covers hfresh small hmem hcovers⟩

/-- Writing a screened transaction, when it can be applied to each of its budgets. -/
theorem perform_record
    (happly : ∀ b ∈ s.budgetsOf tx, ∃ totals, b.applyWithHistory tx (s.historyFor tx) = .ok { b with totals }) :
    s.perform (Operation.record tx (s.budgetsOf tx, s.historyFor tx)) = (.ok tx, s.recorded tx) := by
  have happlyAll : { s with transactions := s.transactions.put tx }.perform
      (Operation.applyToAll tx (s.historyFor tx) (s.budgetsOf tx)) = (.ok (), s.recorded tx) :=
    perform_applyToAll (fun b hb => (mem_of_mem_budgetsOf hb).1) (nodup_budgetsOf s tx) happly
  unfold Operation.record
  rw [perform_bind, perform_request_createTransaction]
  simp only [perform_bind, happlyAll, perform_pure]

/-- What has passed the screening can be applied to its budgets. -/
theorem Consistent.holds_of_screened (h : s.Consistent) (hfresh : s.transactions.find? tx.id = none)
    (small : s.volume + tx.minorAmount.natAbs < 2 ^ 94) {screened : List Budget × List Transaction}
    (hscreened : s.perform (Operation.screen tx) = (.ok screened, s)) :
    screened = (s.budgetsOf tx, s.historyFor tx) ∧ ∀ b ∈ s.budgetsOf tx, tx.currency = b.currency ∧
      ∃ totals, b.applyWithHistory tx (s.historyFor tx) = .ok { b with totals } ∧
        { b with totals }.Reflects (tx :: s.transactions.records) := by
  rcases s.perform_screen tx with ⟨e, he⟩ | ⟨hok, context, hcontext, hadmission⟩
  · cases he.symm.trans hscreened
  · cases hok.symm.trans hscreened
    refine ⟨rfl, fun b hb => ?_⟩
    have hcurrency := h.currency_of_admission hcontext hadmission hb
    exact ⟨hcurrency, h.applied_holds hfresh small hb hcurrency⟩

/-- What is recorded has been admitted with the budgets of the store. -/
theorem admission_of_createTransaction {created : Transaction}
    (h : (s.perform (.createTransaction tx)).1 = .ok created) :
    ∃ context, context.budgets = s.budgetsOf tx.normalized ∧ tx.normalized.admission context = .ok () := by
  rw [Operation.createTransaction_eq, perform_bind] at h
  rcases s.perform_screen tx.normalized with ⟨e, he⟩ | ⟨-, hadmitted⟩
  · rw [he] at h
    cases h
  · exact hadmitted

/-- On a consistent store a new transaction is refused and nothing is written, or it is recorded. -/
theorem Consistent.createTransaction (h : s.Consistent) (hfresh : s.transactions.find? tx.id = none)
    (small : s.volume + tx.minorAmount.natAbs < 2 ^ 94) :
    (∃ e, s.perform (.createTransaction tx) = (.error e, s)) ∨
      (s.perform (.createTransaction tx) = (.ok tx.normalized, s.recorded tx.normalized) ∧
        (s.recorded tx.normalized).Consistent) := by
  rw [Operation.createTransaction_eq, perform_bind]
  rcases s.perform_screen tx.normalized with ⟨e, he⟩ | ⟨hok, context, hcontext, hadmission⟩
  · rw [he]
    exact .inl ⟨e, rfl⟩
  · have small' : s.volume + tx.normalized.minorAmount.natAbs < 2 ^ 94 := by
      rw [tx.minorAmount_normalized]
      exact small
    have hfresh' : s.transactions.find? tx.normalized.id = none := hfresh
    have hcurrency : ∀ b ∈ s.budgetsOf tx.normalized, tx.normalized.currency = b.currency := fun b hb =>
      h.currency_of_admission hcontext hadmission hb
    refine .inr ⟨?_, h.recorded hfresh' small' hcurrency⟩
    rw [hok]
    refine perform_record fun b hb => ?_
    obtain ⟨totals, happly, -⟩ := h.applied_holds hfresh' small' hb (hcurrency b hb)
    exact ⟨totals, happly⟩

end Store

end Recording

end FundLedger
