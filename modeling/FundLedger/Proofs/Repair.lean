import FundLedger.Proofs.Requests
import FundLedger.Proofs.Runs
/-!
# Repair after a failed request

When a request fails while a transaction is recorded, either nothing has been written, or the transaction is stored and
some of its budgets, the first ones, count it.  Recalculation of its budgets then leads to the totals that recording
without the failure leads to.

* `Store.IsPartlyRecorded`: what is left when a budget could not be written.
* `Store.recalculateBudgets`: budgets that are recalculated one after the other.
* `Store.Consistent.failed_request_repaired`: every request that may fail.
-/

namespace FundLedger

/-- The totals that reflect some transactions are the same by value. -/
theorem Budget.Reflects.equiv {b : Budget} {txs : List Transaction} {totals : Totals Decimal} {version : Int64}
    (h : b.Reflects txs) (h' : { b with totals, version }.Reflects txs) : totals.values = b.totals.values := by
  obtain ⟨t, hrecompute, hequiv⟩ := h
  obtain ⟨t', hrecompute', hequiv'⟩ := h'
  have hsame : t = t' := Except.ok.inj (hrecompute.symm.trans hrecompute')
  exact Eq.trans hequiv' (hsame ▸ hequiv.symm)

namespace Store

variable {s t full : Store} {tx : Transaction}

/-! ## What is left -/

/-- The transaction is stored, the first `k` of its budgets are written and count it, and all other records are as they
were. -/
structure IsPartlyRecorded (s : Store) (tx : Transaction) (k : Nat) (left : Store) : Prop where
  lt : k < (s.budgetsOf tx).length
  others : left = { s with transactions := s.transactions.put tx, budgets := left.budgets }
  written : ∀ b ∈ (s.budgetsOf tx).take k, ∃ totals, { b with totals, version := b.version + 1 } ∈ left.budgets ∧
    { b with totals, version := b.version + 1 }.Reflects left.transactions.records
  unwritten : ∀ b ∈ s.budgets, b ∉ (s.budgetsOf tx).take k → b ∈ left.budgets
  ids : ∀ c ∈ left.budgets, ∃ b ∈ s.budgets, c.id = b.id

theorem sameBudgets_partlyRecorded (s : Store) (tx : Transaction) (k : Nat) :
    s.SameBudgets (s.partlyRecorded tx k) := by
  have hbegin : s.SameBudgets (s.begin tx) := .of_eq rfl
  refine hbegin.trans (.writeAll fun c hc => ?_)
  obtain ⟨b, hb, rfl⟩ := List.mem_map.mp hc
  obtain ⟨totals, happlied⟩ := b.exists_applied tx (s.historyFor tx)
  exact ⟨b, (mem_of_mem_budgetsOf (List.mem_of_mem_take hb)).1, totals, b.version, happlied⟩

theorem partlyRecorded_transactions (s : Store) (tx : Transaction) (k : Nat) :
    (s.partlyRecorded tx k).transactions = s.transactions.put tx := writeAll_transactions _ _

/-- The budgets that are stored when the first `k` have been written. -/
theorem mem_partlyRecorded {k : Nat} {c : Budget} :
    c ∈ (s.partlyRecorded tx k).budgets ↔
      (∃ b ∈ (s.budgetsOf tx).take k, c = { b.applied tx (s.historyFor tx) with version := b.version + 1 }) ∨
        c ∈ s.budgets ∧ ∀ b ∈ (s.budgetsOf tx).take k, c.id ≠ b.id := by
  have hid : ∀ b : Budget, (b.applied tx (s.historyFor tx)).id = b.id := by
    intro b
    obtain ⟨totals, happlied⟩ := b.exists_applied tx (s.historyFor tx)
    rw [happlied]
  have hversion : ∀ b : Budget, (b.applied tx (s.historyFor tx)).version = b.version := by
    intro b
    obtain ⟨totals, happlied⟩ := b.exists_applied tx (s.historyFor tx)
    rw [happlied]
  have hids : ((((s.budgetsOf tx).take k).map fun b : Budget => b.applied tx (s.historyFor tx)).map (·.id)).Nodup := by
    rw [List.map_map]
    have hsame : (fun b : Budget => b.id) ∘ (fun b : Budget => b.applied tx (s.historyFor tx)) = (·.id) := funext hid
    rw [hsame]
    exact (nodup_budgetsOf s tx).sublist ((List.take_sublist k _).map _)
  unfold partlyRecorded
  rw [mem_writeAll hids]
  simp only [List.mem_map, forall_exists_index, and_imp, forall_apply_eq_imp_iff₂, hid, exists_exists_and_eq_and,
    hversion]
  rfl

theorem partlyRecorded_eq (s : Store) (tx : Transaction) (k : Nat) :
    s.partlyRecorded tx k =
      { s with transactions := s.transactions.put tx, budgets := (s.partlyRecorded tx k).budgets } :=
  writeAll_eq (s.begin tx) (((s.budgetsOf tx).take k).map fun b : Budget => b.applied tx (s.historyFor tx))

/-- A budget that is not among the first `k` is not written. -/
theorem mem_partlyRecorded_of_unwritten {k : Nat} {b : Budget} (hb : b ∈ s.budgets)
    (hnot : b ∉ (s.budgetsOf tx).take k) : b ∈ (s.partlyRecorded tx k).budgets := by
  refine mem_partlyRecorded.mpr (.inr ⟨hb, fun b' hb' hid => hnot ?_⟩)
  rwa [Table.eq_of_id_eq hb (mem_of_mem_budgetsOf (List.mem_of_mem_take hb')).1 hid]

/-- No budget is new. -/
theorem exists_id_of_mem_partlyRecorded {k : Nat} {c : Budget} (hc : c ∈ (s.partlyRecorded tx k).budgets) :
    ∃ b ∈ s.budgets, c.id = b.id := by
  obtain ⟨b, hb, totals, version, rfl⟩ := (sameBudgets_partlyRecorded s tx k).of_mem c hc
  exact ⟨b, hb, rfl⟩

/-- The store that a write finds when it fails. -/
theorem Consistent.isPartlyRecorded (h : s.Consistent) (hfresh : s.transactions.find? tx.id = none)
    (small : s.volume + tx.minorAmount.natAbs < 2 ^ 94) {screened : List Budget × List Transaction}
    (hscreened : s.perform (Operation.screen tx) = (.ok screened, s)) {k : Nat} (hk : k < (s.budgetsOf tx).length) :
    s.IsPartlyRecorded tx k (s.partlyRecorded tx k) where
  lt := hk
  others := s.partlyRecorded_eq tx k
  written := by
    intro b hb
    obtain ⟨-, hholds⟩ := h.holds_of_screened hfresh small hscreened
    obtain ⟨hcurrency, totals, happly, hreflects⟩ := hholds b (List.mem_of_mem_take hb)
    refine ⟨totals, mem_partlyRecorded.mpr (.inl ⟨b, hb, by rw [Budget.applied_eq happly]⟩), ?_⟩
    have hcount := h.countable_cons hfresh small (mem_of_mem_budgetsOf (List.mem_of_mem_take hb)).1 fun _ => hcurrency
    rw [partlyRecorded_transactions]
    exact hreflects.perm (hcount.withTotals totals b.version) (Table.put_perm_of_fresh hfresh).symm
  unwritten := fun _ => mem_partlyRecorded_of_unwritten
  ids := fun _ => exists_id_of_mem_partlyRecorded

/-! ## Recalculation -/

/-- Budgets are recalculated one after the other; in the end every budget reflects the transactions, when those that did
not were among them. -/
theorem Consistent.recalculateBudgets (h : full.Consistent) (small : full.volume < 2 ^ 94)
    (htransactions : t.transactions = full.transactions) (hsame : full.SameBudgets t) {ids : List BudgetId}
    (hstored : ∀ id ∈ ids, ∃ b ∈ t.budgets, b.id = id)
    (hdone : ∀ c ∈ t.budgets, c.Reflects full.transactions.records ∨ c.id ∈ ids) :
    ∃ results repaired, t.perform (ids.mapM Operation.recalculateBudget) = (.ok results, repaired) ∧
      full.SameBudgets repaired ∧ ∀ c ∈ repaired.budgets, c.Reflects full.transactions.records := by
  induction ids generalizing t with
  | nil => exact ⟨[], t, rfl, hsame, fun c hc => (hdone c hc).resolve_right List.not_mem_nil⟩
  | cons id rest ih =>
    obtain ⟨⟨b, hb, rfl⟩, hstoredRest⟩ := List.forall_mem_cons.mp hstored
    have hcount : b.Countable t.transactions.records := by
      obtain ⟨b', hb', totals, version, rfl⟩ := hsame.of_mem b hb
      rw [htransactions]
      exact (h.countable small hb').withTotals totals version
    obtain ⟨totals, reconciliation, hperform, hreflects⟩ := perform_recalculateBudget hb hcount
    rw [htransactions] at hreflects
    have hfirst : t.SameBudgets (t.write { b with totals }) := .write hb totals b.version
    -- the budget reflects the transactions now, and the others are as they were
    obtain ⟨results, repaired, hrest, hrepaired, hall⟩ := ih (t := t.write { b with totals })
      htransactions (hsame.trans hfirst) (fun id hid => by
        obtain ⟨c, hc, rfl⟩ := hstoredRest id hid
        obtain ⟨totals', version', hc'⟩ := hfirst.mem c hc
        exact ⟨_, hc', rfl⟩) (fun c hc => by
        rcases mem_write.mp hc with rfl | ⟨hc, hne⟩
        · exact .inl hreflects
        · exact (hdone c hc).imp_right fun hid => (List.mem_cons.mp hid).resolve_left hne)
    refine ⟨reconciliation :: results, repaired, ?_, hrepaired, hall⟩
    rw [List.mapM_cons, perform_bind, hperform]
    simp only [perform_bind, hrest, perform_pure]

/-- The totals of a budget by value, if it is stored. -/
def totalsOf? (s : Store) (id : BudgetId) : Option (Totals Int) := (s.budgets.find? id).map (·.totals.values)

/-- Budgets that reflect the transactions have the totals of the consistent store. -/
theorem Consistent.totalsOf?_eq (h : full.Consistent) (hsame : full.SameBudgets t)
    (hall : ∀ c ∈ t.budgets, c.Reflects full.transactions.records) (id : BudgetId) :
    t.totalsOf? id = full.totalsOf? id := by
  unfold totalsOf?
  cases hfind : full.budgets.find? id with
  | none =>
    have hnone : t.budgets.find? id = none := by
      refine Table.find?_eq_none_iff.mpr fun c hc => ?_
      obtain ⟨b, hb, totals, version, rfl⟩ := hsame.of_mem c hc
      exact Table.find?_eq_none_iff.mp hfind b hb
    rw [hnone]
  | some b =>
    obtain ⟨hb, hid⟩ := Table.find?_eq_some_iff.mp hfind
    obtain ⟨totals, version, hc⟩ := hsame.mem b hb
    rw [Table.find?_eq_some_iff.mpr ⟨hc, hid⟩]
    exact congrArg some ((h.totals b hb).equiv (hall _ hc))

/-! ## Every request -/

/-- Recalculation of budgets leads to the totals of another store. -/
def IsRepairedBy (left : Store) (ids : List BudgetId) (full : Store) : Prop :=
  ∃ results repaired, left.perform (ids.mapM Operation.recalculateBudget) = (.ok results, repaired) ∧
    ∀ id, repaired.totalsOf? id = full.totalsOf? id

/-- What a failed write has left is repaired by the recalculation of all budgets of the transaction. -/
theorem Consistent.repair_partlyRecorded (h : s.Consistent) (hfresh : s.transactions.find? tx.id = none)
    (small : s.volume + tx.minorAmount.natAbs < 2 ^ 94) {screened : List Budget × List Transaction}
    (hscreened : s.perform (Operation.screen tx) = (.ok screened, s)) {k : Nat} {ids : List BudgetId}
    (hids : ∀ id ∈ ids, ∃ b ∈ s.budgets, b.id = id) (hall : ∀ b ∈ s.budgetsOf tx, b.id ∈ ids) :
    (s.partlyRecorded tx k).IsRepairedBy ids (s.recorded tx) := by
  obtain ⟨-, hholds⟩ := h.holds_of_screened hfresh small hscreened
  have hfull : (s.recorded tx).Consistent := h.recorded hfresh small fun b hb => (hholds b hb).1
  have htransactions : (s.recorded tx).transactions = s.transactions.put tx := writeAll_transactions _ _
  have hperm := Table.put_perm_of_fresh hfresh
  have smallFull : (s.recorded tx).volume < 2 ^ 94 := by
    unfold volume
    rw [htransactions, volume_perm hperm, volume_cons, Nat.add_comm]
    exact small
  have hpart := sameBudgets_partlyRecorded s tx k
  have hsame : (s.recorded tx).SameBudgets (s.partlyRecorded tx k) := (sameBudgets_recorded s tx).symm.trans hpart
  have hstored : ∀ id ∈ ids, ∃ b ∈ (s.partlyRecorded tx k).budgets, b.id = id := by
    intro id hid
    obtain ⟨b, hb, rfl⟩ := hids id hid
    obtain ⟨totals, version, hc⟩ := hpart.mem b hb
    exact ⟨_, hc, rfl⟩
  have hdone : ∀ c ∈ (s.partlyRecorded tx k).budgets, c.Reflects (s.recorded tx).transactions.records ∨ c.id ∈ ids := by
    intro c hc
    rw [htransactions]
    rcases mem_partlyRecorded.mp hc with ⟨b, hb, rfl⟩ | ⟨hmem, -⟩
    · obtain ⟨totals, happlied⟩ := b.exists_applied tx (s.historyFor tx)
      rw [happlied]
      exact .inr (hall b (List.mem_of_mem_take hb))
    · cases hcovers : c.covers tx with
      | true => exact .inr (hall c ((mem_budgetsOf h).mpr ⟨hmem, hcovers⟩))
      | false =>
        have hcount := h.countable_cons hfresh small hmem fun hcov => absurd hcov (by simp [hcovers])
        exact .inl ((h.reflects_of_not_covers hfresh small hmem hcovers).perm hcount hperm.symm)
  obtain ⟨results, repaired, hperform, hrepaired, hreflect⟩ :=
    hfull.recalculateBudgets smallFull ((partlyRecorded_transactions s tx k).trans htransactions.symm) hsame hstored hdone
  exact ⟨results, repaired, hperform, hfull.totalsOf?_eq hrepaired hreflect⟩

/-- While a new transaction is recorded on a consistent store, any one request may fail.  Unless it writes a budget, the
store is as it was.  If it writes a budget, the transaction is stored, and the budgets that were written before count it;
recalculation of all its budgets, perhaps among others, leads to the totals of recording without the failure. -/
theorem Consistent.failed_request_repaired (h : s.Consistent) (hfresh : s.transactions.find? tx.id = none)
    (small : s.volume + tx.minorAmount.natAbs < 2 ^ 94) {n : Nat} {r : StorageRequest}
    (hr : (s.requestsOf (.createTransaction tx))[n]? = some r) (e : StoreError) :
    ∃ left outages, (FailingStore.mk s [⟨fun _ => true, n, e⟩]).perform (.createTransaction tx) =
        (.error e.toFailure, ⟨left, outages⟩) ∧
      (r.isBudgetWrite = false → left = s) ∧
      (r.isBudgetWrite = true →
        s.IsPartlyRecorded tx.normalized
          (((s.requestsOf (.createTransaction tx)).take n).countP StorageRequest.isBudgetWrite) left ∧
        ∃ full, s.perform (.createTransaction tx) = (.ok tx.normalized, full) ∧
          ∀ ids : List BudgetId, (∀ id ∈ ids, ∃ b ∈ s.budgets, b.id = id) →
            (∀ b ∈ s.budgetsOf tx.normalized, b.id ∈ ids) → left.IsRepairedBy ids full) := by
  unfold requestsOf at hr ⊢
  rw [List.getElem?_map] at hr
  obtain ⟨⟨_, left⟩, hasked, rfl⟩ := Option.map_eq_some_iff.mp hr
  obtain ⟨outages, hfails⟩ := FailingStore.perform_of_asked (Protocol.follows_createTransaction tx) hasked e
  refine ⟨left, outages, hfails, ?_⟩
  rw [← List.map_take, List.countP_map]
  have hfresh' : s.transactions.find? tx.normalized.id = none := hfresh
  have small' : s.volume + tx.normalized.minorAmount.natAbs < 2 ^ 94 := by
    rw [tx.minorAmount_normalized]
    exact small
  rcases h.asked_createTransaction hfresh small hasked with
    ⟨hwrite, rfl⟩ | ⟨k, hwrite, hk, rfl, hcount, hscreened⟩
  · exact ⟨fun _ => rfl, fun hw => absurd hw (by simp [hwrite])⟩
  · refine ⟨fun hw => absurd hwrite (by simp [hw]), fun _ => ⟨?_, s.recorded tx.normalized, ?_, ?_⟩⟩
    · have hwritten : ((s.asked (.createTransaction tx)).take n).countP (StorageRequest.isBudgetWrite ∘ Prod.fst) = k :=
        hcount
      rw [hwritten]
      exact h.isPartlyRecorded hfresh' small' hscreened hk
    · obtain ⟨-, hholds⟩ := h.holds_of_screened hfresh' small' hscreened
      rw [Operation.createTransaction_eq, perform_bind, hscreened]
      exact perform_record fun b hb => (hholds b hb).2.imp fun _ hok => hok.1
    · exact fun ids hids hall => h.repair_partlyRecorded hfresh' small' hscreened hids hall

/-- A transfer reads two budgets and two funds, is stored, and is applied to the sender and to the receiver.  When the
last of these requests fails, the sender has paid and the receiver has nothing, until both are recalculated. -/
theorem failed_receiver_repaired :
    let e : StoreError := .unavailable "update_budget failed"
    ∃ left outages, (FailingStore.mk twoFunds [⟨fun _ => true, 6, e⟩]).perform (.createTransaction transferToJournals) =
        (.error e.toFailure, ⟨left, outages⟩) ∧
      twoFunds.IsPartlyRecorded transferToJournals.normalized 1 left ∧
      ∃ full, twoFunds.perform (.createTransaction transferToJournals) = (.ok transferToJournals.normalized, full) ∧
        left.IsRepairedBy [11, 12] full := by
  intro e
  have hrequest : (twoFunds.requestsOf (.createTransaction transferToJournals))[6]? =
      some (.updateBudget ((Budget.create 12 "journals" 2 9 .usd).applied transferToJournals.normalized [])) := by
    decide +kernel
  have hcount : ((twoFunds.requestsOf (.createTransaction transferToJournals)).take 6).countP
      StorageRequest.isBudgetWrite = 1 := by decide +kernel
  obtain ⟨left, outages, hfails, -, hleft⟩ := consistent_twoFunds.failed_request_repaired (by decide) (by decide) hrequest e
  rw [hcount] at hleft
  obtain ⟨hpart, full, hfull, hrepair⟩ := hleft rfl
  refine ⟨left, outages, hfails, hpart, full, hfull, hrepair [11, 12] ?_ ?_⟩
  · change ∀ id ∈ [11, 12], ∃ b ∈ twoFunds.budgets.records, b.id = id
    decide
  · decide +kernel

end Store

end FundLedger
