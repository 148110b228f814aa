import FundLedger.Proofs.Pool
import FundLedger.Proofs.Upkeep
/-!
# Sound pools

A pool in which nothing has gone wrong.  No two operations hold the same budget, so what the holder of a budget has
learned of its transactions still holds when it writes the budget.

* `Stage.Knows`: what an operation has learned holds of the stored transactions.
* `Pool.Ready`, `Pool.Sound`: the pools that are looked at, and the invariant.
* `Sound.move`: a move keeps it, unless an operation reads a budget that another one holds.
-/

namespace FundLedger

/-! ## What a stage knows -/

namespace Stage

/-- What an operation knows that has a transaction to apply to some budgets. -/
structure Informed (txs : List Transaction) (tx : Transaction) (budgets : List Budget) (recorded : List Transaction) :
    Prop where
  funds : (budgets.map (·.fund)).Sublist tx.funds
  fiscalYear : ∀ b ∈ budgets, b.fiscalYear = tx.fiscalYear
  ids : (recorded.map (·.id)).Nodup
  received : ∀ b ∈ budgets, b.KnowsReceived tx recorded (txs.filter fun t => t.id != tx.id)

/-- What a stage has learned holds of these transactions. -/
def Knows (txs : List Transaction) : Stage → Prop
  | reading tx budgets unread =>
    (budgets.map (·.fund) ++ unread).Sublist tx.funds ∧ ∀ b ∈ budgets, b.fiscalYear = tx.fiscalYear
  | told tx budgets recorded => Informed txs tx budgets recorded
  | applying tx recorded budgets =>
    Informed txs tx budgets recorded ∧ ∀ b ∈ budgets, b.Reflects (txs.filter fun t => t.id != tx.id)
  | counted b history => b.scope history = b.scope txs
  | opening | opened _ | closed => True

variable {txs txs' : List Transaction} {tx : Transaction} {budgets : List Budget} {recorded : List Transaction}

theorem Informed.of_scope (h : Informed txs tx budgets recorded)
    (hscope : ∀ b ∈ budgets, ∀ q : Transaction → Bool, b.scope (txs'.filter q) = b.scope (txs.filter q)) :
    Informed txs' tx budgets recorded where
  funds := h.funds
  fiscalYear := h.fiscalYear
  ids := h.ids
  received := by
    intro b hb
    unfold Budget.KnowsReceived
    rw [hscope b hb]
    exact h.received b hb

/-- Only the transactions of the budgets that are held matter. -/
theorem Knows.of_scope {stage : Stage} (h : stage.Knows txs)
    (hscope : ∀ b ∈ stage.held, ∀ q : Transaction → Bool, b.scope (txs'.filter q) = b.scope (txs.filter q)) :
    stage.Knows txs' := by
  cases stage with
  | reading tx budgets unread => exact h
  | told tx budgets recorded => exact Informed.of_scope h hscope
  | applying tx recorded budgets =>
    obtain ⟨hinformed, hreflects⟩ := h
    refine ⟨hinformed.of_scope hscope, fun b hb => ?_⟩
    unfold Budget.Reflects
    rw [Budget.recompute_of_scope_eq (hscope b hb _)]
    exact hreflects b hb
  | counted b history =>
    have hall := hscope b (List.mem_singleton_self b) fun _ => true
    rw [List.filter_true, List.filter_true] at hall
    exact h.trans hall.symm
  | opening => trivial
  | opened b => trivial
  | closed => trivial

/-- Whatever is needed to record the transaction is known. -/
theorem Knows.informed {stage : Stage} (h : stage.Knows txs) (hscreened : stage.IsScreened tx budgets recorded) :
    Informed txs tx budgets recorded := by
  rcases hscreened with rfl | ⟨rfl, rfl, hother⟩
  · exact h
  · obtain ⟨hfunds, hyear⟩ := h
    rw [List.append_nil] at hfunds
    refine ⟨hfunds, hyear, List.nodup_nil, fun b _ hreceived => ?_⟩
    rw [hother b.fund] at hreceived
    cases hreceived

theorem Knows.nodup_held {stage : Stage} (h : stage.Knows txs) : stage.held.Nodup := by
  have hfunds : ∀ {bs : List Budget} {tx : Transaction}, (bs.map (·.fund)).Sublist tx.funds → bs.Nodup :=
    fun {_ tx} hsub => (tx.nodup_funds.sublist hsub).of_map
  cases stage with
  | reading tx budgets unread => exact hfunds ((List.sublist_append_left ..).trans h.1)
  | told tx budgets recorded => exact hfunds h.funds
  | applying tx recorded budgets => exact hfunds h.1.funds
  | opened b => exact List.nodup_singleton b
  | counted b history => exact List.nodup_singleton b
  | opening => exact List.nodup_nil
  | closed => exact List.nodup_nil

theorem transaction?_of_stored? {stage : Stage} (h : stage.stored? = some tx) : stage.transaction? = some tx := by
  cases stage <;> first | exact h | cases h

end Stage

theorem volume_le_of_subset {txs txs' : List Transaction} (hnodup : txs.Nodup) (h : txs ⊆ txs') :
    volume txs ≤ volume txs' := by
  obtain ⟨l, hperm, hsub⟩ := List.subperm_of_subset hnodup h
  rw [← volume_perm hperm]
  exact volume_le_of_sublist hsub

/-- For a budget that it does not concern, a new transaction changes no part of the history. -/
theorem Budget.scope_filter_put {t : Table Transaction} {tx : Transaction} {c : Budget}
    (hfresh : t.find? tx.id = none) (hcovers : c.covers tx = false) (q : Transaction → Bool) :
    c.scope ((t.put tx).records.filter q) = c.scope (t.records.filter q) := by
  unfold Budget.scope
  rw [List.filter_filter, List.filter_filter]
  refine Table.filter_put hfresh ?_
  unfold Budget.covers at hcovers
  rw [hcovers, Bool.false_and]

namespace Pool

variable {n : Nat} {s s₀ : Store} {jobs : Fin n → Job} {stages : Fin n → Stage} {i : Fin n} {stage' : Stage}
  {log : List Event}

/-- The transactions that the operations record. -/
def created (jobs : Fin n → Job) : List Transaction := (List.finRange n).filterMap fun i => (jobs i).transaction?

theorem mem_created {tx : Transaction} : tx ∈ created jobs ↔ ∃ i, (jobs i).transaction? = some tx := by
  simp [created]

/-- A consistent store, and operations with new transactions of different identifiers, for which there is room. -/
structure Ready (s : Store) (jobs : Fin n → Job) : Prop where
  consistent : s.Consistent
  fresh : ∀ i tx, (jobs i).transaction? = some tx → s.transactions.find? tx.id = none
  distinct : ∀ i j tx tx', (jobs i).transaction? = some tx → (jobs j).transaction? = some tx' → tx.id = tx'.id → i = j
  small : s.volume + volume (created jobs) < 2 ^ 94

/-- Nothing has gone wrong: every budget that is held is as it is stored, by one operation only; it reflects all stored
transactions but the one that is being applied to it, and its version counts the writes. -/
structure Sound (s₀ s : Store) (log : List Event) (stages : Fin n → Stage) : Prop where
  budgets : ∀ c ∈ s.budgets, ∃ b ∈ s₀.budgets, ∃ totals,
    c = { b with totals, version := b.version + .ofNat (log.countP (Event.writes b.id)) }
  kept : ∀ b ∈ s₀.budgets, ∃ c ∈ s.budgets, c.id = b.id
  transactions : ∀ tx, tx ∈ s.transactions ↔ tx ∈ s₀.transactions ∨ ∃ i, (stages i).stored? = some tx
  held : ∀ i, ∀ b ∈ (stages i).held, b ∈ s.budgets
  apart : ∀ i j, i ≠ j → ∀ b ∈ (stages i).held, b ∉ (stages j).held
  currency : ∀ c ∈ s.budgets, ∀ tx ∈ s.transactions, c.covers tx = true → tx.currency = c.currency
  totals : ∀ c ∈ s.budgets, (∀ i, c ∉ (stages i).todo) → c.Reflects s.transactions.records
  knows : ∀ i, (stages i).Knows s.transactions.records

/-! ## Facts about sound pools -/

namespace Sound

theorem oneBudget (h : Sound s₀ s log stages) (h₀ : s₀.Consistent) {b b' : Budget} (hb : b ∈ s.budgets)
    (hb' : b' ∈ s.budgets) (hfund : b.fund = b'.fund) (hyear : b.fiscalYear = b'.fiscalYear) : b = b' := by
  obtain ⟨a, ha, totals, rfl⟩ := h.budgets b hb
  obtain ⟨a', ha', totals', rfl⟩ := h.budgets b' hb'
  obtain rfl := h₀.oneBudget a ha a' ha' hfund hyear
  exact Table.eq_of_id_eq hb hb' rfl

/-- A stored transaction was there at the beginning, or it is that of an operation. -/
theorem subset_created (h : Sound s₀ s log stages) (htracks : ∀ i, (stages i).transaction? = (jobs i).transaction?) :
    s.transactions.records ⊆ s₀.transactions.records ++ created jobs := by
  intro tx htx
  rcases (h.transactions tx).mp htx with hold | ⟨j, hj⟩
  · exact List.mem_append_left _ hold
  · refine List.mem_append_right _ (mem_created.mpr ⟨j, ?_⟩)
    rw [← htracks j]
    exact Stage.transaction?_of_stored? hj

theorem countable (h : Sound s₀ s log stages) (hready : Ready s₀ jobs)
    (htracks : ∀ i, (stages i).transaction? = (jobs i).transaction?) {c : Budget} (hc : c ∈ s.budgets) :
    c.Countable s.transactions.records where
  currency := fun tx htx => h.currency c hc tx (List.mem_of_mem_filter htx) (List.mem_filter.mp htx).2
  ids := s.transactions.nodup_ids
  small := by
    have hle := volume_le_of_subset s.transactions.nodup_records (h.subset_created htracks)
    rw [volume_append] at hle
    exact Nat.lt_of_le_of_lt hle hready.small

/-- A transaction that its operation has not recorded yet has a new identifier. -/
theorem fresh (h : Sound s₀ s log stages) (hready : Ready s₀ jobs)
    (htracks : ∀ i, (stages i).transaction? = (jobs i).transaction?) {tx : Transaction}
    (htx : (stages i).transaction? = some tx) (hstored : (stages i).stored? = none) :
    s.transactions.find? tx.id = none := by
  refine Table.find?_eq_none_iff.mpr fun t ht hid => ?_
  have hjob : (jobs i).transaction? = some tx := (htracks i).symm.trans htx
  rcases (h.transactions t).mp ht with hold | ⟨j, hj⟩
  · exact Table.find?_eq_none_iff.mp (hready.fresh i tx hjob) t hold hid
  · have hother : (jobs j).transaction? = some t := (htracks j).symm.trans (Stage.transaction?_of_stored? hj)
    obtain rfl := hready.distinct i j tx t hjob hother hid.symm
    rw [hstored] at hj
    cases hj

/-- A budget that is held and not being written reflects everything. -/
theorem reflects_held (h : Sound s₀ s log stages) {b : Budget} (hb : b ∈ (stages i).held)
    (htodo : b ∉ (stages i).todo) : b.Reflects s.transactions.records := by
  refine h.totals b (h.held i b hb) fun j hj => ?_
  by_cases hji : j = i
  · exact htodo (hji ▸ hj)
  · exact h.apart j i hji b (Stage.mem_held_of_mem_todo hj) hb

end Sound

/-! ## Steps -/

theorem apart_update (h : ∀ j k, j ≠ k → ∀ b ∈ (stages j).held, b ∉ (stages k).held)
    (hnew : ∀ j, j ≠ i → ∀ b ∈ stage'.held, b ∉ (stages j).held) (j k : Fin n) (hjk : j ≠ k) :
    ∀ b ∈ (Function.update stages i stage' j).held, b ∉ (Function.update stages i stage' k).held := by
  intro b hb hb'
  by_cases hji : j = i
  · subst hji
    rw [Function.update_self] at hb
    rw [Function.update_of_ne (Ne.symm hjk)] at hb'
    exact hnew k (Ne.symm hjk) b hb hb'
  · rw [Function.update_of_ne hji] at hb
    by_cases hki : k = i
    · subst hki
      rw [Function.update_self] at hb'
      exact hnew j hjk b hb' hb
    · rw [Function.update_of_ne hki] at hb'
      exact h j k hjk b hb hb'

/-- What is the same in the new stage is the same in all. -/
theorem update_congr {β : Type} {f : Stage → β} (h : f stage' = f (stages i)) (j : Fin n) :
    f (Function.update stages i stage' j) = f (stages j) := by
  by_cases hji : j = i
  · subst hji
    rw [Function.update_self, h]
  · rw [Function.update_of_ne hji]

theorem countP_snoc {event : Event} {id : BudgetId} (h : event.writes id = false) :
    (log ++ [event]).countP (Event.writes id) = log.countP (Event.writes id) := by
  rw [List.countP_append, List.countP_singleton, h]
  rfl

namespace Sound

/-- An operation learns something. -/
theorem read (h : Sound s₀ s log stages) {event : Event} (hevent : ∀ id, event.writes id = false)
    (hstored : stage'.stored? = (stages i).stored?) (htodo : stage'.todo = (stages i).todo)
    (hheld : ∀ b ∈ stage'.held, b ∈ s.budgets) (hapart : ∀ j, j ≠ i → ∀ b ∈ stage'.held, b ∉ (stages j).held)
    (hknows : stage'.Knows s.transactions.records) :
    Sound s₀ s (log ++ [event]) (Function.update stages i stage') where
  budgets := by
    intro c hc
    simp only [countP_snoc (hevent _)]
    exact h.budgets c hc
  kept := h.kept
  transactions := by
    intro tx
    simp only [update_congr hstored]
    exact h.transactions tx
  held := (Function.forall_update_iff stages fun _ stage => ∀ b ∈ stage.held, b ∈ s.budgets).mpr
    ⟨hheld, fun j _ => h.held j⟩
  apart := apart_update h.apart hapart
  currency := h.currency
  totals := by
    intro c hc hnone
    simp only [update_congr htodo] at hnone
    exact h.totals c hc hnone
  knows := (Function.forall_update_iff stages fun _ => Stage.Knows s.transactions.records).mpr
    ⟨hknows, fun j _ => h.knows j⟩

/-- The budgets that a transaction concerns are held by the operation that records it. -/
theorem held_of_covers (h : Sound s₀ s log stages) (hready : Ready s₀ jobs) {tx : Transaction} {budgets : List Budget}
    {recorded : List Transaction} (hinformed : Stage.Informed s.transactions.records tx budgets recorded)
    (hheld : ∀ b ∈ budgets, b ∈ (stages i).held) (hadmitted : tx.IsAdmittedWith budgets) :
    ∀ c ∈ s.budgets, c.covers tx = true → c ∈ budgets ∧ tx.currency = c.currency := by
  intro c hc hcovers
  obtain ⟨hyear, htouches⟩ := Bool.and_eq_true_iff.mp hcovers
  obtain ⟨b, hb, hfund, hcurrency⟩ := hadmitted c.fund (tx.mem_funds.mpr htouches)
  have hbyear : b.fiscalYear = c.fiscalYear := (hinformed.fiscalYear b hb).trans (eq_of_beq hyear)
  obtain rfl := h.oneBudget hready.consistent (h.held i b (hheld b hb)) hc hfund hbyear
  exact ⟨hb, hcurrency⟩

/-- An operation that had stored nothing stores its transaction. -/
theorem mem_put_iff (h : Sound s₀ s log stages) {tx : Transaction} (hfresh : s.transactions.find? tx.id = none)
    (hnone : (stages i).stored? = none) (hsome : stage'.stored? = some tx) (t : Transaction) :
    t ∈ s.transactions.put tx ↔
      t ∈ s₀.transactions ∨ ∃ j, (Function.update stages i stage' j).stored? = some t := by
  have hothers : (∃ j, (stages j).stored? = some t) ↔ ∃ j ≠ i, (stages j).stored? = some t := by
    refine ⟨fun ⟨j, hj⟩ => ⟨j, ?_, hj⟩, fun ⟨j, _, hj⟩ => ⟨j, hj⟩⟩
    rintro rfl
    cases hnone.symm.trans hj
  calc t ∈ s.transactions.put tx
      ↔ t = tx ∨ t ∈ s.transactions := (Table.put_perm_of_fresh hfresh).mem_iff.trans List.mem_cons
    _ ↔ t = tx ∨ t ∈ s₀.transactions ∨ ∃ j ≠ i, (stages j).stored? = some t := by rw [h.transactions, hothers]
    _ ↔ t ∈ s₀.transactions ∨ stage'.stored? = some t ∨ ∃ j ≠ i, (stages j).stored? = some t := by
        rw [hsome, Option.some_inj, eq_comm, or_left_comm]
    _ ↔ t ∈ s₀.transactions ∨ ∃ j, (Function.update stages i stage' j).stored? = some t := by
        rw [Function.exists_update_iff stages fun _ stage => stage.stored? = some t]

/-- An operation records its transaction. -/
theorem create (h : Sound s₀ s log stages) (hready : Ready s₀ jobs)
    (htracks : ∀ i, (stages i).transaction? = (jobs i).transaction?) {event : Event}
    (hevent : ∀ id, event.writes id = false) {tx : Transaction} {budgets : List Budget} {recorded : List Transaction}
    (hscreened : (stages i).IsScreened tx budgets recorded) (hadmitted : tx.IsAdmittedWith budgets) :
    Sound s₀ { s with transactions := s.transactions.put tx } (log ++ [event])
      (Function.update stages i (.applying tx recorded budgets)) := by
  have hfresh := h.fresh hready htracks hscreened.transaction?_eq hscreened.stored?_eq
  have hinformed := (h.knows i).informed hscreened
  have hheld : ∀ b ∈ budgets, b ∈ (stages i).held := fun b hb => hscreened.held_eq ▸ hb
  have hcovers := h.held_of_covers hready hinformed hheld hadmitted
  have hscope : ∀ c ∈ s.budgets, c ∉ budgets → ∀ q : Transaction → Bool,
      c.scope ((s.transactions.put tx).records.filter q) = c.scope (s.transactions.records.filter q) := fun c hc hnot =>
    Budget.scope_filter_put hfresh (Bool.eq_false_iff.mpr fun hcov => hnot (hcovers c hc hcov).1)
  have hothers : ((s.transactions.put tx).records.filter fun t => t.id != tx.id) =
      s.transactions.records.filter fun t => t.id != tx.id := Table.filter_put hfresh (by simp)
  exact {
    budgets := by
      intro c hc
      simp only [countP_snoc (hevent _)]
      exact h.budgets c hc
    kept := h.kept
    transactions := h.mem_put_iff hfresh hscreened.stored?_eq rfl
    held := (Function.forall_update_iff stages fun _ stage => ∀ b ∈ stage.held, b ∈ s.budgets).mpr
      ⟨fun b hb => h.held i b (hheld b hb), fun j _ => h.held j⟩
    apart := apart_update h.apart fun j hji b hb => h.apart i j (Ne.symm hji) b (hheld b hb)
    currency := by
      intro c hc t ht hcov
      rcases List.mem_cons.mp ((Table.put_perm_of_fresh hfresh).mem_iff.mp ht) with rfl | ht
      · exact (hcovers c hc hcov).2
      · exact h.currency c hc t ht hcov
    totals := by
      intro c hc hnone
      obtain ⟨hnot, hrest⟩ := (Function.forall_update_iff stages fun _ stage => c ∉ stage.todo).mp hnone
      have hall := hscope c hc hnot fun _ => true
      rw [List.filter_true, List.filter_true] at hall
      unfold Budget.Reflects
      rw [Budget.recompute_of_scope_eq hall]
      refine h.totals c hc fun j => ?_
      by_cases hji : j = i
      · rw [hji, hscreened.todo_eq]
        exact List.not_mem_nil
      · exact hrest j hji
    knows := by
      refine (Function.forall_update_iff stages fun _ => Stage.Knows (s.transactions.put tx).records).mpr
        ⟨⟨⟨hinformed.funds, hinformed.fiscalYear, hinformed.ids, fun b hb => ?_⟩, fun b hb => ?_⟩, fun j hji =>
          (h.knows j).of_scope fun b hb => hscope b (h.held j b hb) fun hbi => h.apart j i hji b hb (hheld b hbi)⟩
      · rw [hothers]
        exact hinformed.received b hb
      · rw [hothers, Store.filter_ids_of_fresh hfresh]
        refine h.reflects_held (hheld b hb) ?_
        rw [hscreened.todo_eq]
        exact List.not_mem_nil }

/-- An operation writes the first budget that it holds. -/
theorem write (h : Sound s₀ s log stages) {b : Budget} {totals : Totals Decimal} {event : Event}
    (hevent : ∀ id, event.writes id = (b.id == id)) (hheld : (stages i).held = b :: stage'.held)
    (hstored : stage'.stored? = (stages i).stored?) (htodo : ∀ c ∈ (stages i).todo, c = b ∨ c ∈ stage'.todo)
    (hknows : stage'.Knows s.transactions.records)
    (hreflects : { b with totals, version := b.version + 1 }.Reflects s.transactions.records) :
    Sound s₀ (s.write { b with totals }) (log ++ [event]) (Function.update stages i stage') := by
  have hmem : b ∈ (stages i).held := hheld ▸ List.mem_cons_self
  have hb : b ∈ s.budgets := h.held i b hmem
  have hrest : ∀ c ∈ stage'.held, c ∈ (stages i).held := fun c hc => hheld ▸ List.mem_cons_of_mem b hc
  have hnotin : b ∉ stage'.held := by
    have hnodup := (h.knows i).nodup_held
    rw [hheld] at hnodup
    exact (List.nodup_cons.mp hnodup).1
  have hkeep : ∀ c ∈ s.budgets, c ≠ b → c ∈ (s.write { b with totals }).budgets := fun c hc hne =>
    Store.mem_write.mpr (.inr ⟨hc, fun hid => hne (Table.eq_of_id_eq hc hb hid)⟩)
  exact {
    budgets := by
      intro c hc
      rcases Store.mem_write.mp hc with rfl | ⟨hold, hne⟩
      · obtain ⟨a, ha, totals₀, rfl⟩ := h.budgets b hb
        refine ⟨a, ha, totals, ?_⟩
        have hone : (log ++ [event]).countP (Event.writes a.id) = log.countP (Event.writes a.id) + 1 := by
          rw [List.countP_append, List.countP_singleton, hevent, beq_self_eq_true]
          rfl
        rw [hone, Int64.ofNat_add, ← Int64.add_assoc]
        rfl
      · obtain ⟨a, ha, totals₀, rfl⟩ := h.budgets c hold
        refine ⟨a, ha, totals₀, ?_⟩
        rw [countP_snoc]
        rw [hevent]
        exact beq_false_of_ne (Ne.symm hne)
    kept := by
      intro a ha
      obtain ⟨c, hc, hid⟩ := h.kept a ha
      by_cases hcb : c = b
      · subst hcb
        exact ⟨_, Store.mem_write.mpr (.inl rfl), hid⟩
      · exact ⟨c, hkeep c hc hcb, hid⟩
    transactions := by
      intro tx
      simp only [update_congr hstored]
      exact h.transactions tx
    held := by
      refine (Function.forall_update_iff stages fun _ stage =>
        ∀ c ∈ stage.held, c ∈ (s.write { b with totals }).budgets).mpr
        ⟨fun c hc => hkeep c (h.held i c (hrest c hc)) ?_, fun j hji c hc => hkeep c (h.held j c hc) ?_⟩
      · rintro rfl
        exact hnotin hc
      · rintro rfl
        exact h.apart j i hji c hc hmem
    apart := apart_update h.apart fun j hji c hc => h.apart i j (Ne.symm hji) c (hrest c hc)
    currency := by
      intro c hc tx htx hcovers
      rcases Store.mem_write.mp hc with rfl | ⟨hold, -⟩
      · exact h.currency b hb tx htx hcovers
      · exact h.currency c hold tx htx hcovers
    totals := by
      intro c hc hnone
      obtain ⟨hnot, hothers⟩ := (Function.forall_update_iff stages fun _ stage => c ∉ stage.todo).mp hnone
      rcases Store.mem_write.mp hc with rfl | ⟨hold, hne⟩
      · exact hreflects
      · refine h.totals c hold fun j hj => ?_
        by_cases hji : j = i
        · subst hji
          rcases htodo c hj with rfl | hc'
          · exact hne rfl
          · exact hnot hc'
        · exact hothers j hji hj
    knows := (Function.forall_update_iff stages fun _ => Stage.Knows s.transactions.records).mpr
      ⟨hknows, fun j _ => h.knows j⟩ }

/-- The budget after the transaction was applied to it reflects everything. -/
theorem reflects_applied (h : Sound s₀ s log stages) (hready : Ready s₀ jobs)
    (htracks : ∀ i, (stages i).transaction? = (jobs i).transaction?) {tx : Transaction} {recorded : List Transaction}
    {b : Budget} {rest : List Budget} {totals : Totals Decimal} (hstage : stages i = .applying tx recorded (b :: rest))
    (happly : b.applyWithHistory tx recorded = .ok { b with totals }) :
    { b with totals, version := b.version + 1 }.Reflects s.transactions.records := by
  have hknows := h.knows i
  rw [hstage] at hknows
  obtain ⟨hinformed, hreflects⟩ := hknows
  have hb : b ∈ s.budgets := h.held i b (by rw [hstage]; exact List.mem_cons_self)
  have htx : tx ∈ s.transactions := (h.transactions tx).mpr (.inr ⟨i, by rw [hstage]; rfl⟩)
  have hperm : s.transactions.records.Perm (tx :: s.transactions.records.filter fun t => t.id != tx.id) :=
    Table.perm_cons_others htx
  have hcount := (h.countable hready htracks hb).perm hperm
  have hholds := (Budget.reflects_iff (hcount.sublist (List.sublist_cons_self ..))).mp
    (hreflects b List.mem_cons_self)
  obtain ⟨totals', happly', hnext⟩ := Budget.applyWithHistory_holds hholds hcount
    (hinformed.fiscalYear b List.mem_cons_self).symm hinformed.ids (hinformed.received b List.mem_cons_self)
  obtain rfl : totals = totals' := congrArg Budget.totals (Except.ok.inj (happly.symm.trans happly'))
  have hcount' := hcount.withTotals totals (b.version + 1)
  exact ((Budget.reflects_iff hcount').mpr hnext).perm hcount' hperm.symm

/-- A move keeps a pool sound, unless the operation reads a budget that another one holds. -/
theorem move (h : Sound s₀ s log stages) (hready : Ready s₀ jobs)
    (htracks : ∀ i, (stages i).transaction? = (jobs i).transaction?) {stage : Stage} {s' : Store} {r : StorageRequest}
    (hmove : stage.Move s r stage' s') (hstage : stages i = stage) (a : r.Answer) :
    Sound s₀ s' (log ++ [⟨r, .ok a⟩]) (Function.update stages i stage') ∨
      s' = s ∧ ∃ j, j ≠ i ∧ ∃ b ∈ s.budgets, b ∈ stage'.held ∧ b ∈ (stages j).held := by
  have hheld := h.held i
  have hknows := h.knows i
  rw [hstage] at hheld hknows
  have hread : r.isRead = true → stage'.stored? = stage.stored? → stage'.todo = stage.todo →
      (∀ b ∈ stage'.held, b ∈ s.budgets) → stage'.Knows s.transactions.records →
      Sound s₀ s (log ++ [⟨r, .ok a⟩]) (Function.update stages i stage') ∨
        s = s ∧ ∃ j, j ≠ i ∧ ∃ b ∈ s.budgets, b ∈ stage'.held ∧ b ∈ (stages j).held := by
    intro hisRead hstored htodo hheld' hknows'
    rw [← hstage] at hstored htodo
    by_cases hapart : ∀ j, j ≠ i → ∀ b ∈ stage'.held, b ∉ (stages j).held
    · exact .inl (h.read (fun id => Event.writes_of_isRead hisRead) hstored htodo hheld' hapart hknows')
    · push Not at hapart
      obtain ⟨j, hji, b, hb, hbj⟩ := hapart
      exact .inr ⟨rfl, j, hji, b, hheld' b hb, hb, hbj⟩
  cases hmove with
  | readBudget tx budgets fund rest =>
    obtain ⟨hfunds, hyear⟩ := hknows
    refine hread rfl rfl rfl (fun b hb => ?_) ?_
    · rcases List.mem_append.mp hb with hb | hb
      · exact hheld b hb
      · exact (Store.mem_of_budgetOf? (Option.mem_toList.mp hb)).1
    · cases hfind : s.budgetOf? fund tx.fiscalYear with
      | none =>
        rw [Option.toList_none, List.append_nil]
        exact ⟨((List.sublist_cons_self fund rest).append_left _).trans hfunds, hyear⟩
      | some b =>
        obtain ⟨-, rfl, hbyear⟩ := Store.mem_of_budgetOf? hfind
        refine ⟨?_, fun c hc => ?_⟩
        · simpa using hfunds
        · rcases List.mem_append.mp hc with hc | hc
          · exact hyear c hc
          · rw [List.mem_singleton.mp hc]
            exact hbyear
  | readOther tx budgets unread hisRead => exact hread hisRead rfl rfl hheld hknows
  | readHistory tx budgets hisRead =>
    obtain ⟨hfunds, hyear⟩ := hknows
    rw [List.append_nil] at hfunds
    refine hread hisRead rfl rfl hheld ⟨hfunds, hyear, ?_, fun b hb => ?_⟩
    · exact s.transactions.nodup_ids.sublist ((tx.historyIn_sublist _).map _)
    · exact Budget.knowsReceived_historyIn (hyear b hb).symm s.transactions.records
  | create hscreened hadmitted =>
    rw [← hstage] at hscreened
    exact .inl (h.create hready htracks (fun _ => rfl) hscreened hadmitted)
  | @apply tx recorded b totals rest happly hstored =>
    obtain ⟨hinformed, hreflects⟩ := hknows
    have hlast : (Stage.applying tx recorded rest).Knows s.transactions.records :=
      ⟨⟨((List.sublist_cons_self b rest).map _).trans hinformed.funds,
        fun c hc => hinformed.fiscalYear c (List.mem_cons_of_mem b hc), hinformed.ids,
        fun c hc => hinformed.received c (List.mem_cons_of_mem b hc)⟩,
        fun c hc => hreflects c (List.mem_cons_of_mem b hc)⟩
    refine .inl (h.write (fun _ => rfl) ?_ ?_ (fun c hc => ?_) hlast (h.reflects_applied hready htracks hstage happly))
    · rw [hstage]
      rfl
    · rw [hstage]
      rfl
    · rw [hstage] at hc
      exact List.mem_cons.mp hc
  | readToRecalculate id hb =>
    refine hread rfl rfl rfl (fun b' hb' => ?_) trivial
    rw [List.mem_singleton.mp hb']
    exact hb
  | readWholeHistory b hisRead => exact hread hisRead rfl rfl hheld (b.scope_historyOf _)
  | @recalculate b history totals hrecompute hstored =>
    have hreflects : { b with totals, version := b.version + 1 }.Reflects s.transactions.records := by
      rw [Budget.recompute_of_scope_eq hknows] at hrecompute
      exact ⟨totals, hrecompute, rfl⟩
    refine .inl (h.write (fun _ => rfl) ?_ ?_ (fun c hc => ?_) trivial hreflects)
    · rw [hstage]
      rfl
    · rw [hstage]
      rfl
    · rw [hstage] at hc
      cases hc

theorem start (h₀ : s₀.Consistent) (jobs : Fin n → Job) : Sound s₀ s₀ [] fun i => (jobs i).firstStage := by
  have hheld : ∀ i, (jobs i).firstStage.held = [] := fun i => by cases jobs i <;> rfl
  have htodo : ∀ i, (jobs i).firstStage.stored? = none := fun i => by cases jobs i <;> rfl
  constructor
  · exact fun c hc => ⟨c, hc, c.totals, by simp⟩
  · exact fun b hb => ⟨b, hb, rfl⟩
  · intro tx
    simp [htodo]
  · intro i b hb
    rw [hheld i] at hb
    cases hb
  · intro i j _ b hb
    rw [hheld i] at hb
    cases hb
  · exact h₀.currency
  · exact fun c hc _ => h₀.totals c hc
  · intro i
    cases jobs i with
    | create tx => exact ⟨List.Sublist.refl _, fun b hb => absurd hb List.not_mem_nil⟩
    | recalculate id => trivial

end Sound

end Pool

end FundLedger
