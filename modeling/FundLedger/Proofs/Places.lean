import FundLedger.Operation.Budget
import FundLedger.Proofs.Recording
/-!
# Budgets in their places

Operations that write budgets leave each of them in its place: under its identifier, for its fund and its year.  They
may stop half-way, for an overflow; the budgets that were written until then are in their places too.

* `Budget.place`, `Store.InPlace`.
* `Store.Rewritten`: nothing but budgets has been written, each of them in its place.
* `Store.rewritten_record`, `Store.rewritten_recalculateAll`, `Store.rewritten_updateBudget`: what operations write.
* `Store.createTransaction_eq_ok`: a transaction that was recorded.
-/

namespace FundLedger

/-- Which budget it is: its identifier, and the fund and the year that it is the budget of. -/
def Budget.place (b : Budget) : BudgetId × FundId × FiscalYearId := (b.id, b.fund, b.fiscalYear)

namespace Store

/-- Nothing but budgets has been written, and each of them is in its place. -/
structure Rewritten (s s' : Store) : Prop where
  transactions : s'.transactions = s.transactions
  links : s'.budgetExpenseClasses = s.budgetExpenseClasses
  places : s'.budgets.records.map Budget.place = s.budgets.records.map Budget.place

/-- If the budget is stored, it is stored as the budget of the same fund and year. -/
def InPlace (s : Store) (b : Budget) : Prop := ∀ c ∈ s.budgets, c.id = b.id → c.place = b.place

variable {α β : Type} {s s' s'' : Store} {b : Budget}

theorem inPlace_of_mem (hb : b ∈ s.budgets) : s.InPlace b := fun _ hc hid =>
  congrArg Budget.place (Table.eq_of_id_eq hc hb hid)

namespace Rewritten

theorem refl (s : Store) : s.Rewritten s := ⟨rfl, rfl, rfl⟩

theorem symm (h : s.Rewritten s') : s'.Rewritten s := ⟨h.transactions.symm, h.links.symm, h.places.symm⟩

theorem trans (h : s.Rewritten s') (h' : s'.Rewritten s'') : s.Rewritten s'' :=
  ⟨h'.transactions.trans h.transactions, h'.links.trans h.links, h'.places.trans h.places⟩

theorem mem (h : s.Rewritten s') (hb : b ∈ s.budgets) : ∃ c ∈ s'.budgets, c.place = b.place :=
  List.mem_map.mp (h.places ▸ List.mem_map_of_mem hb)

theorem inPlace (h : s.Rewritten s') (hb : s.InPlace b) : s'.InPlace b := by
  intro c hc hid
  obtain ⟨a, ha, hplace⟩ := h.symm.mem hc
  rw [← hplace]
  exact hb a ha ((congrArg Prod.fst hplace).trans hid)

/-- One operation after another. -/
theorem bind {d : Operation α} {f : α → Operation β} (hd : s.Rewritten (s.perform d).2)
    (hf : ∀ a s', s.perform d = (.ok a, s') → s'.Rewritten (s'.perform (f a)).2) :
    s.Rewritten (s.perform (d >>= f)).2 := by
  rw [perform_bind]
  rcases hperform : s.perform d with ⟨failure | a, s'⟩ <;> rw [hperform] at hd
  · exact hd
  · exact hd.trans (hf a s' hperform)

theorem discard {d : Operation α} (h : s.Rewritten (s.perform d).2) : s.Rewritten (s.perform (Functor.discard d)).2 := by
  rwa [perform_discard_snd]

end Rewritten

theorem rewritten_request (h : s.InPlace b) : s.Rewritten (s.perform (Operation.request (.updateBudget b))).2 := by
  change s.Rewritten (s.updateBudget b).2
  unfold Store.updateBudget
  cases hfind : s.budgets.find? b.id with
  | none => exact .refl s
  | some c =>
    obtain ⟨hc, hid⟩ := Table.find?_eq_some_iff.mp hfind
    dsimp only
    split_ifs
    · have hwritten : ({ b with version := b.version + 1 } : Budget).id = c.id := hid.symm
      refine ⟨rfl, rfl, ?_⟩
      change (s.budgets.put { b with version := b.version + 1 }).records.map Budget.place = _
      rw [Table.put_eq_map hc hwritten, List.map_map]
      refine List.map_congr_left fun x _ => ?_
      by_cases hx : x = c
      · subst hx
        exact (congrArg Budget.place (if_pos rfl)).trans (h x hc hid).symm
      · exact congrArg Budget.place (if_neg hx)
    · exact .refl s

/-- A transaction is applied to some budgets, as far as it gets. -/
theorem rewritten_applyToAll {tx : Transaction} {recorded : List Transaction} {todo : List Budget}
    (h : ∀ b ∈ todo, s.InPlace b) : s.Rewritten (s.perform (Operation.applyToAll tx recorded todo)).2 := by
  induction todo generalizing s with
  | nil => exact .refl s
  | cons b rest ih =>
    have happly : s.Rewritten (s.perform (Operation.applyTo tx recorded b)).2 := by
      unfold Operation.applyTo
      refine .bind (.refl s) fun b' s' hb' => ?_
      obtain ⟨happlied, rfl⟩ := Prod.mk.inj hb'
      obtain ⟨totals, rfl⟩ := Budget.applyWithHistory_eq_ok (eq_ok_of_mapError happlied)
      exact (rewritten_request (b := { b with totals }) (h b List.mem_cons_self)).discard
    unfold Operation.applyToAll
    refine happly.bind fun _ s' hs' => ih fun c hc => ?_
    rw [hs'] at happly
    exact happly.inPlace (h c (List.mem_cons_of_mem b hc))

/-- The totals of a budget that was read are recomputed. -/
theorem rewritten_recalculate (h : s.InPlace b) : s.Rewritten (s.perform (Operation.recalculate b)).2 := by
  unfold Operation.recalculate
  refine .bind (.refl s) fun history s' hread => ?_
  obtain rfl := (Prod.mk.inj hread).2
  refine .bind (.refl _) fun r s' hr => ?_
  obtain ⟨hreconcile, rfl⟩ := Prod.mk.inj hr
  obtain ⟨totals, -, hbudget⟩ := Budget.reconcile_eq_ok (eq_ok_of_mapError hreconcile)
  rw [hbudget]
  exact .bind (rewritten_request h) fun _ _ _ => .refl _

theorem rewritten_recalculateAll {bs : List Budget} (h : ∀ b ∈ bs, s.InPlace b) :
    s.Rewritten (s.perform (bs.mapM Operation.recalculate)).2 := by
  induction bs generalizing s with
  | nil => exact .refl s
  | cons b rest ih =>
    have hfirst := rewritten_recalculate (h b List.mem_cons_self)
    rw [List.mapM_cons]
    refine hfirst.bind fun _ s' hs' => ?_
    rw [hs'] at hfirst
    refine .bind (ih fun c hc => ?_) fun _ _ _ => .refl _
    exact hfirst.inPlace (h c (List.mem_cons_of_mem b hc))

/-- A budget that is handed in with new contents. -/
theorem rewritten_updateBudget (h : s.InPlace b) : s.Rewritten (s.perform (.updateBudget b)).2 := by
  unfold Operation.updateBudget
  refine .bind (.refl s) fun totals s' hs' => ?_
  obtain rfl := (Prod.mk.inj hs').2
  refine .bind (.refl _) fun issues s' hs' => ?_
  obtain rfl := (Prod.mk.inj hs').2
  refine .bind (.refl _) fun _ s' hs' => ?_
  obtain rfl := (Prod.mk.inj hs').2
  exact rewritten_request h

/-! ## A recorded transaction -/

/-- What is screened is stored, and written to as many budgets as it gets to. -/
theorem rewritten_record (s : Store) (tx : Transaction) (recorded : List Transaction) :
    { s with transactions := s.transactions.put tx }.Rewritten
      (s.perform (Operation.record tx (s.budgetsOf tx, recorded))).2 := by
  unfold Operation.record
  rw [perform_bind, perform_request_createTransaction]
  refine .bind (rewritten_applyToAll fun b hb => ?_) fun _ _ _ => .refl _
  exact inPlace_of_mem (mem_of_mem_budgetsOf hb).1

/-- A transaction that was recorded is stored with its amount rounded. -/
theorem createTransaction_eq_ok {tx created : Transaction} (h : (s.perform (.createTransaction tx)).1 = .ok created) :
    created = tx.normalized ∧ (s.perform (.createTransaction tx)).2.transactions = s.transactions.put tx.normalized := by
  rw [Operation.createTransaction_eq, perform_bind] at h ⊢
  rcases s.perform_screen tx.normalized with ⟨e, he⟩ | ⟨hok, -⟩
  · rw [he] at h
    cases h
  rw [hok] at h ⊢
  refine ⟨?_, (s.rewritten_record tx.normalized _).transactions⟩
  dsimp only at h
  unfold Operation.record at h
  obtain ⟨stored, hstored, hperform⟩ := perform_bind_eq_ok h
  obtain rfl := Except.ok.inj hstored
  rw [hperform] at h
  obtain ⟨_, -, hperform⟩ := perform_bind_eq_ok h
  rw [hperform] at h
  exact (Except.ok.inj h).symm

end Store

end FundLedger
