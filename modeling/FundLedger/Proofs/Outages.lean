import FundLedger.Proofs.Recording
/-!
# Recording while the storage fails

A request to a store with outages fails and changes nothing, or it is answered as by the store alone.  So a transaction
that was not recorded properly either left no trace, or it is stored and was applied to the first of its budgets.

* `FailingStore.perform_request_cases`: one request.
* `FailingStore.perform_of_reads`: operations that only read.
* `FailingStore.perform_createTransaction_error`: what a failed attempt leaves behind.
-/

namespace FundLedger

open Protocol in
theorem Operation.reads_screen (tx : Transaction) : (Operation.screen tx).Reads := by
  have hfund : ∀ fund, (request (.queryBudgets (budgetOfFund fund tx.fiscalYear))).Reads := fun _ =>
    follows_request rfl fun _ => trivial
  have hfunds : ∀ funds : List FundId, (funds.mapM fun fund =>
      request (.queryBudgets (budgetOfFund fund tx.fiscalYear))).Reads := by
    intro funds
    induction funds with
    | nil => exact follows_pure trivial
    | cons fund rest ih =>
      rw [List.mapM_cons]
      exact (hfund fund).bind fun _ _ _ => ih.bind fun _ _ _ => follows_pure trivial
  have hbudgets : (budgetsFor tx).Reads := (hfunds tx.funds).bind fun _ _ _ => follows_pure trivial
  have hrule : ∀ result : Except FinanceError Unit, (ofRule result).Reads := fun _ =>
    follows_ofRule fun _ _ => trivial
  have hrecorded : (recordedAllocations tx).Reads := by
    unfold recordedAllocations
    split
    · exact follows_request rfl fun _ => trivial
    · exact follows_pure trivial
  unfold screen
  refine hbudgets.bind fun _ budgets _ => ?_
  refine (reads_linkedFunds tx).bind fun _ funds _ => ?_
  refine (reads_classLinksFor tx budgets).bind fun _ links _ => ?_
  refine (hrule _).bind fun _ _ _ => ?_
  exact hrecorded.bind fun _ recorded _ => follows_pure trivial

/-- The store with a transaction that is not applied to its budgets yet. -/
def Store.begin (s : Store) (tx : Transaction) : Store := { s with transactions := s.transactions.put tx }

namespace FailingStore

variable {α : Type}

theorem perform_ofArithmetic (s : FailingStore) (result : Except Overflow α) :
    s.perform (.ofArithmetic result) = (result.mapError Failure.overflow, s) := rfl

/-- A request fails and changes nothing, or it is answered as by the store alone. -/
theorem answer_cases (s : FailingStore) (r : StorageRequest) :
    ∃ outages, (∃ e, s.answer r = (.error e, ⟨s.store, outages⟩)) ∨
      s.answer r = ((s.store.answer r).1, ⟨(s.store.answer r).2, outages⟩) := by
  refine ⟨s.outages.map (Outage.count r), ?_⟩
  unfold answer
  cases s.outages.find? (Outage.stops r) with
  | some outage => exact .inl ⟨outage.error, rfl⟩
  | none => exact .inr rfl

theorem perform_request_cases (s : FailingStore) (r : StorageRequest) :
    ∃ outages, (∃ e, s.perform (.request r) = (.error e, ⟨s.store, outages⟩)) ∨
      s.perform (.request r) =
        ((s.store.perform (.request r)).1, ⟨(s.store.perform (.request r)).2, outages⟩) := by
  obtain ⟨outages, ⟨e, he⟩ | hok⟩ := s.answer_cases r
  · exact ⟨outages, .inl ⟨e.toFailure, by rw [perform_request, he]; rfl⟩⟩
  · exact ⟨outages, .inr (by rw [perform_request, hok]; rfl)⟩

/-- An operation that only reads leaves the store alone; its result is the one that it has without outages. -/
theorem perform_of_reads {d : Operation α} (h : d.Reads) (s : FailingStore) :
    ∃ outages, (∃ e, s.perform d = (.error e, ⟨s.store, outages⟩)) ∨
      ∃ a, s.perform d = (.ok a, ⟨s.store, outages⟩) ∧ s.store.perform d = (.ok a, s.store) := by
  unfold Operation.Reads at h
  unfold perform Store.perform
  generalize d.run = dialogue at h
  induction dialogue generalizing s with
  | done result =>
    cases result with
    | error e => exact ⟨s.outages, .inl ⟨e, rfl⟩⟩
    | ok a => exact ⟨s.outages, .inr ⟨a, rfl, rfl⟩⟩
  | ask r next ih =>
    obtain ⟨hread, hstops, hnext⟩ := h
    simp only [Dialogue.answeredBy_ask_apply, s.store.answer_of_isRead hread]
    obtain ⟨outages, ⟨e, he⟩ | hsame⟩ := s.answer_cases r
    · rw [he, hstops e]
      exact ⟨outages, .inl ⟨e.toFailure, rfl⟩⟩
    · rw [hsame, s.store.answer_of_isRead hread]
      cases hanswer : (s.store.answer r).1 with
      | error e =>
        rw [hstops e]
        exact ⟨outages, .inl ⟨e.toFailure, rfl⟩⟩
      | ok a => exact ih (.ok a) ⟨s.store, outages⟩ (hnext a)

/-- Of two operations, the first one failed, or the second one did. -/
theorem perform_bind_error {β : Type} {s last : FailingStore} {d : Operation α} {f : α → Operation β} {e : Failure}
    (h : s.perform (d >>= f) = (.error e, last)) :
    s.perform d = (.error e, last) ∨
      ∃ a between, s.perform d = (.ok a, between) ∧ between.perform (f a) = (.error e, last) := by
  rw [perform_bind] at h
  rcases hd : s.perform d with ⟨_ | a, between⟩
  · rw [hd] at h
    cases h
    exact .inl rfl
  · rw [hd] at h
    exact .inr ⟨a, between, rfl, h⟩

/-! ## Failed attempts -/

section

variable {s last : FailingStore} {tx : Transaction} {recorded : List Transaction} {b : Budget}
  {totals : Totals Decimal} {e : Failure}

theorem perform_discard (s : FailingStore) (d : Operation α) :
    s.perform (discard d) =
      match s.perform d with
      | (.ok _, s') => (.ok (), s')
      | (.error e, s') => (.error e, s') := by
  have hdiscard : discard d = d >>= fun _ => pure () := (bind_pure_comp (fun _ => ()) d).symm
  rw [hdiscard, perform_bind]
  rfl

/-- A budget is not written, or it is written as without outages. -/
theorem perform_applyTo_cases (hb : b ∈ s.store.budgets)
    (happly : b.applyWithHistory tx recorded = .ok { b with totals }) :
    ∃ outages, (∃ e, s.perform (Operation.applyTo tx recorded b) = (.error e, ⟨s.store, outages⟩)) ∨
      s.perform (Operation.applyTo tx recorded b) = (.ok (), ⟨s.store.write { b with totals }, outages⟩) := by
  have hwrite : s.store.perform (Operation.request (.updateBudget { b with totals })) =
      (.ok { b with totals, version := b.version + 1 }, s.store.write { b with totals }) :=
    Store.perform_updateBudget_of_mem hb rfl rfl
  unfold Operation.applyTo
  simp only [perform_bind, perform_ofArithmetic, happly, Except.mapError, perform_discard]
  obtain ⟨outages, ⟨e, he⟩ | hsame⟩ := s.perform_request_cases (.updateBudget { b with totals })
  · rw [he]
    exact ⟨outages, .inl ⟨e, rfl⟩⟩
  · rw [hsame, hwrite]
    exact ⟨outages, .inr rfl⟩

/-- The budgets before the one that was not written are written. -/
theorem perform_applyToAll_error {todo : List Budget} (hstored : ∀ b ∈ todo, b ∈ s.store.budgets)
    (hids : (todo.map (·.id)).Nodup)
    (happly : ∀ b ∈ todo, ∃ totals, b.applyWithHistory tx recorded = .ok { b with totals })
    (hfail : s.perform (Operation.applyToAll tx recorded todo) = (.error e, last)) :
    ∃ written b rest, todo = written ++ b :: rest ∧
      last.store = s.store.writeAll (written.map fun c : Budget => c.applied tx recorded) := by
  induction todo generalizing s with
  | nil => cases hfail
  | cons b rest ih =>
    obtain ⟨totals, hb⟩ := happly b List.mem_cons_self
    unfold Operation.applyToAll at hfail
    rw [perform_bind] at hfail
    obtain ⟨outages, ⟨e', he⟩ | hok⟩ := perform_applyTo_cases (hstored b List.mem_cons_self) hb
    · rw [he] at hfail
      cases hfail
      exact ⟨[], b, rest, rfl, rfl⟩
    · rw [hok] at hfail
      obtain ⟨written, b', rest', rfl, hlast⟩ := ih (Store.mem_write_of_nodup totals hids hstored)
        (List.nodup_cons.mp hids).2 (fun c hc => happly c (List.mem_cons_of_mem b hc)) hfail
      refine ⟨b :: written, b', rest', rfl, ?_⟩
      rw [hlast, List.map_cons, Budget.applied_eq hb]
      rfl

/-- A screened transaction was not recorded, or it was applied to the first of its budgets but not to all of them. -/
theorem perform_record_error {budgets : List Budget} (hstored : ∀ b ∈ budgets, b ∈ s.store.budgets)
    (hids : (budgets.map (·.id)).Nodup)
    (happly : ∀ b ∈ budgets, ∃ totals, b.applyWithHistory tx recorded = .ok { b with totals })
    (hfail : s.perform (Operation.record tx (budgets, recorded)) = (.error e, last)) :
    last.store = s.store ∨
      ∃ written b rest, budgets = written ++ b :: rest ∧
        last.store = (s.store.begin tx).writeAll (written.map fun c : Budget => c.applied tx recorded) := by
  have hcreate : s.store.perform (Operation.request (.createTransaction tx)) = (.ok tx, s.store.begin tx) := rfl
  unfold Operation.record at hfail
  obtain ⟨outages, ⟨e', he⟩ | hsame⟩ := s.perform_request_cases (.createTransaction tx)
  · rcases perform_bind_error hfail with hfirst | ⟨created, between, hok, -⟩
    · cases he.symm.trans hfirst
      exact .inl rfl
    · cases he.symm.trans hok
  · rw [hcreate] at hsame
    rcases perform_bind_error hfail with hfirst | ⟨created, between, hok, hrest⟩
    · cases hsame.symm.trans hfirst
    · cases hsame.symm.trans hok
      right
      rcases perform_bind_error hrest with hfirst | ⟨_, between, -, hpure⟩
      · exact perform_applyToAll_error (s := ⟨s.store.begin tx, outages⟩) hstored hids happly hfirst
      · cases hpure

/-- A failed attempt wrote nothing, or it recorded the transaction, which had passed the screening, and applied it to
the first of its budgets but not to all of them. -/
theorem perform_createTransaction_error (h : s.store.Consistent) (hfresh : s.store.transactions.find? tx.id = none)
    (small : s.store.volume + tx.minorAmount.natAbs < 2 ^ 94)
    (hfail : s.perform (.createTransaction tx) = (.error e, last)) :
    last.store = s.store ∨
      (∃ screened, s.store.perform (Operation.screen tx.normalized) = (.ok screened, s.store)) ∧
        ∃ written b rest, s.store.budgetsOf tx.normalized = written ++ b :: rest ∧
          last.store = (s.store.begin tx.normalized).writeAll
            (written.map fun c : Budget => c.applied tx.normalized (s.store.historyFor tx.normalized)) := by
  rw [Operation.createTransaction_eq] at hfail
  have hfresh' : s.store.transactions.find? tx.normalized.id = none := hfresh
  have small' : s.store.volume + tx.normalized.minorAmount.natAbs < 2 ^ 94 := by
    rw [tx.minorAmount_normalized]
    exact small
  obtain ⟨outages, ⟨e', he⟩ | ⟨screened, hscreen, hstore⟩⟩ := perform_of_reads (Operation.reads_screen tx.normalized) s
  · rcases perform_bind_error hfail with hfirst | ⟨screened, between, hok, -⟩
    · cases he.symm.trans hfirst
      exact .inl rfl
    · cases he.symm.trans hok
  · rcases perform_bind_error hfail with hfirst | ⟨_, between, hok, hrecord⟩
    · cases hscreen.symm.trans hfirst
    · cases hscreen.symm.trans hok
      rcases s.store.perform_screen tx.normalized with ⟨e', he⟩ | ⟨hpassed, context, hcontext, hadmission⟩
      · cases he.symm.trans hstore
      · cases hpassed.symm.trans hstore
        have happly : ∀ b ∈ s.store.budgetsOf tx.normalized, ∃ totals,
            b.applyWithHistory tx.normalized (s.store.historyFor tx.normalized) = .ok { b with totals } := by
          intro b hb
          have hcurrency := h.currency_of_admission hcontext hadmission hb
          obtain ⟨totals, happly, -⟩ := h.applied_holds hfresh' small' hb hcurrency
          exact ⟨totals, happly⟩
        have hpart := perform_record_error (s := ⟨s.store, outages⟩)
          (fun b hb => (Store.mem_of_mem_budgetsOf hb).1) (s.store.nodup_budgetsOf _) happly hrecord
        exact hpart.imp_right fun hpart => ⟨⟨_, hpassed⟩, hpart⟩

end

end FailingStore

end FundLedger
