import FundLedger.Proofs.Outages
import FundLedger.Proofs.Stages
/-!
# The requests of an operation

The requests that an operation makes to a store, one after the other, each with the store that it finds.  When one of
them fails, the operation stops there with that error, and the store is left as the request found it.

* `Store.requestsOf`, `Store.asked`: the requests, and the requests with the stores.
* `Store.asked_createTransaction`: recording reads first, then stores the transaction, then writes its budgets.
* `FailingStore.perform_of_asked`: an operation one of whose requests fails.
-/

namespace FundLedger

namespace Store

variable {α β : Type} {s : Store}

/-- The requests of a dialogue with a store, each with the store that it finds. -/
def dialogueAsked (s : Store) : Dialogue StorageRequest StorageRequest.Outcome α → List (StorageRequest × Store)
  | .done _ => []
  | .ask r next => (r, s) :: (s.answer r).2.dialogueAsked (next (s.answer r).1)

/-- The requests of an operation on a store, each with the store that it finds. -/
def asked (s : Store) (operation : Operation α) : List (StorageRequest × Store) := s.dialogueAsked operation.run

/-- The requests of an operation on a store. -/
def requestsOf (s : Store) (operation : Operation α) : List StorageRequest := (s.asked operation).map Prod.fst

/-- What follows asks the store after what came before. -/
theorem dialogueAsked_bind (d : Dialogue StorageRequest StorageRequest.Outcome α)
    (f : α → Dialogue StorageRequest StorageRequest.Outcome β) (s : Store) :
    s.dialogueAsked (d >>= f) = s.dialogueAsked d ++
      (d.answeredBy (m := StateM Store) (fun r s => s.answer r) s).2.dialogueAsked
        (f (d.answeredBy (m := StateM Store) (fun r s => s.answer r) s).1) := by
  induction d generalizing s with
  | done a => rfl
  | ask r next ih => exact congrArg ((r, s) :: ·) (ih (s.answer r).1 (s.answer r).2)

theorem asked_bind (s : Store) (d : Operation α) (f : α → Operation β) :
    s.asked (d >>= f) = s.asked d ++
      match s.perform d with
      | (.ok a, s') => s'.asked (f a)
      | (.error _, _) => [] := by
  unfold asked perform
  rw [ExceptT.run_bind, dialogueAsked_bind]
  rcases d.run.answeredBy (m := StateM Store) (fun r s => s.answer r) s with ⟨_ | a, s'⟩ <;> rfl

@[simp]
theorem asked_request (s : Store) (r : StorageRequest) : s.asked (.request r) = [(r, s)] := rfl

@[simp]
theorem asked_pure (s : Store) (a : α) : s.asked (pure a) = [] := rfl

@[simp]
theorem asked_ofArithmetic (s : Store) (result : Except Overflow α) : s.asked (.ofArithmetic result) = [] := rfl

theorem asked_discard (s : Store) (d : Operation α) : s.asked (discard d) = s.asked d := by
  have hdiscard : discard d = d >>= fun _ => pure () := (bind_pure_comp (fun _ => ()) d).symm
  rw [hdiscard, asked_bind]
  rcases s.perform d with ⟨_ | a, s'⟩ <;> simp

/-- An operation that only reads finds the same store at every request. -/
theorem asked_of_reads {d : Operation α} (h : d.Reads) (s : Store) : ∀ p ∈ s.asked d, p.1.isRead = true ∧ p.2 = s := by
  unfold Operation.Reads at h
  unfold asked
  generalize d.run = dialogue at h
  induction dialogue with
  | done result => exact fun p hp => absurd hp List.not_mem_nil
  | ask r next ih =>
    obtain ⟨hread, hstops, hnext⟩ := h
    unfold dialogueAsked
    rw [s.answer_of_isRead hread]
    refine List.forall_mem_cons.mpr ⟨⟨hread, rfl⟩, ?_⟩
    cases hanswer : (s.answer r).1 with
    | error e =>
      rw [hstops e]
      exact fun p hp => absurd hp List.not_mem_nil
    | ok a => exact ih (.ok a) (hnext a)

/-! ## Recording -/

variable {tx : Transaction} {recorded : List Transaction} {b : Budget} {totals : Totals Decimal}

theorem asked_applyTo (happly : b.applyWithHistory tx recorded = .ok { b with totals }) :
    s.asked (Operation.applyTo tx recorded b) = [(.updateBudget { b with totals }, s)] := by
  unfold Operation.applyTo
  rw [asked_bind, perform_ofArithmetic, happly]
  simp only [asked_ofArithmetic, Except.mapError, asked_discard, List.nil_append]
  rfl

/-- Each budget is written when those before it have been. -/
theorem asked_applyToAll {todo : List Budget} (hstored : ∀ b ∈ todo, b ∈ s.budgets) (hids : (todo.map (·.id)).Nodup)
    (happly : ∀ b ∈ todo, ∃ totals, b.applyWithHistory tx recorded = .ok { b with totals }) (k : Nat) :
    (s.asked (Operation.applyToAll tx recorded todo))[k]? = todo[k]?.map fun b : Budget =>
      (.updateBudget (b.applied tx recorded), s.writeAll ((todo.take k).map fun c : Budget => c.applied tx recorded)) := by
  induction todo generalizing s k with
  | nil => rfl
  | cons b rest ih =>
    obtain ⟨totals, hb⟩ := happly b List.mem_cons_self
    unfold Operation.applyToAll
    rw [asked_bind, asked_applyTo hb, perform_applyTo (hstored b List.mem_cons_self) hb]
    cases k with
    | zero => simp [Budget.applied_eq hb, writeAll]
    | succ k =>
      simp only [List.singleton_append, List.getElem?_cons_succ, List.take_succ_cons, List.map_cons,
        Budget.applied_eq hb]
      exact ih (mem_write_of_nodup totals hids hstored) (List.nodup_cons.mp hids).2
        (fun c hc => happly c (List.mem_cons_of_mem b hc)) k

end Store

/-- Whether a request writes a budget. -/
def StorageRequest.isBudgetWrite : StorageRequest → Bool
  | .updateBudget _ => true
  | _ => false

theorem StorageRequest.isBudgetWrite_of_isRead {r : StorageRequest} (h : r.isRead = true) : r.isBudgetWrite = false := by
  cases r <;> first | rfl | cases h

namespace Store

variable {s : Store} {tx : Transaction}

/-- The store with a transaction that was applied to the first `k` of its budgets. -/
def partlyRecorded (s : Store) (tx : Transaction) (k : Nat) : Store :=
  (s.begin tx).writeAll (((s.budgetsOf tx).take k).map fun b : Budget => b.applied tx (s.historyFor tx))

/-- A position in a list behind a first part and one element more. -/
theorem getElem?_append_cons {α : Type} {l l' : List α} {a x : α} {n : Nat} (h : (l ++ a :: l')[n]? = some x) :
    x ∈ l ∨ x = a ∨ ∃ k, n = l.length + (k + 1) ∧ l'[k]? = some x := by
  rcases Nat.lt_or_ge n l.length with hn | hn
  · rw [List.getElem?_append_left hn] at h
    exact .inl (List.mem_of_getElem? h)
  rw [List.getElem?_append_right hn] at h
  cases hk : n - l.length with
  | zero =>
    rw [hk] at h
    exact .inr (.inl (Option.some.inj h).symm)
  | succ k =>
    rw [hk] at h
    exact .inr (.inr ⟨k, by omega, h⟩)

/-- The requests of a screened transaction: it is stored, and then its budgets are written. -/
theorem asked_record
    (happly : ∀ b ∈ s.budgetsOf tx, ∃ totals, b.applyWithHistory tx (s.historyFor tx) = .ok { b with totals }) :
    ∃ writes, s.asked (Operation.record tx (s.budgetsOf tx, s.historyFor tx)) = (.createTransaction tx, s) :: writes ∧
      ∀ k, writes[k]? = (s.budgetsOf tx)[k]?.map fun b : Budget =>
        (.updateBudget (b.applied tx (s.historyFor tx)), s.partlyRecorded tx k) := by
  have hcreate : s.perform (Operation.request (.createTransaction tx)) = (.ok tx, s.begin tx) := rfl
  have hstored : ∀ b ∈ s.budgetsOf tx, b ∈ (s.begin tx).budgets := fun b hb => (mem_of_mem_budgetsOf hb).1
  refine ⟨(s.begin tx).asked (Operation.applyToAll tx (s.historyFor tx) (s.budgetsOf tx)), ?_, fun k =>
    asked_applyToAll hstored (nodup_budgetsOf s tx) happly k⟩
  unfold Operation.record
  rw [asked_bind, hcreate]
  simp only [asked_bind, perform_applyToAll hstored (nodup_budgetsOf s tx) happly, asked_pure, List.append_nil]
  rfl

/-- The request at some place of recording: one that finds the store as it was, or the one that writes the next budget
after `k` others. -/
theorem Consistent.asked_createTransaction (h : s.Consistent) (hfresh : s.transactions.find? tx.id = none)
    (small : s.volume + tx.minorAmount.natAbs < 2 ^ 94) {n : Nat} {r : StorageRequest} {t : Store}
    (hr : (s.asked (.createTransaction tx))[n]? = some (r, t)) :
    (r.isBudgetWrite = false ∧ t = s) ∨
      ∃ k, r.isBudgetWrite = true ∧ k < (s.budgetsOf tx.normalized).length ∧ t = s.partlyRecorded tx.normalized k ∧
        ((s.asked (.createTransaction tx)).take n).countP (·.1.isBudgetWrite) = k ∧
        s.perform (Operation.screen tx.normalized) =
          (.ok (s.budgetsOf tx.normalized, s.historyFor tx.normalized), s) := by
  have hreads := asked_of_reads (Operation.reads_screen tx.normalized) s
  rw [Operation.createTransaction_eq, asked_bind] at hr ⊢
  rcases s.perform_screen tx.normalized with ⟨e, he⟩ | ⟨hok, context, hcontext, hadmission⟩
  · rw [he] at hr
    obtain ⟨hread, hsame⟩ := hreads (r, t) (List.mem_of_getElem? (by simpa using hr))
    exact .inl ⟨StorageRequest.isBudgetWrite_of_isRead hread, hsame⟩
  have hfresh' : s.transactions.find? tx.normalized.id = none := hfresh
  have small' : s.volume + tx.normalized.minorAmount.natAbs < 2 ^ 94 := by
    rw [tx.minorAmount_normalized]
    exact small
  obtain ⟨writes, hrecord, hwrites⟩ := asked_record fun b hb =>
    (h.applied_holds hfresh' small' hb (h.currency_of_admission hcontext hadmission hb)).imp fun _ happly => happly.1
  rw [hok] at hr ⊢
  simp only [hrecord] at hr ⊢
  rcases getElem?_append_cons hr with hread | hcreate | ⟨k, rfl, hk⟩
  · obtain ⟨hread, hsame⟩ := hreads (r, t) hread
    exact .inl ⟨StorageRequest.isBudgetWrite_of_isRead hread, hsame⟩
  · cases hcreate
    exact .inl ⟨rfl, rfl⟩
  · have hk' := hk
    rw [hwrites k] at hk'
    obtain ⟨b, hb, heq⟩ := Option.map_eq_some_iff.mp hk'
    cases heq
    refine .inr ⟨k, rfl, (List.getElem?_eq_some_iff.mp hb).1, rfl, ?_, trivial⟩
    -- what comes before are reads, the creation, and `k` writes
    have hnone : (s.asked (Operation.screen tx.normalized)).countP (·.1.isBudgetWrite) = 0 :=
      List.countP_eq_zero.mpr fun p hp => by simp [StorageRequest.isBudgetWrite_of_isRead (hreads p hp).1]
    have hall : (writes.take k).countP (·.1.isBudgetWrite) = (writes.take k).length := by
      refine List.countP_eq_length.mpr fun p hp => ?_
      obtain ⟨j, hj⟩ := List.mem_iff_getElem?.mp (List.mem_of_mem_take hp)
      rw [hwrites j] at hj
      obtain ⟨b, -, rfl⟩ := Option.map_eq_some_iff.mp hj
      rfl
    have hlength : (writes.take k).length = k := by
      have hlt := (List.getElem?_eq_some_iff.mp hk).1
      rw [List.length_take]
      omega
    rw [List.take_length_add_append, List.take_succ_cons, List.countP_append, List.countP_cons, hnone, hall, hlength]
    simp [StorageRequest.isBudgetWrite]

end Store

namespace FailingStore

variable {α Stage : Type} {P : Protocol Stage} {post : Stage → α → Prop} {stage : Stage}

/-- An operation stops at the request that fails, and leaves the store as that found it. -/
theorem perform_of_asked {d : Operation α} (h : P.Follows post stage d.run) {s t : Store} {n : Nat} {r : StorageRequest}
    (hr : (s.asked d)[n]? = some (r, t)) (e : StoreError) :
    ∃ outages, (FailingStore.mk s [⟨fun _ => true, n, e⟩]).perform d = (.error e.toFailure, ⟨t, outages⟩) := by
  unfold Store.asked at hr
  unfold perform
  generalize d.run = dialogue at h hr
  induction dialogue generalizing s n stage with
  | done result => cases hr
  | ask r' next ih =>
    obtain ⟨-, hstops, hnext⟩ := h
    rw [Dialogue.answeredBy_ask_apply]
    cases n with
    | zero =>
      cases hr
      have hanswer : (FailingStore.mk t [⟨fun _ => true, 0, e⟩]).answer r = (.error e, ⟨t, [⟨fun _ => true, 0, e⟩]⟩) := rfl
      rw [hanswer, hstops e]
      exact ⟨_, rfl⟩
    | succ n =>
      have hanswer : (FailingStore.mk s [⟨fun _ => true, n + 1, e⟩]).answer r' =
          ((s.answer r').1, ⟨(s.answer r').2, [⟨fun _ => true, n, e⟩]⟩) := rfl
      have hr' : ((s.answer r').2.dialogueAsked (next (s.answer r').1))[n]? = some (r, t) := hr
      rw [hanswer]
      cases hfirst : (s.answer r').1 with
      | error e' =>
        rw [hfirst, hstops e'] at hr'
        cases hr'
      | ok a =>
        rw [hfirst] at hr'
        exact ih (.ok a) (hnext a) hr'

end FailingStore

end FundLedger
