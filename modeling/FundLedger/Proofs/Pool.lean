import FundLedger.Proofs.Moves
/-!
# Operations that take turns

Several operations on one store.  In each step one of them makes its next request, and the store answers at once; which
one it is, a schedule decides.

* `Job`, `Pool`, `Pool.run`: the operations, and what a schedule makes of them.
* `Pool.Behind`: how many writes of a budget an operation that holds it has missed.
* `Pool.Doomed`: a pool in which some operation has failed or is bound to fail.
* `Doomed.step`: a pool that is doomed stays so.
* `Tracks.step`: a step fails, or it is a move of one operation.
-/

namespace FundLedger

/-- An operation that runs beside others. -/
inductive Job
  | create (tx : Transaction)
  | recalculate (id : BudgetId)

namespace Job

/-- The operation, without its result. -/
def operation : Job → Operation Unit
  | create tx => discard (.createTransaction tx)
  | recalculate id => discard (.recalculateBudget id)

/-- The transaction that is recorded. -/
def transaction? : Job → Option Transaction
  | create tx => some tx.normalized
  | recalculate _ => none

/-- The stage before the first request. -/
def firstStage : Job → Stage
  | create tx => .reading tx.normalized [] tx.normalized.funds
  | recalculate _ => .opening

theorem follows (job : Job) :
    Protocol.recording.Follows (fun stage _ => stage.IsLast) job.firstStage job.operation.run := by
  cases job with
  | create tx => exact (Protocol.follows_createTransaction tx).discard
  | recalculate id => exact (Protocol.follows_recalculateBudget id).discard

end Job

/-- A request with its outcome. -/
structure Event where
  request : StorageRequest
  outcome : request.Outcome

/-- Whether a budget was written. -/
def Event.writes (id : BudgetId) : Event → Bool
  | ⟨.updateBudget b, .ok _⟩ => b.id == id
  | _ => false

theorem Event.writes_of_isRead {id : BudgetId} {r : StorageRequest} {outcome : r.Outcome} (h : r.isRead = true) :
    Event.writes id ⟨r, outcome⟩ = false := by
  cases r <;> first | rfl | cases h

/-- Operations on one store, and what happened so far. -/
structure Pool (n : Nat) where
  store : Store
  threads : Fin n → Dialogue StorageRequest StorageRequest.Outcome (Except Failure Unit)
  log : List Event

namespace Pool

variable {n : Nat}

/-- Nothing has happened. -/
def start (s : Store) (jobs : Fin n → Job) : Pool n := ⟨s, fun i => (jobs i).operation.run, []⟩

/-- One operation makes its next request, if it has not ended. -/
def step (p : Pool n) (i : Fin n) : Pool n :=
  match p.threads i with
  | .done _ => p
  | .ask r next =>
    { store := (p.store.answer r).2
      threads := Function.update p.threads i (next (p.store.answer r).1)
      log := p.log ++ [⟨r, (p.store.answer r).1⟩] }

/-- The operations take turns as the schedule says. -/
def run (p : Pool n) (schedule : List (Fin n)) : Pool n := schedule.foldl step p

/-- The result of an operation that has ended. -/
def result? (p : Pool n) (i : Fin n) : Option (Except Failure Unit) :=
  match p.threads i with
  | .done result => some result
  | .ask .. => none

/-- How often a budget was written. -/
def writes (p : Pool n) (id : BudgetId) : Nat := p.log.countP (Event.writes id)

section

variable {p : Pool n} {i : Fin n} {r : StorageRequest}
  {next : r.Outcome → Dialogue StorageRequest StorageRequest.Outcome (Except Failure Unit)}

theorem step_of_done {result : Except Failure Unit} (h : p.threads i = .done result) : p.step i = p := by
  unfold step
  rw [h]

theorem step_of_ask (h : p.threads i = .ask r next) :
    p.step i =
      { store := (p.store.answer r).2
        threads := Function.update p.threads i (next (p.store.answer r).1)
        log := p.log ++ [⟨r, (p.store.answer r).1⟩] } := by
  unfold step
  rw [h]

theorem threads_eq_done {result : Except Failure Unit} (h : p.result? i = some result) :
    p.threads i = .done result := by
  unfold result? at h
  split at h
  · cases h
    assumption
  · cases h

end

/-! ## Counted writes -/

theorem writes_le_step (p : Pool n) (i : Fin n) (id : BudgetId) : p.writes id ≤ (p.step i).writes id := by
  cases hthread : p.threads i with
  | done result => rw [step_of_done hthread]
  | ask r next =>
    rw [step_of_ask hthread]
    unfold writes
    rw [List.countP_append]
    exact Nat.le_add_right _ _

theorem writes_le_run (p : Pool n) (schedule : List (Fin n)) (id : BudgetId) :
    p.writes id ≤ (p.run schedule).writes id := by
  induction schedule generalizing p with
  | nil => exact Nat.le_refl _
  | cons i rest ih => exact (p.writes_le_step i id).trans (ih (p.step i))

/-- A step writes at most one budget. -/
theorem writes_step_le (p : Pool n) (i : Fin n) (id : BudgetId) : (p.step i).writes id ≤ p.writes id + 1 := by
  cases hthread : p.threads i with
  | done result =>
    rw [step_of_done hthread]
    exact Nat.le_succ _
  | ask r next =>
    rw [step_of_ask hthread]
    unfold writes
    rw [List.countP_append]
    exact Nat.add_le_add_left List.countP_le_length _

theorem writes_run_le (p : Pool n) (schedule : List (Fin n)) (id : BudgetId) :
    (p.run schedule).writes id ≤ p.writes id + schedule.length := by
  induction schedule generalizing p with
  | nil => exact Nat.le_refl _
  | cons i rest ih =>
    have hstep := p.writes_step_le i id
    have hrest := ih (p.step i)
    change ((p.step i).run rest).writes id ≤ p.writes id + (rest.length + 1)
    omega

/-- Fewer than `2 ^ 64` writes do not lead a version back to where it was. -/
theorem add_ofNat_ne (version : Int64) {k : Nat} (hpos : 0 < k) (hk : k < 2 ^ 64) : version + .ofNat k ≠ version := by
  intro h
  have hzero : (Int64.ofNat k).toInt = 0 := by rw [Int64.add_eq_left.mp h, Int64.toInt_zero]
  rw [Int64.toInt_ofNat'] at hzero
  have hdvd : 2 ^ 64 ∣ k := by exact_mod_cast Int.dvd_of_bmod_eq_zero hzero
  exact absurd (Nat.le_of_dvd hpos hdvd) (Nat.not_le.mpr hk)

/-- The stored budget was written so many times since it was as it is held here. -/
structure Behind (p : Pool n) (b : Budget) (k : Nat) : Prop where
  version : ∀ c ∈ p.store.budgets, c.id = b.id → c.version = b.version + .ofNat k
  le_writes : k ≤ p.writes b.id

section

variable {p : Pool n} {stages : Fin n → Stage} {i : Fin n} {r : StorageRequest} {a : r.Answer} {stage' : Stage}
  {next : r.Outcome → Dialogue StorageRequest StorageRequest.Outcome (Except Failure Unit)} {b b' : Budget}
  {totals : Totals Decimal} {k : Nat}

theorem behind_of_mem (hb : b ∈ p.store.budgets) : p.Behind b 0 where
  version c hc hid := by
    rw [Table.eq_of_id_eq hc hb hid]
    exact (Int64.add_zero _).symm
  le_writes := Nat.zero_le _

/-- A budget that was written since cannot be stored in the version that is held. -/
theorem Behind.not_hasVersionOf (h : p.Behind b k) (hpos : 0 < k) (hfew : p.writes b.id < 2 ^ 64) :
    ¬p.store.HasVersionOf b := by
  rintro ⟨c, hc, hid, hversion⟩
  exact add_ofNat_ne b.version hpos (h.le_writes.trans_lt hfew) ((h.version c hc hid).symm.trans hversion)

/-- One more write, by whoever held the budget as it was stored. -/
theorem Behind.written (h : p.Behind b k) (hthread : p.threads i = .ask r next) (hanswer : (p.store.answer r).1 = .ok a)
    (hrequest : r = .updateBudget { b' with totals }) (hid : b'.id = b.id) (hstored : p.store.HasVersionOf b')
    (hwrite : (p.store.answer r).2 = p.store.write { b' with totals }) : (p.step i).Behind b (k + 1) := by
  subst hrequest
  obtain ⟨c, hc, hcid, hversion⟩ := hstored
  rw [step_of_ask hthread, hwrite, hanswer]
  constructor
  · intro c' hc' hid'
    rcases Store.mem_write.mp hc' with rfl | ⟨-, hne⟩
    · change b'.version + 1 = b.version + .ofNat (k + 1)
      rw [← hversion, h.version c hc (hcid.trans hid), Int64.add_assoc, Int64.ofNat_add]
      rfl
    · exact absurd (hid'.trans hid.symm) hne
  · have hevent : Event.writes b.id ⟨.updateBudget { b' with totals }, .ok a⟩ = true := beq_iff_eq.mpr hid
    unfold writes
    rw [List.countP_append, List.countP_singleton, if_pos hevent]
    exact Nat.succ_le_succ h.le_writes

/-- Whatever moves, the writes that a budget missed stay missed. -/
theorem Behind.step (h : p.Behind b k) (hthread : p.threads i = .ask r next) (hanswer : (p.store.answer r).1 = .ok a)
    (hmove : (stages i).Move p.store r stage' (p.store.answer r).2) : ∃ k' ≥ k, (p.step i).Behind b k' := by
  have hwrites := p.writes_le_step i b.id
  rcases hmove.held_cases with ⟨b', totals, -, hrequest, hstored, hwrite⟩ | ⟨hbudgets, -⟩
  · by_cases hid : b'.id = b.id
    · exact ⟨k + 1, Nat.le_succ k, h.written hthread hanswer hrequest hid hstored hwrite⟩
    · refine ⟨k, Nat.le_refl k, fun c hc hcid => ?_, h.le_writes.trans hwrites⟩
      rw [step_of_ask hthread, hwrite] at hc
      rcases Store.mem_write.mp hc with rfl | ⟨hold, -⟩
      · exact absurd hcid hid
      · exact h.version c hold hcid
  · refine ⟨k, Nat.le_refl k, fun c hc hcid => ?_, h.le_writes.trans hwrites⟩
    rw [step_of_ask hthread, hbudgets] at hc
    exact h.version c hc hcid

end

/-! ## Doomed pools -/

/-- An operation has failed, or holds a budget that was written since, or two operations hold the same budget. -/
inductive Doomed (p : Pool n) (stages : Fin n → Stage) : Prop
  | failed (i : Fin n) (e : Failure) (h : p.threads i = .done (.error e))
  | outdated (i : Fin n) (b : Budget) (hb : b ∈ (stages i).held) {k : Nat} (hpos : 0 < k) (h : p.Behind b k)
  | contended (i j : Fin n) (hij : i ≠ j) (b b' : Budget) (hb : b ∈ (stages i).held) (hb' : b' ∈ (stages j).held)
    (hid : b'.id = b.id) {k k' : Nat} (h : p.Behind b k) (h' : p.Behind b' k')

section

variable {p : Pool n} {stages : Fin n → Stage} {i : Fin n} {r : StorageRequest} {a : r.Answer} {stage' : Stage}
  {next : r.Outcome → Dialogue StorageRequest StorageRequest.Outcome (Except Failure Unit)}

/-- What any of the operations holds, it still holds after a move, unless it was the one that wrote it. -/
theorem mem_held_update {s' : Store} (hmove : (stages i).Move p.store r stage' s') {j : Fin n} {b : Budget}
    (hb : b ∈ (stages j).held) :
    b ∈ (Function.update stages i stage' j).held ∨
      j = i ∧ ∃ totals, r = .updateBudget { b with totals } ∧ p.store.HasVersionOf b ∧
        s' = p.store.write { b with totals } := by
  by_cases hji : j = i
  · subst hji
    rw [Function.update_self]
    rcases hmove.mem_held hb with hkept | hwritten
    · exact .inl hkept
    · exact .inr ⟨rfl, hwritten⟩
  · rw [Function.update_of_ne hji]
    exact .inl hb

/-- A doomed pool stays doomed, as long as no version has come round. -/
theorem Doomed.step (h : p.Doomed stages) (hfew : ∀ id, p.writes id < 2 ^ 64) (hthread : p.threads i = .ask r next)
    (hanswer : (p.store.answer r).1 = .ok a) (hmove : (stages i).Move p.store r stage' (p.store.answer r).2) :
    (p.step i).Doomed (Function.update stages i stage') := by
  cases h with
  | failed j e hj =>
    refine .failed j e ?_
    have hji : j ≠ i := by
      rintro rfl
      rw [hthread] at hj
      cases hj
    rw [step_of_ask hthread]
    exact (Function.update_of_ne hji ..).trans hj
  | outdated j b hb hpos hbehind =>
    rcases mem_held_update hmove hb with hb | ⟨-, totals, -, hstored, -⟩
    · obtain ⟨k', hk', hbehind'⟩ := hbehind.step hthread hanswer hmove
      exact .outdated j b hb (hpos.trans_le hk') hbehind'
    · -- it cannot be written any more
      exact absurd hstored (hbehind.not_hasVersionOf hpos (hfew b.id))
  | contended j k hjk b b' hb hb' hid hbehind hbehind' =>
    rcases mem_held_update hmove hb with hb₁ | ⟨hji, totals, hrequest, hstored, hwrite⟩
    · rcases mem_held_update hmove hb' with hb'₁ | ⟨hki, totals, hrequest, hstored, hwrite⟩
      · obtain ⟨_, -, hnext⟩ := hbehind.step hthread hanswer hmove
        obtain ⟨_, -, hnext'⟩ := hbehind'.step hthread hanswer hmove
        exact .contended j k hjk b b' hb₁ hb'₁ hid hnext hnext'
      · exact .outdated j b hb₁ (Nat.succ_pos _) (hbehind.written hthread hanswer hrequest hid hstored hwrite)
    · have hb'₁ : b' ∈ (Function.update stages i stage' k).held := by
        rw [Function.update_of_ne (fun hki => hjk (hji.trans hki.symm))]
        exact hb'
      exact .outdated k b' hb'₁ (Nat.succ_pos _) (hbehind'.written hthread hanswer hrequest hid.symm hstored hwrite)

/-- A pool in which every operation has ended well was not doomed. -/
theorem Doomed.not_last (h : p.Doomed stages) (hlast : ∀ i, (stages i).IsLast)
    (hok : ∀ i, p.threads i = .done (.ok ())) : False := by
  cases h with
  | failed i e he =>
    rw [hok i] at he
    cases he
  | outdated i b hb hpos hbehind =>
    rw [(hlast i).1] at hb
    cases hb
  | contended i j hij b b' hb hb' hid hbehind hbehind' =>
    rw [(hlast i).1] at hb
    cases hb

end

/-! ## Stages of a pool -/

/-- Every operation is in its stage. -/
structure Tracks (jobs : Fin n → Job) (p : Pool n) (stages : Fin n → Stage) : Prop where
  follows : ∀ i, Protocol.recording.Follows (fun stage _ => stage.IsLast) (stages i) (p.threads i)
  transaction : ∀ i, (stages i).transaction? = (jobs i).transaction?

section

variable {jobs : Fin n → Job} {p : Pool n} {stages : Fin n → Stage}

theorem tracks_start (s : Store) (jobs : Fin n → Job) : (start s jobs).Tracks jobs fun i => (jobs i).firstStage where
  follows i := (jobs i).follows
  transaction i := by cases jobs i <;> rfl

/-- A step does nothing, or an operation fails, or it moves on. -/
theorem Tracks.step (h : p.Tracks jobs stages) (i : Fin n) :
    p.step i = p ∨ ((p.step i).Tracks jobs stages ∧ (p.step i).Doomed stages) ∨
      ∃ (r : StorageRequest) (next : _) (a : r.Answer) (stage' : Stage), p.threads i = .ask r next ∧
        (p.store.answer r).1 = .ok a ∧ (stages i).Move p.store r stage' (p.store.answer r).2 ∧
          (p.step i).Tracks jobs (Function.update stages i stage') := by
  have hfollows := h.follows i
  cases hthread : p.threads i with
  | done result => exact .inl (step_of_done hthread)
  | ask r next =>
    rw [hthread] at hfollows
    obtain ⟨hasks, herror, hnext⟩ := hfollows
    rw [step_of_ask hthread]
    cases hanswer : (p.store.answer r).1 with
    | error e =>
      refine .inr (.inl ⟨⟨fun j => ?_, h.transaction⟩, .failed i e.toFailure ?_⟩)
      · by_cases hji : j = i
        · subst hji
          simp only [Function.update_self, herror e]
          trivial
        · simp only [Function.update_of_ne hji]
          exact h.follows j
      · simp only [Function.update_self, herror e]
    | ok a =>
      have hmove := Protocol.recording_move hasks hanswer
      refine .inr (.inr ⟨r, next, a, _, rfl, hanswer, hmove, ⟨fun j => ?_, fun j => ?_⟩⟩)
      · by_cases hji : j = i
        · subst hji
          simp only [Function.update_self]
          exact hnext a
        · simp only [Function.update_of_ne hji]
          exact h.follows j
      · by_cases hji : j = i
        · subst hji
          rw [Function.update_self, hmove.transaction?_eq]
          exact h.transaction j
        · rw [Function.update_of_ne hji]
          exact h.transaction j

end

end Pool

end FundLedger
