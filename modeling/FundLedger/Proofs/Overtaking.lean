import Mathlib.Data.List.FinRange
import Mathlib.Data.List.Induction
import Mathlib.Data.List.Permutation
import FundLedger.Proofs.Pool
import FundLedger.Proofs.Reservations
/-!
# Calls on one reservation at once

Each call reads the transaction, and writes it in its next step without looking whether it is still the one that was
read.  So what other calls wrote in between is lost.  Nothing else is: the store is always that of some of the ended calls
one after the other, and every other call ended while one of these was about to write.

* `Pool.afterTurns`: calls on one reservation that take turns.
* `Pool.EndsBeside`: a call ends while another one is about to write.
* `Pool.Leads`: calls that lead to a store one after the other, while all others are lost.
* `Pool.afterTurns_serial`: the whole run.
-/

namespace FundLedger

namespace AccountCall

/-- What is left of a call after its reading: it ends, or it asks for the transaction to be written. -/
def afterReading : Except Failure (Option Transaction) →
    Dialogue StorageRequest StorageRequest.Outcome (Except Failure Unit)
  | .error failure => .done (.error failure)
  | .ok none => .done (.ok ())
  | .ok (some tx) => .ask (.updateTransaction tx) fun outcome => .done (outcome.mapError StoreError.toFailure)

theorem run_operation (call : AccountCall) (id : TransactionId) :
    ∃ next, (call.operation id).run = .ask (StorageRequest.getTransaction id) next ∧
      ∀ tx, next (.ok tx) = afterReading (call.written tx) := by
  rw [operation_eq]
  refine ⟨_, rfl, fun tx => ?_⟩
  change (Operation.ofResult (call.written tx) >>= write).run = _
  rcases call.written tx with failure | _ | tx' <;> rfl

end AccountCall

namespace Store

variable {s s' : Store} {id : TransactionId} {tx : Transaction}

/-- Calls that go through leave another transaction under the identifier, and all else as it was. -/
theorem perform_serial_eq_put {calls : List AccountCall} (hfind : s.transactions.find? id = some tx)
    (h : s.perform (AccountCall.serial id calls) = (.ok (), s')) :
    ∃ t, t.id = id ∧ s' = { s with transactions := s.transactions.put t } := by
  induction calls generalizing s tx with
  | nil =>
    obtain ⟨htx, hid⟩ := Table.find?_eq_some_iff.mp hfind
    obtain rfl : s = s' := congrArg Prod.snd h
    exact ⟨tx, hid, by rw [Table.put_of_mem htx]⟩
  | cons call rest ih =>
    change s.perform (call.operation id >>= fun _ => AccountCall.serial id rest) = _ at h
    rw [perform_bind, perform_accountCall hfind call] at h
    rcases hwritten : call.written tx with failure | _ | tx' <;> rw [hwritten] at h
    · cases h
    · exact ih hfind h
    · have hid : tx'.id = id := (AccountCall.id_of_written hwritten).trans (Table.find?_eq_some_iff.mp hfind).2
      have hfind' : (s.transactions.put tx').find? id = some tx' := Table.find?_put hid
      obtain ⟨t, ht, rfl⟩ := ih (s := { s with transactions := s.transactions.put tx' }) hfind' h
      refine ⟨t, ht, ?_⟩
      have hsame : Keyed.id tx' = Keyed.id t := hid.trans ht.symm
      rw [Table.put_put hsame]

end Store

namespace Pool

variable {n : Nat}

section

variable {p : Pool n} {i j k : Fin n}

/-- A call has ended well. -/
def HasEnded (p : Pool n) (i : Fin n) : Prop := p.result? i = some (.ok ())

/-- A call has read the transaction and is about to write it. -/
def IsPending (p : Pool n) (j : Fin n) : Prop := ∃ tx next, p.threads j = .ask (StorageRequest.updateTransaction tx) next

theorem hasEnded_iff : p.HasEnded i ↔ p.threads i = .done (.ok ()) := by
  refine ⟨threads_eq_done, fun h => ?_⟩
  unfold HasEnded result?
  rw [h]

theorem threads_step_of_ne (h : k ≠ i) : (p.step i).threads k = p.threads k := by
  cases hthread : p.threads i with
  | done result => rw [step_of_done hthread]
  | ask r next =>
    rw [step_of_ask hthread]
    exact Function.update_of_ne h ..

theorem HasEnded.step (h : p.HasEnded k) (i : Fin n) : (p.step i).HasEnded k := by
  by_cases hk : k = i
  · subst hk
    rwa [step_of_done (hasEnded_iff.mp h)]
  · rwa [hasEnded_iff, threads_step_of_ne hk, ← hasEnded_iff]

theorem hasEnded_of_step (hk : k ≠ i) (h : (p.step i).HasEnded k) : p.HasEnded k := by
  rwa [hasEnded_iff, threads_step_of_ne hk, ← hasEnded_iff] at h

end

/-! ## Calls that take turns -/

section Turns

variable (s : Store) (id : TransactionId) (jobs : Fin n → AccountCall)

/-- Calls on one reservation, after they have taken turns as the schedule says. -/
def afterTurns (schedule : List (Fin n)) : Pool n := run ⟨s, fun i => ((jobs i).operation id).run, []⟩ schedule

/-- A call has ended while another one was about to write. -/
def EndsBeside (schedule : List (Fin n)) (i j : Fin n) : Prop :=
  ∃ before, before ++ [i] <+: schedule ∧ ¬(afterTurns s id jobs before).HasEnded i ∧
    (afterTurns s id jobs (before ++ [i])).HasEnded i ∧ j ≠ i ∧ (afterTurns s id jobs before).IsPending j

/-- Some of the ended calls lead to a store one after the other, and all others have ended while one of the writers was
about to write. -/
structure Leads (schedule writers calls : List (Fin n)) (s' : Store) : Prop where
  nodup : calls.Nodup
  ended : ∀ i ∈ calls, (afterTurns s id jobs schedule).HasEnded i
  serial : s.perform (AccountCall.serial id (calls.map jobs)) = (.ok (), s')
  lost : ∀ i, (afterTurns s id jobs schedule).HasEnded i → i ∉ calls → ∃ j ∈ writers, EndsBeside s id jobs schedule i j

/-- How far a call is.  If it is about to write, it has read what some calls led to, and all others that have ended are
lost to them or to it. -/
inductive Progress (schedule : List (Fin n)) (j : Fin n) : Prop
  | idle (hthread : (afterTurns s id jobs schedule).threads j = ((jobs j).operation id).run)
  | done (result : Except Failure Unit) (hthread : (afterTurns s id jobs schedule).threads j = .done result)
  | pending {calls : List (Fin n)} {s₁ : Store} {tx tx' : Transaction}
      (hleads : Leads s id jobs schedule (calls ++ [j]) calls s₁) (hfind : s₁.transactions.find? id = some tx)
      (hwritten : (jobs j).written tx = .ok (some tx'))
      (hthread : (afterTurns s id jobs schedule).threads j = AccountCall.afterReading (.ok (some tx')))

/-- Some calls lead to the store, with nobody else to write. -/
def LeadsToStore (schedule : List (Fin n)) : Prop :=
  ∃ calls, Leads s id jobs schedule calls calls (afterTurns s id jobs schedule).store

end Turns

variable {s s₁ s₂ : Store} {id : TransactionId} {jobs : Fin n → AccountCall} {tx : Transaction} {i j k : Fin n}
  {schedule writers writers' calls : List (Fin n)}

theorem afterTurns_append (schedule : List (Fin n)) (i : Fin n) :
    afterTurns s id jobs (schedule ++ [i]) = (afterTurns s id jobs schedule).step i := List.foldl_append ..

theorem EndsBeside.append (h : EndsBeside s id jobs schedule i j) (k : Fin n) :
    EndsBeside s id jobs (schedule ++ [k]) i j := by
  obtain ⟨before, hbefore, hrest⟩ := h
  exact ⟨before, hbefore.trans (List.prefix_append ..), hrest⟩

/-- A turn that ends no call but one that is lost. -/
theorem Leads.turn (h : Leads s id jobs schedule writers calls s₁) (hsub : writers ⊆ writers')
    (hnew : (afterTurns s id jobs (schedule ++ [i])).HasEnded i → (afterTurns s id jobs schedule).HasEnded i ∨
      ∃ j ∈ writers', EndsBeside s id jobs (schedule ++ [i]) i j) :
    Leads s id jobs (schedule ++ [i]) writers' calls s₁ where
  nodup := h.nodup
  ended := fun k hk => afterTurns_append schedule i ▸ (h.ended k hk).step i
  serial := h.serial
  lost := by
    have hold : ∀ k, (afterTurns s id jobs schedule).HasEnded k → k ∉ calls →
        ∃ j ∈ writers', EndsBeside s id jobs (schedule ++ [i]) k j := by
      intro k hk hnot
      obtain ⟨j, hj, hbeside⟩ := h.lost k hk hnot
      exact ⟨j, hsub hj, hbeside.append i⟩
    intro k hk hnot
    by_cases hki : k = i
    · subst hki
      rcases hnew hk with hbefore | hlost
      · exact hold k hbefore hnot
      · exact hlost
    · rw [afterTurns_append] at hk
      exact hold k (hasEnded_of_step hki hk) hnot

/-- A turn that ends a call, from a store that some calls lead to. -/
theorem Leads.snoc (h : Leads s id jobs schedule writers calls s₁) (hsub : writers ⊆ calls ++ [i])
    (hnot : ¬(afterTurns s id jobs schedule).HasEnded i) (hended : (afterTurns s id jobs (schedule ++ [i])).HasEnded i)
    (hcall : s₁.perform ((jobs i).operation id) = (.ok (), s₂)) :
    Leads s id jobs (schedule ++ [i]) (calls ++ [i]) (calls ++ [i]) s₂ where
  nodup := by
    refine List.nodup_append.mpr ⟨h.nodup, List.nodup_singleton i, ?_⟩
    rintro k hk _ hi rfl
    obtain rfl := List.mem_singleton.mp hi
    exact hnot (h.ended _ hk)
  ended := by
    intro k hk
    rcases List.mem_append.mp hk with hk | hk
    · exact afterTurns_append schedule i ▸ (h.ended k hk).step i
    · rwa [List.mem_singleton.mp hk]
  serial := by
    rw [List.map_append, Store.perform_serial_append h.serial]
    change s₁.perform ((jobs i).operation id >>= fun _ => pure ()) = _
    rw [Store.perform_bind, hcall]
    rfl
  lost := by
    intro k hk hnotin
    rw [List.mem_append, List.mem_singleton, not_or] at hnotin
    rw [afterTurns_append] at hk
    obtain ⟨j, hj, hbeside⟩ := h.lost k (hasEnded_of_step hnotin.2 hk) hnotin.1
    exact ⟨j, hsub hj, hbeside.append i⟩

/-! ## One turn -/

section Turn

/-- A call that has not begun reads the transaction. -/
theorem turn_of_idle (hthread : (afterTurns s id jobs schedule).threads i = ((jobs i).operation id).run)
    (hfind : (afterTurns s id jobs schedule).store.transactions.find? id = some tx) :
    (afterTurns s id jobs (schedule ++ [i])).store = (afterTurns s id jobs schedule).store ∧
      (afterTurns s id jobs (schedule ++ [i])).threads i = AccountCall.afterReading ((jobs i).written tx) := by
  obtain ⟨next, hask, hnext⟩ := (jobs i).run_operation id
  have hanswer : (afterTurns s id jobs schedule).store.answer (.getTransaction id) =
      (.ok tx, (afterTurns s id jobs schedule).store) := by
    change (Store.found .transactions id ((afterTurns s id jobs schedule).store.transactions.find? id), _) = _
    rw [hfind]
    rfl
  rw [afterTurns_append, step_of_ask (hthread.trans hask), hanswer]
  exact ⟨rfl, (Function.update_self ..).trans (hnext tx)⟩

/-- A call that is about to write does so. -/
theorem turn_of_pending {tx' : Transaction}
    (hthread : (afterTurns s id jobs schedule).threads i = AccountCall.afterReading (.ok (some tx')))
    (htx : tx ∈ (afterTurns s id jobs schedule).store.transactions) (hid : tx'.id = tx.id) :
    (afterTurns s id jobs (schedule ++ [i])).store =
        { (afterTurns s id jobs schedule).store with
          transactions := (afterTurns s id jobs schedule).store.transactions.put tx' } ∧
      (afterTurns s id jobs (schedule ++ [i])).threads i = .done (.ok ()) := by
  have hanswer : (afterTurns s id jobs schedule).store.answer (.updateTransaction tx') =
      (.ok (), { (afterTurns s id jobs schedule).store with
        transactions := (afterTurns s id jobs schedule).store.transactions.put tx' }) :=
    Store.updateTransaction_of_mem htx hid
  rw [afterTurns_append, step_of_ask hthread, hanswer]
  exact ⟨rfl, Function.update_self ..⟩

/-- The turn of another call leaves a call where it is.  If the other one ends, it does so beside the call. -/
theorem Progress.turn (hji : j ≠ i) (h : Progress s id jobs schedule j) : Progress s id jobs (schedule ++ [i]) j := by
  have hsame : (afterTurns s id jobs (schedule ++ [i])).threads j = (afterTurns s id jobs schedule).threads j := by
    rw [afterTurns_append]
    exact threads_step_of_ne hji
  cases h with
  | idle hthread => exact .idle (hsame.trans hthread)
  | done result hthread => exact .done result (hsame.trans hthread)
  | pending hleads hfind hwritten hthread =>
    refine .pending (hleads.turn (List.Subset.refl _) fun hended => ?_) hfind hwritten (hsame.trans hthread)
    by_cases hbefore : (afterTurns s id jobs schedule).HasEnded i
    · exact .inl hbefore
    · have hbeside : EndsBeside s id jobs (schedule ++ [i]) i j :=
        ⟨schedule, List.prefix_rfl, hbefore, hended, hji, _, _, hthread⟩
      exact .inr ⟨j, List.mem_append_right _ List.mem_cons_self, hbeside⟩

variable (hleads : Leads s id jobs schedule calls calls (afterTurns s id jobs schedule).store)

include hleads

/-- The call reads the transaction.  It ends if there is nothing to write, and then it comes last. -/
theorem Leads.turn_of_idle (hfind : (afterTurns s id jobs schedule).store.transactions.find? id = some tx)
    (hthread : (afterTurns s id jobs schedule).threads i = ((jobs i).operation id).run) :
    LeadsToStore s id jobs (schedule ++ [i]) ∧ Progress s id jobs (schedule ++ [i]) i := by
  obtain ⟨hstore, hafter⟩ := Pool.turn_of_idle hthread hfind
  unfold LeadsToStore
  rw [hstore]
  rcases hwritten : (jobs i).written tx with failure | _ | tx' <;> rw [hwritten] at hafter
  · have hgoing : ¬(afterTurns s id jobs (schedule ++ [i])).HasEnded i := by
      rw [hasEnded_iff, hafter]
      exact nofun
    exact ⟨⟨calls, hleads.turn (List.Subset.refl _) fun hended => absurd hended hgoing⟩, .done _ hafter⟩
  · have hnot : ¬(afterTurns s id jobs schedule).HasEnded i := by
      obtain ⟨next, hask, -⟩ := (jobs i).run_operation id
      rw [hasEnded_iff, hthread, hask]
      exact nofun
    have hcall : (afterTurns s id jobs schedule).store.perform ((jobs i).operation id) =
        (.ok (), (afterTurns s id jobs schedule).store) := by
      rw [Store.perform_accountCall hfind, hwritten]
    exact ⟨⟨calls ++ [i], hleads.snoc (List.subset_append_left ..) hnot (hasEnded_iff.mpr hafter) hcall⟩,
      .done _ hafter⟩
  · have hgoing : ¬(afterTurns s id jobs (schedule ++ [i])).HasEnded i := by
      rw [hasEnded_iff, hafter]
      exact nofun
    refine ⟨⟨calls, hleads.turn (List.Subset.refl _) fun hended => absurd hended hgoing⟩, ?_⟩
    exact .pending (hleads.turn (List.subset_append_left ..) fun hended => absurd hended hgoing) hfind hwritten hafter

/-- The call writes.  The store is what it has read led to, and the call comes last; whatever ended beside it is lost. -/
theorem Leads.turn_of_pending (hfind : s.transactions.find? id = some tx) {calls₁ : List (Fin n)} {tx₁ tx' : Transaction}
    (hread : Leads s id jobs schedule (calls₁ ++ [i]) calls₁ s₁) (hfind₁ : s₁.transactions.find? id = some tx₁)
    (hwritten : (jobs i).written tx₁ = .ok (some tx'))
    (hthread : (afterTurns s id jobs schedule).threads i = AccountCall.afterReading (.ok (some tx'))) :
    LeadsToStore s id jobs (schedule ++ [i]) ∧ Progress s id jobs (schedule ++ [i]) i := by
  obtain ⟨t, ht, hstore⟩ := Store.perform_serial_eq_put hfind hleads.serial
  obtain ⟨t₁, ht₁, rfl⟩ := Store.perform_serial_eq_put hfind hread.serial
  have hid : tx'.id = id := (AccountCall.id_of_written hwritten).trans (Table.find?_eq_some_iff.mp hfind₁).2
  have hstored : t ∈ (afterTurns s id jobs schedule).store.transactions := by
    rw [hstore]
    exact Table.mem_put.mpr (.inl rfl)
  obtain ⟨hwrites, hafter⟩ := Pool.turn_of_pending hthread hstored (hid.trans ht.symm)
  -- neither what was stored nor what was read matters any more
  have hkey : Keyed.id t = Keyed.id tx' := ht.trans hid.symm
  have hkey₁ : Keyed.id t₁ = Keyed.id tx' := ht₁.trans hid.symm
  have hcall : { s with transactions := s.transactions.put t₁ }.perform ((jobs i).operation id) =
      (.ok (), (afterTurns s id jobs (schedule ++ [i])).store) := by
    rw [Store.perform_accountCall hfind₁, hwritten, hwrites, hstore]
    simp only [Table.put_put hkey, Table.put_put hkey₁]
  have hnot : ¬(afterTurns s id jobs schedule).HasEnded i := by
    rw [hasEnded_iff, hthread]
    exact nofun
  exact ⟨⟨calls₁ ++ [i], hread.snoc (List.Subset.refl _) hnot (hasEnded_iff.mpr hafter) hcall⟩, .done _ hafter⟩

end Turn

/-! ## The whole run -/

/-- After every schedule some calls lead to the store. -/
theorem leadsToStore (hfind : s.transactions.find? id = some tx) (jobs : Fin n → AccountCall) (schedule : List (Fin n)) :
    LeadsToStore s id jobs schedule ∧ ∀ j, Progress s id jobs schedule j := by
  induction schedule using List.reverseRecOn with
  | nil =>
    refine ⟨⟨[], List.nodup_nil, fun i hi => absurd hi List.not_mem_nil, rfl, fun i hended => ?_⟩, fun j => .idle rfl⟩
    obtain ⟨next, hask, -⟩ := (jobs i).run_operation id
    have hthread : ((jobs i).operation id).run = .done (.ok ()) := hasEnded_iff.mp hended
    rw [hask] at hthread
    cases hthread
  | append_singleton schedule i ih =>
    obtain ⟨⟨calls, hleads⟩, hprogress⟩ := ih
    obtain ⟨t, ht, hstore⟩ := Store.perform_serial_eq_put hfind hleads.serial
    have hstored : (afterTurns s id jobs schedule).store.transactions.find? id = some t := by
      rw [hstore]
      exact Table.find?_put ht
    have hturn : LeadsToStore s id jobs (schedule ++ [i]) ∧ Progress s id jobs (schedule ++ [i]) i := by
      cases hprogress i with
      | idle hthread => exact hleads.turn_of_idle hstored hthread
      | pending hread hfind₁ hwritten hthread => exact hleads.turn_of_pending hfind hread hfind₁ hwritten hthread
      | done result hthread =>
        have hsame : afterTurns s id jobs (schedule ++ [i]) = afterTurns s id jobs schedule := by
          rw [afterTurns_append, step_of_done hthread]
        refine ⟨⟨calls, ?_⟩, .done result (by rw [hsame, hthread])⟩
        have hkept := hleads.turn (List.Subset.refl _) fun hended : (afterTurns s id jobs (schedule ++ [i])).HasEnded i =>
          .inl (hsame ▸ hended)
        rwa [← hsame] at hkept
    refine ⟨hturn.1, fun j => ?_⟩
    rcases eq_or_ne j i with rfl | hji
    · exact hturn.2
    · exact (hprogress j).turn hji

/-- Whatever the schedule is, the store is that of some of the ended calls one after the other, each of them once, and
every other call has ended while one of these was about to write.  The account is released if one of them releases it,
and it keeps its sum if it is in whole minor units: what each of them moved awaits payment. -/
theorem afterTurns_serial (hfind : s.transactions.find? id = some tx) (hkind : tx.kind = .encumbrance)
    (jobs : Fin n → AccountCall) (schedule : List (Fin n)) :
    let last := afterTurns s id jobs schedule
    ∃ kept : List (Fin n), kept.Nodup ∧ (∀ i ∈ kept, last.result? i = some (.ok ())) ∧
      (∀ i, last.result? i = some (.ok ()) → i ∈ kept ∨ ∃ j ∈ kept, EndsBeside s id jobs schedule i j) ∧
      s.perform (AccountCall.serial id (kept.map jobs)) = (.ok (), last.store) ∧
      ∃ e, last.store.HasAccount id tx.currency e ∧ ((∃ i ∈ kept, jobs i = .release) → e.status = .released) ∧
        (tx.account.IsWhole tx.currency → tx.account.HasRoomFor tx.currency (List.ofFn jobs) →
          tx.account.SumKept tx.currency (kept.map jobs) e) := by
  intro last
  obtain ⟨⟨kept, hleads⟩, -⟩ := leadsToStore hfind jobs schedule
  refine ⟨kept, hleads.nodup, hleads.ended, fun i hi => ?_, hleads.serial, ?_⟩
  · by_cases hmem : i ∈ kept
    · exact .inl hmem
    · exact .inr (hleads.lost i hi hmem)
  have haccount : s.HasAccount id tx.currency tx.account := ⟨tx, hfind, hkind, rfl, rfl⟩
  rcases haccount.perform_serial (kept.map jobs) with ⟨o, -, hperform⟩ | ⟨e, s', happlied, hperform, haccount'⟩
  · rw [hleads.serial] at hperform
    cases hperform
  obtain rfl : last.store = s' := congrArg Prod.snd (hleads.serial.symm.trans hperform)
  refine ⟨e, haccount', ?_, fun hwhole room => ?_⟩
  · rintro ⟨i, hi, hrelease⟩
    exact AccountCall.status_appliedAll happlied (.inl (hrelease ▸ List.mem_map_of_mem hi))
  · have hsome : (kept.map jobs).Subperm (List.ofFn jobs) := by
      obtain ⟨l, hperm, hsub⟩ := List.subperm_of_subset hleads.nodup fun i _ => List.mem_finRange i
      rw [List.ofFn_eq_map]
      exact ⟨l.map jobs, hperm.map jobs, hsub.map jobs⟩
    obtain ⟨e', happlied', hkept⟩ := hwhole.sumKept (room.of_subperm hsome)
    rwa [Except.ok.inj (happlied.symm.trans happlied')]

/-! ## An amount that is lost -/

/-- Thirty dollars and twenty dollars are moved at once. -/
def twoMoves : Fin 2 → AccountCall
  | 0 => .moveToAwaitingPayment 30.00
  | 1 => .moveToAwaitingPayment 20.00

/-- A ledger with a reservation of eighty dollars that are spent. -/
def spentLedger : Store := (Store.twoFunds.perform (.createTransaction (Store.spentReservation 0.00))).2

/-- The call that begins first writes last. -/
theorem afterTurns_serial_twoMoves :
    let last := afterTurns spentLedger 24 twoMoves [1, 0, 0, 1]
    ∃ kept : List (Fin 2), kept.Nodup ∧ (∀ i ∈ kept, last.result? i = some (.ok ())) ∧
      (∀ i, last.result? i = some (.ok ()) → i ∈ kept ∨
        ∃ j ∈ kept, EndsBeside spentLedger 24 twoMoves [1, 0, 0, 1] i j) ∧
      spentLedger.perform (AccountCall.serial 24 (kept.map twoMoves)) = (.ok (), last.store) ∧
      ∃ e, last.store.HasAccount 24 .usd e ∧ (Store.spentReservation 0.00).account.SumKept .usd (kept.map twoMoves) e := by
  intro last
  have hfind : spentLedger.transactions.find? 24 = some (Store.spentReservation 0.00) := by decide +kernel
  have hwhole : (Store.spentReservation 0.00).account.IsWhole .usd :=
    ⟨⟨0, show _ = _ by decide⟩, 8000, show _ = _ by decide⟩
  have room : (Store.spentReservation 0.00).account.HasRoomFor .usd (List.ofFn twoMoves) := by
    unfold Encumbrance.HasRoomFor
    decide
  obtain ⟨kept, hnodup, hended, hlost, hserial, e, haccount, -, hkept⟩ :=
    afterTurns_serial hfind rfl twoMoves [1, 0, 0, 1]
  exact ⟨kept, hnodup, hended, hlost, hserial, e, haccount, hkept hwhole room⟩

/-- The thirty dollars are moved while the twenty are about to be, and are lost when these are written. -/
theorem afterTurns_loses_thirty :
    let last := afterTurns spentLedger 24 twoMoves [1, 0, 0, 1]
    (∀ i, last.result? i = some (.ok ())) ∧
      ¬∃ order : List (Fin 2), order.Perm [0, 1] ∧ ∃ s' e e',
        spentLedger.perform (AccountCall.serial 24 (order.map twoMoves)) = (.ok (), s') ∧ s'.HasAccount 24 .usd e ∧
          last.store.HasAccount 24 .usd e' ∧ e.awaitingPayment ≈ e'.awaitingPayment := by
  intro last
  have hlast : (last.store.transactions.find? 24).map (·.account) = some ⟨80.00, 20.00, 60.00, .unreleased⟩ := by
    decide +kernel
  have hserial : ∀ order ∈ [[0, 1], [1, 0]],
      ((spentLedger.perform (AccountCall.serial 24 (order.map twoMoves))).2.transactions.find? 24).map (·.account) =
        some ⟨80.00, 50.00, 30.00, .unreleased⟩ := by
    decide +kernel
  have haccount : ∀ {s : Store} {e : Encumbrance}, s.HasAccount 24 .usd e →
      (s.transactions.find? 24).map (·.account) = some e := by
    rintro s e ⟨tx, hfind, -, -, rfl⟩
    rw [hfind]
    rfl
  refine ⟨by decide +kernel, ?_⟩
  rintro ⟨order, horder, s', e, e', hok, he, he', hequiv⟩
  have hsum := hserial order (by simpa using List.perm_pair.mp horder)
  rw [hok, haccount he] at hsum
  rw [haccount he'] at hlast
  obtain rfl := Option.some.inj hsum
  obtain rfl := Option.some.inj hlast
  revert hequiv
  decide

end Pool

end FundLedger
