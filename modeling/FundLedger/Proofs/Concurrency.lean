import FundLedger.Proofs.Runs
import FundLedger.Proofs.SoundPool
/-!
# Concurrent recording and recalculation

Operations that record transactions or recalculate budgets take turns on one store.  When all of them end well, the
budgets are as if the operations had come one after the other: of two operations that had read a budget before either
wrote it, only one can write it.

* `Pool.Serial`: the invariant of all schedules.
* `Pool.run_counts_each_once`: the whole run.
-/

namespace FundLedger

namespace Pool

variable {n : Nat} {s s₀ : Store} {jobs : Fin n → Job} {stages : Fin n → Stage} {log : List Event}

/-- The operations are in some stages, and nothing has gone wrong unless the pool is doomed. -/
def Serial (s₀ : Store) (jobs : Fin n → Job) (p : Pool n) : Prop :=
  ∃ stages, p.Tracks jobs stages ∧ (p.Doomed stages ∨ Sound s₀ p.store p.log stages)

theorem Serial.step {p : Pool n} (h : Serial s₀ jobs p) (hready : Ready s₀ jobs) (hfew : ∀ id, p.writes id < 2 ^ 64)
    (i : Fin n) : Serial s₀ jobs (p.step i) := by
  obtain ⟨stages, htracks, hstate⟩ := h
  rcases htracks.step i with hsame | ⟨htracks', hdoomed⟩ | ⟨r, next, a, stage', hthread, hanswer, hmove, htracks'⟩
  · rw [hsame]
    exact ⟨stages, htracks, hstate⟩
  · exact ⟨stages, htracks', .inl hdoomed⟩
  · refine ⟨_, htracks', ?_⟩
    rcases hstate with hdoomed | hsound
    · exact .inl (hdoomed.step hfew hthread hanswer hmove)
    · have hstep := step_of_ask hthread
      rcases hsound.move hready htracks.transaction hmove rfl a with hsound' | ⟨hs, j, hji, b, hb, hbi, hbj⟩
      · right
        rw [hstep, hanswer]
        exact hsound'
      · -- two operations hold the budget that was read
        have hbehind : (p.step i).Behind b 0 := behind_of_mem (by rw [hstep, hs]; exact hb)
        refine .inl (.contended i j (Ne.symm hji) b b ?_ ?_ rfl hbehind hbehind)
        · rw [Function.update_self]
          exact hbi
        · rw [Function.update_of_ne hji]
          exact hbj

/-- No version comes round on the way when none has come round in the end. -/
theorem Serial.run {p : Pool n} (h : Serial s₀ jobs p) (hready : Ready s₀ jobs) {schedule : List (Fin n)}
    (hfew : ∀ id, (p.run schedule).writes id < 2 ^ 64) : Serial s₀ jobs (p.run schedule) := by
  induction schedule generalizing p with
  | nil => exact h
  | cons i rest ih =>
    have hnow : ∀ id, p.writes id < 2 ^ 64 := fun id => (p.writes_le_run (i :: rest) id).trans_lt (hfew id)
    exact ih (h.step hready hnow i) hfew

/-- The stored transactions are those from the beginning and those of the operations, each of them once. -/
theorem Sound.perm_created (h : Sound s₀ s log stages) (hready : Ready s₀ jobs)
    (htracks : ∀ i, (stages i).transaction? = (jobs i).transaction?) (hlast : ∀ i, (stages i).IsLast) :
    s.transactions.records.Perm (s₀.transactions.records ++ created jobs) := by
  have hcreated : (created jobs).Nodup := by
    refine List.Nodup.filterMap (fun i j tx hi hj => ?_) (List.nodup_finRange n)
    exact hready.distinct i j tx tx hi hj rfl
  have hdisjoint : s₀.transactions.records.Disjoint (created jobs) := by
    intro tx hold hnew
    obtain ⟨j, hj⟩ := mem_created.mp hnew
    exact Table.find?_eq_none_iff.mp (hready.fresh j tx hj) tx hold rfl
  refine Table.perm_of_mem_iff (s₀.transactions.nodup_records.append hcreated hdisjoint) fun tx => ?_
  rw [h.transactions, List.mem_append, mem_created]
  have hstored : ∀ j, (stages j).stored? = (jobs j).transaction? := fun j => (hlast j).2.trans (htracks j)
  simp only [hstored]
  rfl

/-- Operations on a consistent store that all end well, whatever their schedule, leave a consistent store in which every
new transaction is recorded once.  The version of every budget has grown by the number of its writes, and its initial
allocation is the earliest one that its fund received.  Versions are words, and `2 ^ 64` writes of a budget would lead
back to the version that an operation has read long ago, so there are fewer. -/
theorem run_counts_each_once (hready : Ready s jobs) (schedule : List (Fin n))
    (hfew : ∀ id, ((start s jobs).run schedule).writes id < 2 ^ 64)
    (hok : ∀ i, ((start s jobs).run schedule).result? i = some (.ok ())) :
    let last := (start s jobs).run schedule
    last.store.Consistent ∧ last.store.transactions.records.Perm (s.transactions.records ++ created jobs) ∧
      (∀ b ∈ s.budgets, ∃ totals,
        { b with totals, version := b.version + .ofNat (last.writes b.id) } ∈ last.store.budgets) ∧
      (∀ c ∈ last.store.budgets, ∃ b ∈ s.budgets, c.id = b.id) ∧
      ∀ c ∈ last.store.budgets,
        ∀ first ∈ receivedAllocations c.fund (c.scope last.store.transactions.records),
          (∀ tx ∈ receivedAllocations c.fund (c.scope last.store.transactions.records), ¬tx.precedes first) →
            c.totals.initialAllocation ≈ first.roundedAmount := by
  intro last
  have hserial : Serial s jobs last :=
    Serial.run ⟨_, tracks_start s jobs, .inr (Sound.start hready.consistent jobs)⟩ hready hfew
  obtain ⟨stages, htracks, hstate⟩ := hserial
  have hdone : ∀ i, last.threads i = .done (.ok ()) := fun i => threads_eq_done (hok i)
  have hlast : ∀ i, (stages i).IsLast := by
    intro i
    have hfollows := htracks.follows i
    rw [hdone i] at hfollows
    exact hfollows
  rcases hstate with hdoomed | hsound
  · exact absurd (hdoomed.not_last hlast hdone) not_false
  have hreflects : ∀ c ∈ last.store.budgets, c.Reflects last.store.transactions.records := by
    refine fun c hc => hsound.totals c hc fun i hi => ?_
    have hheld := Stage.mem_held_of_mem_todo hi
    rw [(hlast i).1] at hheld
    cases hheld
  refine ⟨⟨fun b hb b' hb' => hsound.oneBudget hready.consistent hb hb', hsound.currency, hreflects⟩,
    hsound.perm_created hready htracks.transaction hlast, fun b hb => ?_, fun c hc => ?_,
    fun c hc first hfirst hmin => ?_⟩
  · obtain ⟨c, hc, hid⟩ := hsound.kept b hb
    obtain ⟨b', hb', totals, rfl⟩ := hsound.budgets c hc
    obtain rfl : b' = b := Table.eq_of_id_eq hb' hb hid
    exact ⟨totals, hc⟩
  · obtain ⟨b, hb, totals, rfl⟩ := hsound.budgets c hc
    exact ⟨b, hb, rfl⟩
  · have hcount := hsound.countable hready htracks.transaction hc
    have hids := nodup_receivedAllocations c.fund hcount.ids_scope
    exact (hreflects c hc).initialAllocation hcount ((Transaction.earliest?_eq_some_iff hids).mpr ⟨hfirst, hmin⟩)

/-- A transfer from the first fund to the second, and two allocations to the first one, the second of them backdated. -/
def threeJobs : Fin 3 → Job
  | 0 => .create Store.transferToJournals
  | 1 => .create { Transaction.create 24 .allocation 50.00 .usd 9 ⟨60, 0⟩ with toFund := some 1 }
  | 2 => .create { Transaction.create 25 .allocation 7.00 .usd 9 ⟨0, 0⟩ with toFund := some 1 }

/-- All three write the budget of the first fund.  The backdated allocation reads it when the transfer has written it and
has still to write the other one. -/
theorem run_counts_each_once_threeJobs :
    let last := (start Store.twoFunds threeJobs).run [1, 1, 1, 1, 0, 0, 0, 0, 0, 0, 2, 0, 2, 2, 2]
    (∀ i, last.result? i = some (.ok ())) ∧ last.store.Consistent ∧
      last.store.transactions.records.Perm (Store.twoFunds.transactions.records ++ created threeJobs) ∧
      last.writes 11 = 3 ∧
      last.store.budgets.records.map (fun b => (b.version, b.totals.initialAllocation)) = [(3, 7.00), (1, .zero)] := by
  intro last
  have hready : Ready Store.twoFunds threeJobs := by
    refine ⟨Store.consistent_twoFunds, fun _ _ _ => rfl, fun i j tx tx' h h' hid => ?_, by decide⟩
    have hids : ∀ i j : Fin 3,
        (threeJobs i).transaction?.map (·.id) = (threeJobs j).transaction?.map (·.id) → i = j := by
      decide
    refine hids i j ?_
    rw [h, h']
    exact congrArg some hid
  have hfew : ∀ id, last.writes id < 2 ^ 64 := fun id =>
    calc last.writes id ≤ 0 + 15 := writes_run_le (start Store.twoFunds threeJobs) _ id
      _ < 2 ^ 64 := by decide
  have hok : ∀ i, last.result? i = some (.ok ()) := by decide +kernel
  obtain ⟨hconsistent, hperm, -⟩ := run_counts_each_once hready _ hfew hok
  exact ⟨hok, hconsistent, hperm, by decide +kernel, by decide +kernel⟩

end Pool

end FundLedger
