import Mathlib.Data.List.Nodup
import Mathlib.Data.List.Perm.Basic
import FundLedger.Budget.Effect
/-!
# The earliest allocation

Transactions with different identifiers are linearly ordered in time.  So the earliest of some transactions does not
depend on the order they are listed in, and one transaction more displaces it exactly if it comes before it.

* `earliest?_eq_some_iff`: the earliest is the one that no other precedes.
* `earliest?_perm`, `earliest?_map`: it does not depend on the order, nor on what is not compared.
* `initialAllocation?_append_of_not_received`, `initialAllocation?_append`: the initial allocation after one more
  transaction.
-/

namespace FundLedger

namespace Instant

variable {a b c : Instant}

theorem lt_irrefl (a : Instant) : ¬a < a := by
  rw [lt_iff]
  omega

theorem lt_trans (h : a < b) (h' : b < c) : a < c := by
  rw [lt_iff] at h h' ⊢
  omega

theorem lt_of_not_lt_of_ne (h : ¬a < b) (hne : a ≠ b) : b < a := by
  have hne' : ¬(a.seconds = b.seconds ∧ a.nanos = b.nanos) := by
    rintro ⟨hs, hn⟩
    cases a
    cases b
    exact hne (by simp_all)
  rw [lt_iff] at h ⊢
  omega

end Instant

namespace Transaction

variable {a b c t : Transaction} {txs txs' : List Transaction}

/-! ## The order of time -/

theorem precedes_irrefl (t : Transaction) : ¬t.precedes t := by
  rintro (h | ⟨-, h⟩)
  · exact Instant.lt_irrefl _ h
  · exact RecordId.lt_irrefl _ h

theorem precedes_trans (h : a.precedes b) (h' : b.precedes c) : a.precedes c := by
  rcases h with h | ⟨hd, hi⟩
  · rcases h' with h' | ⟨hd', -⟩
    · exact .inl (Instant.lt_trans h h')
    · exact .inl (hd' ▸ h)
  · rcases h' with h' | ⟨hd', hi'⟩
    · exact .inl (hd ▸ h')
    · exact .inr ⟨hd.trans hd', RecordId.lt_trans hi hi'⟩

theorem precedes_of_not (h : ¬a.precedes b) (hne : a.id ≠ b.id) : b.precedes a := by
  unfold precedes at h ⊢
  rw [not_or, not_and] at h
  by_cases hd : a.createdDate = b.createdDate
  · exact .inr ⟨hd.symm, RecordId.lt_of_not_lt_of_ne (h.2 hd) hne⟩
  · exact .inl (Instant.lt_of_not_lt_of_ne h.1 hd)

/-! ## The earliest of some transactions -/

theorem earliest?_min (hids : (txs.map (·.id)).Nodup) (h : earliest? txs = some t) : ∀ u ∈ txs, ¬u.precedes t := by
  induction txs generalizing t with
  | nil => simp
  | cons a rest ih =>
    have hrest := (List.nodup_cons.mp hids).2
    unfold earliest? at h
    cases hf : earliest? rest with
    | none =>
      rw [hf] at h
      cases h
      obtain rfl := earliest?_eq_none_iff.mp hf
      simpa using precedes_irrefl a
    | some first =>
      simp only [hf] at h
      intro u hu
      split at h <;> cases h
      · rename_i hfa
        rcases List.mem_cons.mp hu with rfl | hu
        · exact fun hut => precedes_irrefl _ (precedes_trans hut hfa)
        · exact ih hrest hf u hu
      · rename_i hfa
        rcases List.mem_cons.mp hu with rfl | hu
        · exact precedes_irrefl _
        · intro hua
          by_cases hid : u.id = first.id
          · rw [List.inj_on_of_nodup_map hrest hu (earliest?_mem hf) hid] at hua
            exact hfa hua
          · exact hfa (precedes_trans (precedes_of_not (ih hrest hf u hu) hid) hua)

theorem earliest?_eq_some_iff (hids : (txs.map (·.id)).Nodup) :
    earliest? txs = some t ↔ t ∈ txs ∧ ∀ u ∈ txs, ¬u.precedes t := by
  constructor
  · exact fun h => ⟨earliest?_mem h, earliest?_min hids h⟩
  · rintro ⟨ht, hmin⟩
    cases he : earliest? txs with
    | none =>
      rw [earliest?_eq_none_iff.mp he] at ht
      cases ht
    | some first =>
      have hf := earliest?_mem he
      have hid : first.id = t.id := by
        by_contra hne
        exact earliest?_min hids he t ht (precedes_of_not (hmin first hf) hne)
      rw [List.inj_on_of_nodup_map hids hf ht hid]

theorem earliest?_perm (hids : (txs.map (·.id)).Nodup) (h : txs.Perm txs') : earliest? txs = earliest? txs' := by
  have hids' : (txs'.map (·.id)).Nodup := (h.map _).nodup_iff.mp hids
  apply Option.ext
  intro t
  rw [earliest?_eq_some_iff hids, earliest?_eq_some_iff hids', h.mem_iff]
  simp only [h.mem_iff]

/-- A change of what the order does not look at. -/
theorem earliest?_map {f : Transaction → Transaction} (hid : ∀ t, (f t).id = t.id)
    (hdate : ∀ t, (f t).createdDate = t.createdDate) (txs : List Transaction) :
    earliest? (txs.map f) = (earliest? txs).map f := by
  induction txs with
  | nil => rfl
  | cons a rest ih =>
    have hprec : ∀ t u, (f t).precedes (f u) ↔ t.precedes u := by
      intro t u
      unfold precedes
      rw [hid, hid, hdate, hdate]
    simp only [List.map_cons, earliest?, ih]
    cases earliest? rest with
    | none => rfl
    | some first =>
      simp only [Option.map_some, hprec]
      split <;> rfl

end Transaction

/-! ## The initial allocation of a fund -/

section InitialAllocation

open Transaction (earliest?)

variable {fund : FundId} {tx : Transaction} {txs txs' : List Transaction}

/-- Whether a fund received the transaction as an allocation. -/
def Transaction.isReceivedBy (tx : Transaction) (fund : FundId) : Bool :=
  tx.kind == .allocation && tx.hasRole fund .receiver

theorem receivedAllocations_append (fund : FundId) (txs txs' : List Transaction) :
    receivedAllocations fund (txs ++ txs') = receivedAllocations fund txs ++ receivedAllocations fund txs' :=
  List.filter_append ..

theorem receivedAllocations_cons (fund : FundId) (tx : Transaction) (txs : List Transaction) :
    receivedAllocations fund (tx :: txs) =
      if tx.isReceivedBy fund then tx :: receivedAllocations fund txs else receivedAllocations fund txs :=
  List.filter_cons

theorem nodup_receivedAllocations (fund : FundId) (hids : (txs.map (·.id)).Nodup) :
    ((receivedAllocations fund txs).map (·.id)).Nodup :=
  hids.sublist (List.filter_sublist.map _)

theorem mem_of_initialAllocation? {id : TransactionId} (h : initialAllocation? fund txs = some id) :
    ∃ t ∈ txs, t.id = id := by
  obtain ⟨t, ht, rfl⟩ := Option.map_eq_some_iff.mp h
  exact ⟨t, List.mem_of_mem_filter (Transaction.earliest?_mem ht), rfl⟩

/-- A transaction that is no allocation to the fund leaves its initial allocation alone. -/
theorem initialAllocation?_append_of_not_received (h : tx.isReceivedBy fund = false) :
    initialAllocation? fund (txs ++ [tx]) = initialAllocation? fund txs := by
  unfold initialAllocation?
  rw [receivedAllocations_append, receivedAllocations_cons, h]
  simp [receivedAllocations]

/-- An allocation to the fund becomes its initial one unless the initial one precedes it. -/
theorem earliest?_received_append (hids : ((tx :: txs).map (·.id)).Nodup) (h : tx.isReceivedBy fund = true) :
    earliest? (receivedAllocations fund (txs ++ [tx])) =
      match earliest? (receivedAllocations fund txs) with
      | none => some tx
      | some first => if first.precedes tx then some first else some tx := by
  have hperm : (receivedAllocations fund (txs ++ [tx])).Perm (tx :: receivedAllocations fund txs) := by
    rw [receivedAllocations_append, receivedAllocations_cons, h]
    exact List.perm_append_singleton tx _
  have hids' : ((receivedAllocations fund (txs ++ [tx])).map (·.id)).Nodup :=
    nodup_receivedAllocations fund (((List.perm_append_singleton tx txs).map _).nodup_iff.mpr hids)
  rw [Transaction.earliest?_perm hids' hperm]
  rfl

end InitialAllocation

end FundLedger
