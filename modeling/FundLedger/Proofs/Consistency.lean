import FundLedger.Proofs.Recompute
import FundLedger.Proofs.Queries
/-!
# Consistent stores

A store is consistent when every fund has at most one budget for a fiscal year, the transactions of a budget are in
its currency, and the totals of every budget are those that are recomputed from all stored transactions.  That records
are kept under their own identifiers is part of what a table is.

* `Store.Consistent`.
* `Store.Consistent.putBudget`, `Store.Consistent.eraseBudget`: one budget written or deleted.
* `Store.Consistent.putBare`: a transaction whose account of reserved money changed.
-/

namespace FundLedger

/-! ## Tables -/

namespace Table

variable {ρ : Type} {kind : IdKind} [Keyed ρ kind] {t : Table ρ} {r a : ρ}

instance [DecidableEq ρ] (r : ρ) (t : Table ρ) : Decidable (r ∈ t) := inferInstanceAs (Decidable (r ∈ t.records))

theorem nodup_records (t : Table ρ) : t.records.Nodup := t.nodup_ids.of_map

/-- A table has the records of a list without repeats when it has the same members. -/
theorem perm_of_mem_iff {rs : List ρ} (hrs : rs.Nodup) (h : ∀ r, r ∈ t ↔ r ∈ rs) : t.records.Perm rs :=
  (List.perm_ext_iff_of_nodup t.nodup_records hrs).mpr h

/-- A record with a new identifier is one more. -/
theorem put_perm_of_fresh (h : t.find? (Keyed.id r) = none) : (t.put r).records.Perm (r :: t.records) := by
  have hfresh := find?_eq_none_iff.mp h
  have hnot : r ∉ t.records := fun hr => hfresh r hr rfl
  refine perm_of_mem_iff (List.nodup_cons.mpr ⟨hnot, t.nodup_records⟩) fun a => ?_
  rw [mem_put, List.mem_cons]
  exact or_congr_right ⟨And.left, fun ha => ⟨ha, hfresh a ha⟩⟩

/-- A stored record, and those with other identifiers. -/
theorem perm_cons_others (h : a ∈ t) :
    t.records.Perm (a :: t.records.filter fun x => Keyed.id x != Keyed.id a) := by
  have hnot : a ∉ t.records.filter fun x => Keyed.id x != Keyed.id a := by simp
  refine perm_of_mem_iff (List.nodup_cons.mpr ⟨hnot, t.nodup_records.filter _⟩) fun x => ?_
  rw [List.mem_cons, List.mem_filter, bne_iff_ne]
  constructor
  · intro hx
    by_cases hid : Keyed.id x = Keyed.id a
    · exact .inl (eq_of_id_eq hx h hid)
    · exact .inr ⟨hx, hid⟩
  · rintro (rfl | ⟨hx, -⟩)
    · exact h
    · exact hx

/-- A table with a new record has the same records as before among those that the new one is not one of. -/
theorem filter_put (hfresh : t.find? (Keyed.id r) = none) {q : ρ → Bool} (hq : q r = false) :
    (t.put r).records.filter q = t.records.filter q := by
  have hne : ∀ a ∈ t.records, Keyed.id a ≠ Keyed.id r := find?_eq_none_iff.mp hfresh
  change (insert r t.records).filter q = t.records.filter q
  generalize t.records = rs at hne ⊢
  induction rs with
  | nil =>
    unfold insert
    rw [List.filter_cons_of_neg (by simp [hq])]
  | cons a rest ih =>
    obtain ⟨ha, hrest⟩ := List.forall_mem_cons.mp hne
    unfold insert
    split
    · rw [List.filter_cons_of_neg (by simp [hq])]
    · rw [if_neg (Ne.symm ha), List.filter_cons, List.filter_cons, ih hrest]

/-- Tables are equal when they hold the same records: both ascend. -/
theorem ext_of_mem_iff {t' : Table ρ} (h : ∀ r, r ∈ t ↔ r ∈ t') : t = t' := by
  have hperm : t.records.Perm t'.records := perm_of_mem_iff t'.nodup_records h
  refine ext (hperm.eq_of_pairwise (fun x y _ _ hxy hyx => ?_) t.ascending t'.ascending)
  exact absurd (RecordId.lt_trans hxy hyx) (RecordId.lt_irrefl _)

theorem find?_put {id : RecordId kind} (hid : Keyed.id r = id) : (t.put r).find? id = some r :=
  find?_eq_some_iff.mpr ⟨mem_put.mpr (.inl rfl), hid⟩

theorem put_of_mem (ha : a ∈ t) : t.put a = t := by
  refine ext_of_mem_iff fun x => mem_put.trans ⟨?_, fun hx => ?_⟩
  · rintro (rfl | ⟨hx, -⟩)
    · exact ha
    · exact hx
  · by_cases hid : Keyed.id x = Keyed.id a
    · exact .inl (eq_of_id_eq hx ha hid)
    · exact .inr ⟨hx, hid⟩

/-- Of two records put in under one identifier the last one counts. -/
theorem put_put (hid : Keyed.id a = Keyed.id r) : (t.put a).put r = t.put r := by
  refine ext_of_mem_iff fun x => ?_
  rw [mem_put, mem_put, mem_put]
  refine or_congr_right ⟨?_, fun ⟨hx, hne⟩ => ⟨.inr ⟨hx, hid ▸ hne⟩, hne⟩⟩
  rintro ⟨rfl | ⟨hx, -⟩, hne⟩
  · exact absurd hid hne
  · exact ⟨hx, hne⟩

/-- A record put in place of a stored one. -/
theorem put_eq_map [DecidableEq ρ] (ha : a ∈ t) (hid : Keyed.id r = Keyed.id a) :
    (t.put r).records = t.records.map fun x => if x = a then r else x := by
  have hother : ∀ x ∈ t, x ≠ a → Keyed.id x ≠ Keyed.id r := fun x hx hne hxid =>
    hne (eq_of_id_eq hx ha (hxid.trans hid))
  have hkeys : ∀ x, Keyed.id (if x = a then r else x) = Keyed.id x := by
    intro x
    split
    · rename_i hxa
      rw [hid, hxa]
    · rfl
  have hascending : (t.records.map fun x => if x = a then r else x).Pairwise fun x y => Keyed.id x < Keyed.id y := by
    refine List.pairwise_map.mpr (t.ascending.imp fun hlt => ?_)
    rw [hkeys, hkeys]
    exact hlt
  have hput : t.put r = ⟨t.records.map fun x => if x = a then r else x, hascending⟩ := by
    refine ext_of_mem_iff fun x => ?_
    rw [mem_put, mem_def (t := ⟨_, hascending⟩), List.mem_map]
    constructor
    · rintro (rfl | ⟨hx, hne⟩)
      · exact ⟨a, ha, if_pos rfl⟩
      · refine ⟨x, hx, if_neg ?_⟩
        rintro rfl
        exact hne hid.symm
    · rintro ⟨y, hy, rfl⟩
      by_cases hya : y = a
      · exact .inl (if_pos hya)
      · rw [if_neg hya]
        exact .inr ⟨hy, hother y hy hya⟩
  rw [hput]

end Table

/-! ## Consistency -/

namespace Store

variable {s : Store} {b b' : Budget} {tx tx' : Transaction}

/-- Every fund has at most one budget for a fiscal year. -/
def OneBudget (s : Store) : Prop :=
  ∀ b ∈ s.budgets, ∀ b' ∈ s.budgets, b.fund = b'.fund → b.fiscalYear = b'.fiscalYear → b = b'

/-- Every budget of the store is the only one of its fund and year, has the currency of its transactions, and keeps
the totals that are recomputed from them. -/
structure Consistent (s : Store) : Prop where
  oneBudget : ∀ b ∈ s.budgets, ∀ b' ∈ s.budgets, b.fund = b'.fund → b.fiscalYear = b'.fiscalYear → b = b'
  currency : ∀ b ∈ s.budgets, ∀ tx ∈ s.transactions, b.covers tx = true → tx.currency = b.currency
  totals : ∀ b ∈ s.budgets, b.Reflects s.transactions.records

/-- The magnitudes of all stored amounts together, in minor units. -/
def volume (s : Store) : Nat := FundLedger.volume s.transactions.records

theorem Consistent.countable (h : s.Consistent) (small : s.volume < 2 ^ 94) (hb : b ∈ s.budgets) :
    b.Countable s.transactions.records where
  currency := fun tx htx => h.currency b hb tx (List.mem_of_mem_filter htx) (List.mem_filter.mp htx).2
  ids := s.transactions.nodup_ids
  small := small

theorem Consistent.holds (h : s.Consistent) (small : s.volume < 2 ^ 94) (hb : b ∈ s.budgets) :
    b.Holds (b.tally s.transactions.records) := (Budget.reflects_iff (h.countable small hb)).mp (h.totals b hb)

/-- Different budgets of one year have different funds. -/
theorem OneBudget.nodup_funds (h : s.OneBudget) {bs : List Budget} {fiscalYear : FiscalYearId} (hnodup : bs.Nodup)
    (hstored : ∀ b ∈ bs, b ∈ s.budgets) (hyear : ∀ b ∈ bs, b.fiscalYear = fiscalYear) : (bs.map (·.fund)).Nodup :=
  hnodup.map_on fun b hb b' hb' hfund =>
    h b (hstored b hb) b' (hstored b' hb') hfund ((hyear b hb).trans (hyear b' hb').symm)

/-- A store without transactions, with empty budgets. -/
theorem consistent_of_no_transactions (hnone : s.transactions.records = [])
    (hone : ∀ b ∈ s.budgets, ∀ b' ∈ s.budgets, b.fund = b'.fund → b.fiscalYear = b'.fiscalYear → b = b')
    (hzero : ∀ b ∈ s.budgets, b.totals ≈ Totals.zero) : s.Consistent where
  oneBudget := hone
  currency := by
    intro b _ tx htx
    rw [Table.mem_def, hnone] at htx
    cases htx
  totals := by
    intro b hb
    have hcount : b.Countable [] := ⟨fun t ht => absurd ht List.not_mem_nil, List.nodup_nil, by decide⟩
    rw [hnone, Budget.reflects_iff hcount]
    exact (Totals.counts_zero _).of_equiv (hzero b hb)

/-- A budget written in place of one of the same fund, year and currency. -/
theorem Consistent.putBudget (h : s.Consistent) (hb : b ∈ s.budgets) (hid : b'.id = b.id) (hfund : b'.fund = b.fund)
    (hyear : b'.fiscalYear = b.fiscalYear) (hcurrency : b'.currency = b.currency)
    (hreflects : b'.Reflects s.transactions.records) : { s with budgets := s.budgets.put b' }.Consistent := by
  have hmem : ∀ {c : Budget}, c ∈ s.budgets.put b' → c = b' ∨ c ∈ s.budgets ∧ c ≠ b := by
    intro c hc
    rcases Table.mem_put.mp hc with rfl | ⟨hc, hne⟩
    · exact .inl rfl
    · refine .inr ⟨hc, ?_⟩
      rintro rfl
      exact hne hid.symm
  constructor
  · intro c hc c' hc' hf hy
    rcases hmem hc with rfl | ⟨hold, hne⟩ <;> rcases hmem hc' with rfl | ⟨hold', hne'⟩
    · rfl
    · exact absurd (h.oneBudget c' hold' b hb (hf.symm.trans hfund) (hy.symm.trans hyear)) hne'
    · exact absurd (h.oneBudget c hold b hb (hf.trans hfund) (hy.trans hyear)) hne
    · exact h.oneBudget c hold c' hold' hf hy
  · intro c hc tx htx hcovers
    rcases hmem hc with rfl | ⟨hc, -⟩
    · rw [hcurrency]
      refine h.currency b hb tx htx ?_
      unfold Budget.covers at hcovers ⊢
      rwa [← hyear, ← hfund]
    · exact h.currency c hc tx htx hcovers
  · intro c hc
    rcases hmem hc with rfl | ⟨hc, -⟩
    · exact hreflects
    · exact h.totals c hc

/-- Fewer budgets. -/
theorem Consistent.eraseBudget (h : s.Consistent) (id : BudgetId) :
    { s with budgets := s.budgets.erase id }.Consistent where
  oneBudget := fun b hb b' hb' => h.oneBudget b (Table.mem_erase.mp hb).1 b' (Table.mem_erase.mp hb').1
  currency := fun b hb => h.currency b (Table.mem_erase.mp hb).1
  totals := fun b hb => h.totals b (Table.mem_erase.mp hb).1

/-- Other records do not matter. -/
theorem Consistent.of_eq {s' : Store} (h : s.Consistent) (hb : s'.budgets = s.budgets)
    (ht : s'.transactions = s.transactions) : s'.Consistent where
  oneBudget := hb ▸ h.oneBudget
  currency := by
    rw [hb, ht]
    exact h.currency
  totals := by
    rw [hb, ht]
    exact h.totals

/-- A transaction written with another account of reserved money changes that account only. -/
theorem exists_perm_putBare (htx : tx ∈ s.transactions) (hbare : tx'.bare = tx.bare) :
    ∃ f : Transaction → Transaction, (∀ t, (f t).bare = t.bare) ∧
      (s.transactions.put tx').records.Perm (s.transactions.records.map f) := by
  have hid : tx'.id = tx.id := Transaction.eq_of_bare_eq Transaction.id (fun _ => rfl) hbare
  refine ⟨fun t => if t = tx then tx' else t, fun t => ?_, List.Perm.of_eq (Table.put_eq_map htx hid)⟩
  by_cases ht : t = tx
  · simp only [ht, if_true, hbare]
  · simp only [if_neg ht]

theorem volume_putBare (htx : tx ∈ s.transactions) (hbare : tx'.bare = tx.bare) :
    { s with transactions := s.transactions.put tx' }.volume = s.volume := by
  obtain ⟨f, hf, hperm⟩ := exists_perm_putBare htx hbare
  exact (volume_perm hperm).trans (volume_map_of_bare hf _)

/-- What becomes of reserved money does not matter. -/
theorem Consistent.putBare (h : s.Consistent) (small : s.volume < 2 ^ 94) (htx : tx ∈ s.transactions)
    (hbare : tx'.bare = tx.bare) : { s with transactions := s.transactions.put tx' }.Consistent := by
  obtain ⟨f, hf, hperm⟩ := exists_perm_putBare htx hbare
  have hcounts := fun b hb => h.countable (b := b) small hb
  constructor
  · exact h.oneBudget
  · intro b hb t ht hcovers
    obtain ⟨u, hu, rfl⟩ := List.mem_map.mp (hperm.mem_iff.mp ht)
    rw [Transaction.eq_of_bare_eq b.covers (fun _ => rfl) (hf u)] at hcovers
    rw [Transaction.eq_of_bare_eq Transaction.currency (fun _ => rfl) (hf u)]
    exact h.currency b hb u hu hcovers
  · intro b hb
    have hreflects := (h.totals b hb).map_of_bare hf (hcounts b hb)
    exact hreflects.perm ((hcounts b hb).map_of_bare hf) hperm.symm

end Store

end FundLedger
