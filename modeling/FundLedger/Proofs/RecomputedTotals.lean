import FundLedger.Proofs.Recompute
import FundLedger.Proofs.WrittenTotals
/-!
# Recomputed totals satisfy their formulas

Every amount is rounded before it is added, so the recomputed sums are whole numbers of minor units, and so is what is
derived from them.  Neither another derivation nor another rounding changes them.

* `Totals.Counts.refresh`, `Totals.Counts.rounded_equiv`: totals in whole minor units, derived or rounded once more.
* `Totals.Counts.over_nonneg`: nothing is overspent by less than nothing.
* `Budget.recompute_coherent`: the totals from any transactions.
-/

namespace FundLedger

namespace Totals

variable {p : Nat} {c : Currency} {t : Totals Decimal} {m : Sums Int}

/-- Totals that are derived from their sums already are derived from them once more. -/
theorem Counts.refresh (hp : p ≤ 28) (h : t.Counts p m.derived) (small : m.norm < mantissaLimit) :
    ∃ t', t.refresh = .ok t' ∧ t' ≈ t := by
  obtain ⟨t', hderive, hcounts⟩ := Sums.Counts.derive hp h.sums small
  exact ⟨t', hderive, (Counts.equiv_iff hcounts h).mpr rfl⟩

/-- Whole minor units are rounded once more. -/
theorem Counts.rounded_equiv {m : Totals Int} (h : t.Counts c.minorUnits m) : t.rounded c ≈ t :=
  (Counts.equiv_iff h.rounded h).mpr rfl

theorem Counts.over_nonneg (h : t.Counts p m.derived) : .zero ≤ t.overEncumbrance ∧ .zero ≤ t.overExpended := by
  have hunit := (Decimal.minorUnit_pos p).le
  have hnonneg : ∀ {d : Decimal} {x : Int}, d.Counts p (max x 0) → .zero ≤ d := by
    intro d x hd
    rw [Decimal.le_iff, Decimal.units_zero, hd]
    exact mul_nonneg (le_max_right x 0) hunit
  exact ⟨hnonneg h.overEncumbrance, hnonneg h.overExpended⟩

/-- Two of the formulas, between the amounts as they are kept. -/
theorem Coherent.available_add_unavailable (h : t.Coherent) :
    t.available.units + t.unavailable.units = t.totalFunding.units ∧
      t.totalFunding.units = t.allocated.units + t.netTransfers.units := by
  have havailable : t.totalFunding.units - t.unavailable.units = t.available.units := congrArg Totals.available h
  have hfunding : t.allocated.units + t.netTransfers.units = t.totalFunding.units := congrArg Totals.totalFunding h
  omega

end Totals

namespace Budget

/-- The totals that are recomputed from any transactions, when those of the budget are in its currency and have room for
their sums: they count the tally, neither another derivation nor another rounding changes them, and so all formulas hold
between the rounded amounts. -/
theorem recompute_coherent {b : Budget} {txs : List Transaction} (hcurrency : ∀ t ∈ b.scope txs, t.currency = b.currency)
    (small : volume (b.scope txs) < 2 ^ 94) :
    ∃ t, b.recompute txs = .ok t ∧ t.Counts b.currency.minorUnits (b.tally txs).derived ∧
      (∃ t', t.refresh = .ok t' ∧ t' ≈ t) ∧ t.rounded b.currency ≈ t ∧ t.Coherent ∧
      t.available.units + t.unavailable.units = t.totalFunding.units ∧
      t.totalFunding.units = t.allocated.units + t.netTransfers.units ∧
      .zero ≤ t.overEncumbrance ∧ .zero ≤ t.overExpended := by
  obtain ⟨t, hrecompute, hcounts⟩ := recompute_counts_of_scope hcurrency small
  have hnorm : (b.tally txs).norm ≤ 2 * volume (b.scope txs) := norm_tally_le b.fund (b.scope txs)
  have hrefresh := hcounts.refresh b.currency.minorUnits_le (by
    unfold mantissaLimit
    omega)
  have hcoherent : t.Coherent := hcounts.coherent_iff.mpr rfl
  obtain ⟨havailable, hfunding⟩ := hcoherent.available_add_unavailable
  exact ⟨t, hrecompute, hcounts, hrefresh, hcounts.rounded_equiv, hcoherent, havailable, hfunding, hcounts.over_nonneg⟩

/-- Dinars with too many places: an allocation received and a larger one sent, both under one identifier, one sent to the
fund itself, and a payment, a reservation and one of another year, in another currency. -/
def dinars : List Transaction :=
  let dated (kind : TransactionKind) (amount : Decimal) := Transaction.create 21 kind amount .kwd 9 ⟨0, 0⟩
  [{ dated .allocation 1.0005 with toFund := some 1 }, { dated .allocation 7.00251 with fromFund := some 1 },
    { dated .transfer 3.0004999 with fromFund := some 1, toFund := some 1 },
    { dated .payment 0.0015 with toFund := some 1 }, { dated .encumbrance 2.5 with fromFund := some 1 },
    { Transaction.create 22 .credit 0.4 .jpy 8 ⟨0, 0⟩ with toFund := some 1 }]

theorem recompute_coherent_dinars :
    let b := Budget.create 11 "books" 1 9 .kwd
    (∀ t ∈ b.scope dinars, t.currency = b.currency) ∧ volume (b.scope dinars) < 2 ^ 94 ∧
      ∃ t, b.recompute dinars = .ok t ∧ t.Coherent ∧ t.totalFunding = -6.003 ∧ t.overExpended = 0.002 := by
  intro b
  have hcurrency : ∀ t ∈ b.scope dinars, t.currency = b.currency := by decide
  have small : volume (b.scope dinars) < 2 ^ 94 := by decide +kernel
  obtain ⟨t, hrecompute, -, -, -, hcoherent, -⟩ := recompute_coherent hcurrency small
  have hamounts : (b.recompute dinars).toOption.map (fun t => (t.totalFunding, t.overExpended)) =
      some (-6.003, 0.002) := by decide +kernel
  rw [hrecompute] at hamounts
  obtain ⟨hfunding, hspent⟩ := Prod.mk.inj (Option.some.inj hamounts)
  exact ⟨hcurrency, small, t, hrecompute, hcoherent, hfunding, hspent⟩

end Budget

end FundLedger
