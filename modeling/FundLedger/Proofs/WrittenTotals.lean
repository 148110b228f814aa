import FundLedger.Proofs.ExactTotals
import FundLedger.Proofs.Moves
import FundLedger.Proofs.NearestDecimal
import FundLedger.Proofs.Runs
/-!
# Totals that are handed in

A budget that is handed in keeps its eight sums.  The other amounts are derived from them at full precision, and each
amount is rounded on its own.  So the derived amounts are those of the rounded sums exactly if rounding commutes with the
derivation, as it does for sums in whole minor units.

* `Totals.byFormulas`, `Totals.Coherent`: totals whose derived amounts satisfy their formulas.
* `Totals.rel_byFormulas_nearest`: how far rounded amounts are from that.
* `Store.updateBudget_coherent_iff`: which totals are stored coherent.
-/

namespace FundLedger

namespace Decimal

/-! ## Rounding errors -/

/-- A rounded value is off by half a minor unit at most. -/
theorem nearest_error (p : Nat) (x : Int) :
    2 * x ≤ 2 * (nearest p x * minorUnit p) + minorUnit p ∧ 2 * (nearest p x * minorUnit p) ≤ 2 * x + minorUnit p := by
  have hunit : minorUnit p = (10 ^ (28 - p) : Nat) := rfl
  have herror := quotientHalfEven_error x.natAbs (Nat.pow_pos (by decide) : 0 < 10 ^ (28 - p))
  unfold nearest
  rw [hunit, mul_assoc, ← Int.natCast_mul]
  generalize quotientHalfEven x.natAbs (10 ^ (28 - p)) * 10 ^ (28 - p) = q at herror
  generalize 10 ^ (28 - p) = d at herror
  rcases lt_trichotomy x 0 with hx | rfl | hx
  · rw [Int.sign_eq_neg_one_of_neg hx]
    omega
  · simp
  · rw [Int.sign_eq_one_of_pos hx]
    omega

end Decimal

open Decimal (nearest minorUnit)

/-! ## The formulas -/

namespace Totals

/-- The derived amounts anew, each from the amounts that its formula names. -/
def byFormulas (t : Totals Int) : Totals Int :=
  { toSums := t.toSums
    allocated := t.initialAllocation + t.allocationTo - t.allocationFrom
    totalFunding := t.allocated + t.netTransfers
    unavailable := t.encumbered + t.awaitingPayment + t.expenditures - t.credits
    available := t.totalFunding - t.unavailable
    cashBalance := t.totalFunding - t.expenditures
    overEncumbrance := max 0 (t.encumbered - max 0 t.totalFunding)
    overExpended := max 0 (t.expenditures + t.awaitingPayment - max 0 t.totalFunding) }

/-- By value, every derived amount is what its formula gives for the other amounts. -/
def Coherent (t : Totals Decimal) : Prop := t.values.byFormulas = t.values

instance (t : Totals Decimal) : Decidable t.Coherent := inferInstanceAs (Decidable (t.values.byFormulas = t.values))

/-- The formulas hold one by one exactly if all derived amounts are those of the sums. -/
theorem byFormulas_eq_iff {t : Totals Int} : t.byFormulas = t ↔ t = t.toSums.derived := by
  obtain ⟨sums, allocated, totalFunding, unavailable, available, cashBalance, overEncumbrance, overExpended⟩ := t
  simp only [byFormulas, Sums.derived, Totals.mk.injEq, true_and, max_comm (0 : Int)]
  constructor
  · rintro ⟨rfl, rfl, rfl, rfl, rfl, rfl, rfl⟩
    simp
  · rintro ⟨rfl, rfl, rfl, rfl, rfl, rfl, rfl⟩
    simp

theorem byFormulas_map_mul (t : Totals Int) {d : Int} (hd : 0 ≤ d) :
    (t.map (· * d)).byFormulas = t.byFormulas.map (· * d) := by
  ext
  all_goals simp only [map, Sums.map, byFormulas, Int.sub_mul, Int.add_mul, max_mul_of_nonneg _ _ hd, Int.zero_mul]

theorem Counts.coherent_iff {p : Nat} {t : Totals Decimal} {m : Totals Int} (h : t.Counts p m) :
    t.Coherent ↔ m = m.toSums.derived := by
  unfold Coherent
  rw [counts_iff.mp h, byFormulas_map_mul m (Decimal.minorUnit_pos p).le,
    (map_injective (Decimal.mul_minorUnit_injective p)).eq_iff, byFormulas_eq_iff]

/-- What is derived from some sums keeps them. -/
theorem toSums_of_derive {sums : Sums Decimal} {t : Totals Decimal} (h : sums.derive = .ok t) : t.toSums = sums := by
  unfold Sums.derive at h
  iterate 11 obtain ⟨_, -, h⟩ := exists_ok_of_bind h
  cases h
  rfl

theorem coherent_iff {t : Totals Decimal} : t.Coherent ↔ t.values = (t.toSums.map Decimal.units).derived :=
  byFormulas_eq_iff

theorem derived_map_mul (m : Sums Int) {d : Int} (hd : 0 ≤ d) : (m.map (· * d)).derived = m.derived.map (· * d) := by
  have hformulas : (m.derived.map (· * d)).byFormulas = m.derived.map (· * d) := by
    rw [byFormulas_map_mul _ hd, byFormulas_eq_iff.mpr rfl]
  exact (byFormulas_eq_iff.mp hformulas).symm

theorem map_nearest_map_mul (p : Nat) (t : Totals Int) : (t.map (· * minorUnit p)).map (nearest p) = t := by
  ext <;> exact Decimal.nearest_mul_minorUnit p _

theorem counts_rounded (t : Totals Decimal) (c : Currency) :
    (t.rounded c).Counts c.minorUnits (t.values.map (nearest c.minorUnits)) :=
  have h := fun a => Decimal.counts_round a c.minorUnits_le
  ⟨⟨h _, h _, h _, h _, h _, h _, h _, h _⟩, h _, h _, h _, h _, h _, h _, h _⟩

/-- Whole numbers of minor units that differ by five halves at most differ by two. -/
theorem natAbs_sub_le_two {p : Nat} {x y : Int} (hxy : 2 * (x * minorUnit p) ≤ 2 * (y * minorUnit p) + 5 * minorUnit p)
    (hyx : 2 * (y * minorUnit p) ≤ 2 * (x * minorUnit p) + 5 * minorUnit p) : (x - y).natAbs ≤ 2 := by
  have hpos := Decimal.minorUnit_pos p
  have hle : 2 * (x - y) ≤ 5 := Int.le_of_mul_le_mul_right (by rw [Int.mul_assoc, Int.sub_mul]; omega) hpos
  have hge : 2 * (y - x) ≤ 5 := Int.le_of_mul_le_mul_right (by rw [Int.mul_assoc, Int.sub_mul]; omega) hpos
  omega

/-- Rounded one by one, derived amounts are off by two minor units at most: a formula is about five amounts at most, the
derived one among them. -/
theorem rel_byFormulas_nearest (p : Nat) (u : Sums Int) :
    (u.derived.map (nearest p)).byFormulas.Rel (fun x y => (x - y).natAbs ≤ 2) (u.derived.map (nearest p)) := by
  have hpos := (Decimal.minorUnit_pos p).le
  have hsame : ∀ x : Int, (x - x).natAbs ≤ 2 := by
    intro x
    omega
  have h1 := Decimal.nearest_error p u.initialAllocation
  have h2 := Decimal.nearest_error p u.allocationTo
  have h3 := Decimal.nearest_error p u.allocationFrom
  have h4 := Decimal.nearest_error p u.netTransfers
  have h5 := Decimal.nearest_error p u.encumbered
  have h6 := Decimal.nearest_error p u.awaitingPayment
  have h7 := Decimal.nearest_error p u.expenditures
  have h8 := Decimal.nearest_error p u.credits
  have h9 := Decimal.nearest_error p u.derived.allocated
  have h10 := Decimal.nearest_error p u.derived.totalFunding
  have h11 := Decimal.nearest_error p u.derived.unavailable
  have h12 := Decimal.nearest_error p u.derived.available
  have h13 := Decimal.nearest_error p u.derived.cashBalance
  have h14 := Decimal.nearest_error p u.derived.overEncumbrance
  have h15 := Decimal.nearest_error p u.derived.overExpended
  simp only [Sums.derived] at h9 h10 h11 h12 h13 h14 h15
  refine ⟨⟨hsame _, hsame _, hsame _, hsame _, hsame _, hsame _, hsame _, hsame _⟩, ?_, ?_, ?_, ?_, ?_, ?_, ?_⟩
  -- the formula, multiplied by the minor unit, is linear in the rounded values
  all_goals refine natAbs_sub_le_two (p := p) ?_ ?_
  all_goals
    simp only [map, Sums.map, byFormulas, Sums.derived, Int.sub_mul, Int.add_mul, max_mul_of_nonneg _ _ hpos,
      Int.zero_mul]
    omega

end Totals

/-! ## Written budgets -/

namespace Store

variable {s : Store} {b saved : Budget}

/-- A budget is written with the next version. -/
theorem perform_request_updateBudget_eq_ok (h : (s.perform (Operation.request (.updateBudget b))).1 = .ok saved) :
    saved = { b with version := b.version + 1 } ∧ (s.perform (Operation.request (.updateBudget b))).2 = s.write b := by
  have hwritten : (s.updateBudget b).1 = .ok saved := eq_ok_of_mapError h
  obtain ⟨-, hwrite⟩ := updateBudget_eq_ok hwritten
  rw [hwrite] at hwritten
  exact ⟨(Except.ok.inj hwritten).symm, congrArg Prod.snd hwrite⟩

/-- A budget that is handed in is written with its derived amounts computed anew and every amount rounded. -/
theorem perform_updateBudget_eq_ok (h : (s.perform (.updateBudget b)).1 = .ok saved) :
    ∃ t, b.totals.refresh = .ok t ∧ saved = { b with totals := t.rounded b.currency, version := b.version + 1 } ∧
      saved ∈ (s.perform (.updateBudget b)).2.budgets := by
  unfold Operation.updateBudget at h ⊢
  obtain ⟨t, hrefresh, hperform⟩ := perform_bind_eq_ok h
  rw [hperform] at h ⊢
  obtain ⟨issues, -, hperform⟩ := perform_bind_eq_ok h
  rw [hperform] at h ⊢
  obtain ⟨-, -, hperform⟩ := perform_bind_eq_ok h
  rw [hperform] at h ⊢
  obtain ⟨hsaved, hwrite⟩ := perform_request_updateBudget_eq_ok h
  refine ⟨t, eq_ok_of_mapError hrefresh, hsaved, ?_⟩
  rw [hwrite]
  exact mem_write.mpr (.inl hsaved)

/-- A budget that was written keeps the rounded sums that were handed in, and the rounded values of what is derived from
them.  Those satisfy their formulas exactly if rounding the sums and rounding what is derived from them come to the same;
it does so for sums in whole minor units, and in general each formula is off by two minor units at most. -/
theorem updateBudget_coherent_iff (hsaved : (s.perform (.updateBudget b)).1 = .ok saved)
    (hexact : ∀ t, b.totals.refresh = .ok t → t.Coherent) :
    let p := b.currency.minorUnits
    let u := b.totals.toSums.map Decimal.units
    saved ∈ (s.perform (.updateBudget b)).2.budgets ∧
      saved.totals.Counts p (u.derived.map (nearest p)) ∧
      (saved.totals.Coherent ↔ (u.map (nearest p)).derived = u.derived.map (nearest p)) ∧
      ((∃ m, b.totals.toSums.Counts p m) → saved.totals.Coherent) ∧
      (u.derived.map (nearest p)).byFormulas.Rel (fun x y => (x - y).natAbs ≤ 2) (u.derived.map (nearest p)) := by
  intro p u
  obtain ⟨t, hrefresh, rfl, hmem⟩ := perform_updateBudget_eq_ok hsaved
  have hsums : t.toSums = b.totals.toSums := Totals.toSums_of_derive hrefresh
  have hvalues : t.values = u.derived := by
    rw [Totals.coherent_iff.mp (hexact t hrefresh), hsums]
  have hcounts : (t.rounded b.currency).Counts p (u.derived.map (nearest p)) := by
    rw [← hvalues]
    exact t.counts_rounded b.currency
  refine ⟨hmem, hcounts, ?_, ?_, Totals.rel_byFormulas_nearest p u⟩
  · rw [Totals.Counts.coherent_iff hcounts]
    exact eq_comm
  · rintro ⟨m, hm⟩
    have hu : u = m.map (· * minorUnit p) := Sums.ext hm.1 hm.2 hm.3 hm.4 hm.5 hm.6 hm.7 hm.8
    have hnearest : u.derived.map (nearest p) = m.derived := by
      rw [hu, Totals.derived_map_mul m (Decimal.minorUnit_pos p).le, Totals.map_nearest_map_mul]
    rw [Totals.Counts.coherent_iff hcounts, hnearest]
    rfl

/-- A budget with these dollars allocated, and these reserved. -/
def reservedBooks (initialAllocation encumbered : Decimal) : Budget :=
  { Budget.create 11 "books" 1 9 .usd with totals := { Totals.zero with initialAllocation, encumbered } }

/-- Of a little more than a hundred dollars, less than a cent is reserved.  A hundred dollars are written as available,
and a cent of them as unavailable. -/
theorem updateBudget_incoherent :
    ∃ saved, (twoFunds.perform (.updateBudget (reservedBooks 100.004 0.006))).1 = .ok saved ∧
      (∀ t, (reservedBooks 100.004 0.006).totals.refresh = .ok t → t.Coherent) ∧
      saved ∈ (twoFunds.perform (.updateBudget (reservedBooks 100.004 0.006))).2.budgets ∧
      saved.totals.totalFunding = 100.00 ∧ saved.totals.available = 100.00 ∧ saved.totals.unavailable = 0.01 ∧
      ¬saved.totals.Coherent := by
  have hsaved : (twoFunds.perform (.updateBudget (reservedBooks 100.004 0.006))).1 =
      .ok { reservedBooks 100.00 0.01 with
        totals := { (reservedBooks 100.00 0.01).totals with
          allocated := 100.00, totalFunding := 100.00, unavailable := 0.01, available := 100.00, cashBalance := 100.00 }
        version := 1 } := by decide +kernel
  have hexact : ∀ t, (reservedBooks 100.004 0.006).totals.refresh = .ok t → t.Coherent := by
    obtain ⟨t, hrefresh, hcoherent⟩ : ∃ t, (reservedBooks 100.004 0.006).totals.refresh = .ok t ∧ t.Coherent := by
      refine ⟨_, rfl, ?_⟩
      decide +kernel
    intro t' h
    rwa [← Except.ok.inj (hrefresh.symm.trans h)]
  obtain ⟨hmem, -, hcoherent, -⟩ := updateBudget_coherent_iff hsaved hexact
  refine ⟨_, hsaved, hexact, hmem, rfl, rfl, rfl, ?_⟩
  rw [hcoherent]
  decide +kernel

end Store

end FundLedger
