import Mathlib.Algebra.BigOperators.Group.List.Basic
import Mathlib.Tactic.Abel
import Mathlib.Tactic.Simps.Basic
import FundLedger.Budget.Effect
import FundLedger.Proofs.MinorUnits
/-!
# Totals in whole numbers

Sums of amounts as whole numbers of minor units.  They are added place by place, and the amounts derived from them
are those of the decimals that they count, as long as the magnitudes of the sums together have room in a decimal.

* `Sums.Rel`, `Totals.Rel`: two records whose amounts are related in every place.
* `Sums.norm`: the magnitudes of the sums together.
* `Sums.derived`: the derived amounts of whole sums.
* `Sums.Counts.foldlM`: additions one after the other.
* `Sums.Counts.derive`, `Totals.Counts.rounded`: decimals that count whole sums have derived amounts, and they count the
  derived amounts of those.
-/

namespace FundLedger

attribute [ext] Sums Totals

/-! ## Relations in every place -/

section Rel

variable {α β : Type}

/-- The sums are related in every place. -/
structure Sums.Rel (r : α → β → Prop) (s : Sums α) (s' : Sums β) : Prop where
  initialAllocation : r s.initialAllocation s'.initialAllocation
  allocationTo : r s.allocationTo s'.allocationTo
  allocationFrom : r s.allocationFrom s'.allocationFrom
  netTransfers : r s.netTransfers s'.netTransfers
  encumbered : r s.encumbered s'.encumbered
  awaitingPayment : r s.awaitingPayment s'.awaitingPayment
  expenditures : r s.expenditures s'.expenditures
  credits : r s.credits s'.credits

/-- The totals are related in every place. -/
structure Totals.Rel (r : α → β → Prop) (t : Totals α) (t' : Totals β) : Prop where
  sums : Sums.Rel r t.toSums t'.toSums
  allocated : r t.allocated t'.allocated
  totalFunding : r t.totalFunding t'.totalFunding
  unavailable : r t.unavailable t'.unavailable
  available : r t.available t'.available
  cashBalance : r t.cashBalance t'.cashBalance
  overEncumbrance : r t.overEncumbrance t'.overEncumbrance
  overExpended : r t.overExpended t'.overExpended

/-- A weaker relation in every place. -/
theorem Totals.Rel.imp {r r' : α → β → Prop} {t : Totals α} {t' : Totals β} (hr : ∀ a b, r a b → r' a b)
    (h : t.Rel r t') : t.Rel r' t' :=
  ⟨⟨hr _ _ h.1.1, hr _ _ h.1.2, hr _ _ h.1.3, hr _ _ h.1.4, hr _ _ h.1.5, hr _ _ h.1.6, hr _ _ h.1.7, hr _ _ h.1.8⟩,
    hr _ _ h.2, hr _ _ h.3, hr _ _ h.4, hr _ _ h.5, hr _ _ h.6, hr _ _ h.7, hr _ _ h.8⟩

/-- Amounts that agree in every place, each seen through a function. -/
theorem Totals.rel_iff_map_eq {γ : Type} {f : α → γ} {g : β → γ} {t : Totals α} {t' : Totals β} :
    t.Rel (fun a b => f a = g b) t' ↔ t.map f = t'.map g := by
  constructor
  · rintro ⟨⟨h1, h2, h3, h4, h5, h6, h7, h8⟩, h9, h10, h11, h12, h13, h14, h15⟩
    exact Totals.ext h1 h2 h3 h4 h5 h6 h7 h8 h9 h10 h11 h12 h13 h14 h15
  · intro h
    have hs := congrArg Totals.toSums h
    exact ⟨⟨congrArg Sums.initialAllocation hs, congrArg Sums.allocationTo hs, congrArg Sums.allocationFrom hs,
      congrArg Sums.netTransfers hs, congrArg Sums.encumbered hs, congrArg Sums.awaitingPayment hs,
      congrArg Sums.expenditures hs, congrArg Sums.credits hs⟩, congrArg Totals.allocated h,
      congrArg Totals.totalFunding h, congrArg Totals.unavailable h, congrArg Totals.available h,
      congrArg Totals.cashBalance h, congrArg Totals.overEncumbrance h, congrArg Totals.overExpended h⟩

theorem Totals.map_injective {f : α → β} (hf : Function.Injective f) : Function.Injective (Totals.map f) := by
  intro t t' h
  have hrel : t.Rel (fun a b => id a = id b) t' := (Totals.rel_iff_map_eq.mpr h).imp fun _ _ hab => hf hab
  exact Totals.rel_iff_map_eq.mp hrel

/-- A change of every amount that keeps a relation keeps it in every place. -/
theorem Totals.Rel.map {γ : Type} {r : α → β → Prop} {r' : γ → β → Prop} {f : α → γ} {t : Totals α} {t' : Totals β}
    (hf : ∀ a b, r a b → r' (f a) b) (h : t.Rel r t') : (t.map f).Rel r' t' :=
  have h' := h.imp hf
  ⟨⟨h'.1.1, h'.1.2, h'.1.3, h'.1.4, h'.1.5, h'.1.6, h'.1.7, h'.1.8⟩, h'.2, h'.3, h'.4, h'.5, h'.6, h'.7, h'.8⟩

end Rel

/-! ## Whole sums -/

namespace Sums

@[simps]
instance : Zero (Sums Int) where
  zero := ⟨0, 0, 0, 0, 0, 0, 0, 0⟩

@[simps]
instance : Add (Sums Int) where
  add s t :=
    { initialAllocation := s.initialAllocation + t.initialAllocation
      allocationTo := s.allocationTo + t.allocationTo
      allocationFrom := s.allocationFrom + t.allocationFrom
      netTransfers := s.netTransfers + t.netTransfers
      encumbered := s.encumbered + t.encumbered
      awaitingPayment := s.awaitingPayment + t.awaitingPayment
      expenditures := s.expenditures + t.expenditures
      credits := s.credits + t.credits }

@[simps]
instance : Neg (Sums Int) where
  neg m :=
    { initialAllocation := -m.initialAllocation
      allocationTo := -m.allocationTo
      allocationFrom := -m.allocationFrom
      netTransfers := -m.netTransfers
      encumbered := -m.encumbered
      awaitingPayment := -m.awaitingPayment
      expenditures := -m.expenditures
      credits := -m.credits }

instance : AddCommGroup (Sums Int) where
  add_assoc _ _ _ := by ext <;> exact Int.add_assoc ..
  zero_add _ := by ext <;> exact Int.zero_add _
  add_zero _ := by ext <;> exact Int.add_zero _
  add_comm _ _ := by ext <;> exact Int.add_comm ..
  neg_add_cancel _ := by ext <;> exact Int.add_left_neg _
  nsmul := nsmulRec
  zsmul := zsmulRec

/-- The magnitudes of all sums together. -/
def norm (m : Sums Int) : Nat :=
  m.initialAllocation.natAbs + m.allocationTo.natAbs + m.allocationFrom.natAbs + m.netTransfers.natAbs +
    m.encumbered.natAbs + m.awaitingPayment.natAbs + m.expenditures.natAbs + m.credits.natAbs

theorem norm_add_le (m n : Sums Int) : (m + n).norm ≤ m.norm + n.norm := by
  have h1 := Int.natAbs_add_le m.initialAllocation n.initialAllocation
  have h2 := Int.natAbs_add_le m.allocationTo n.allocationTo
  have h3 := Int.natAbs_add_le m.allocationFrom n.allocationFrom
  have h4 := Int.natAbs_add_le m.netTransfers n.netTransfers
  have h5 := Int.natAbs_add_le m.encumbered n.encumbered
  have h6 := Int.natAbs_add_le m.awaitingPayment n.awaitingPayment
  have h7 := Int.natAbs_add_le m.expenditures n.expenditures
  have h8 := Int.natAbs_add_le m.credits n.credits
  calc (m + n).norm
      ≤ (m.initialAllocation.natAbs + n.initialAllocation.natAbs) + (m.allocationTo.natAbs + n.allocationTo.natAbs) +
          (m.allocationFrom.natAbs + n.allocationFrom.natAbs) + (m.netTransfers.natAbs + n.netTransfers.natAbs) +
          (m.encumbered.natAbs + n.encumbered.natAbs) + (m.awaitingPayment.natAbs + n.awaitingPayment.natAbs) +
          (m.expenditures.natAbs + n.expenditures.natAbs) + (m.credits.natAbs + n.credits.natAbs) :=
        Nat.add_le_add (Nat.add_le_add (Nat.add_le_add (Nat.add_le_add (Nat.add_le_add (Nat.add_le_add
          (Nat.add_le_add h1 h2) h3) h4) h5) h6) h7) h8
    _ = m.norm + n.norm := by
        unfold norm
        ring

/-- Every sum is no greater than all magnitudes together. -/
theorem rel_natAbs_le_norm (m : Sums Int) : m.Rel (fun x k => x.natAbs ≤ k) (.replicate m.norm) := by
  have hplace : ∀ a b c d e f g h : Nat, a ≤ a + b + c + d + e + f + g + h ∧ b ≤ a + b + c + d + e + f + g + h ∧
      c ≤ a + b + c + d + e + f + g + h ∧ d ≤ a + b + c + d + e + f + g + h ∧ e ≤ a + b + c + d + e + f + g + h ∧
      f ≤ a + b + c + d + e + f + g + h ∧ g ≤ a + b + c + d + e + f + g + h ∧ h ≤ a + b + c + d + e + f + g + h := by
    intro a b c d e f g h
    omega
  obtain ⟨h1, h2, h3, h4, h5, h6, h7, h8⟩ := hplace m.initialAllocation.natAbs m.allocationTo.natAbs
    m.allocationFrom.natAbs m.netTransfers.natAbs m.encumbered.natAbs m.awaitingPayment.natAbs m.expenditures.natAbs
    m.credits.natAbs
  exact ⟨h1, h2, h3, h4, h5, h6, h7, h8⟩

theorem norm_sum_le (ms : List (Sums Int)) : ms.sum.norm ≤ (ms.map norm).sum := by
  induction ms with
  | nil => exact Nat.le_refl 0
  | cons m rest ih =>
    simp only [List.sum_cons, List.map_cons]
    have := norm_add_le m rest.sum
    omega

/-- One place of a list of sums. -/
theorem sum_apply {f : Sums Int → Int} (h0 : f 0 = 0) (hadd : ∀ m n, f (m + n) = f m + f n) (ms : List (Sums Int)) :
    f ms.sum = (ms.map f).sum := by
  induction ms with
  | nil => exact h0
  | cons m rest ih => rw [List.sum_cons, hadd, ih, List.map_cons, List.sum_cons]

/-- Whole sums with the amounts derived from them. -/
def derived (m : Sums Int) : Totals Int :=
  let allocated := m.initialAllocation + m.allocationTo - m.allocationFrom
  let totalFunding := allocated + m.netTransfers
  let unavailable := m.encumbered + m.awaitingPayment + m.expenditures - m.credits
  { toSums := m
    allocated, totalFunding, unavailable
    available := totalFunding - unavailable
    cashBalance := totalFunding - m.expenditures
    overEncumbrance := max (m.encumbered - max totalFunding 0) 0
    overExpended := max (m.expenditures + m.awaitingPayment - max totalFunding 0) 0 }

theorem derived_inj {m n : Sums Int} : m.derived = n.derived ↔ m = n :=
  ⟨fun h => congrArg Totals.toSums h, fun h => h ▸ rfl⟩

end Sums

/-! ## Decimals that count whole sums -/

section Counts

variable {p : Nat} {s : Sums Decimal} {t t' : Totals Decimal} {m n : Sums Int}

/-- The decimals are these whole numbers of units with so many places. -/
abbrev Sums.Counts (p : Nat) (s : Sums Decimal) (m : Sums Int) : Prop := s.Rel (Decimal.Counts p) m

abbrev Totals.Counts (p : Nat) (t : Totals Decimal) (m : Totals Int) : Prop := t.Rel (Decimal.Counts p) m

theorem Sums.Counts.unique (h : s.Counts p m) (h' : s.Counts p n) : m = n :=
  Sums.ext (h.1.unique h'.1) (h.2.unique h'.2) (h.3.unique h'.3) (h.4.unique h'.4) (h.5.unique h'.5) (h.6.unique h'.6)
    (h.7.unique h'.7) (h.8.unique h'.8)

theorem Totals.counts_iff {m : Totals Int} : t.Counts p m ↔ t.values = m.map (· * Decimal.minorUnit p) :=
  Totals.rel_iff_map_eq

/-- What decimals count depends on their values only. -/
theorem Totals.Counts.of_equiv {m : Totals Int} (h : t.Counts p m) (he : t' ≈ t) : t'.Counts p m :=
  Totals.counts_iff.mpr (Eq.trans he (Totals.counts_iff.mp h))

/-- Two records of decimals are equal by value exactly if they count the same totals. -/
theorem Totals.Counts.equiv_iff {m n : Totals Int} (h : t.Counts p m) (h' : t'.Counts p n) : t ≈ t' ↔ m = n := by
  change t.values = t'.values ↔ m = n
  rw [Totals.counts_iff.mp h, Totals.counts_iff.mp h']
  exact (Totals.map_injective (Decimal.mul_minorUnit_injective p)).eq_iff

theorem Totals.Counts.rounded {m : Totals Int} {c : Currency} (h : t.Counts c.minorUnits m) :
    (t.rounded c).Counts c.minorUnits m :=
  h.map fun _ _ ha => ha.round

theorem Totals.counts_zero (p : Nat) : Totals.zero.Counts p (Sums.derived 0) :=
  have h := Decimal.counts_zero p
  ⟨⟨h, h, h, h, h, h, h, h⟩, h, h, h, h, h, h, h⟩

/-- Additions one after the other, each with room for what it costs. -/
theorem Sums.Counts.foldlM {α : Type} {f : Sums Decimal → α → Except Overflow (Sums Decimal)} {delta : α → Sums Int}
    {cost : α → Nat} {l : List α} (hcost : ∀ a ∈ l, (delta a).norm ≤ cost a)
    (hf : ∀ a ∈ l, ∀ s m, Sums.Counts p s m → m.norm + cost a < mantissaLimit →
      ∃ s', f s a = .ok s' ∧ s'.Counts p (m + delta a))
    (h : s.Counts p m) (small : m.norm + (l.map cost).sum < mantissaLimit) :
    ∃ s', l.foldlM f s = .ok s' ∧ s'.Counts p (m + (l.map delta).sum) := by
  induction l generalizing s m with
  | nil => exact ⟨s, rfl, by simpa using h⟩
  | cons a rest ih =>
    simp only [List.map_cons, List.sum_cons] at small ⊢
    have htri := m.norm_add_le (delta a)
    have ha := hcost a List.mem_cons_self
    obtain ⟨s', hs, hs'⟩ := hf a List.mem_cons_self s m h (by omega)
    obtain ⟨s'', hrest, hs''⟩ := ih (fun x hx => hcost x (List.mem_cons_of_mem a hx))
      (fun x hx => hf x (List.mem_cons_of_mem a hx)) hs' (by omega)
    refine ⟨s'', ?_, by rw [← add_assoc]; exact hs''⟩
    rw [List.foldlM_cons, hs]
    exact hrest

/-- A number between the bounds that its magnitude gives. -/
theorem exists_magnitude (x : Int) : ∃ k : Nat, x.natAbs = k ∧ -(k : Int) ≤ x ∧ x ≤ k :=
  ⟨x.natAbs, rfl, by omega, by omega⟩

/-- Sums whose magnitudes together have room have their derived amounts. -/
theorem Sums.Counts.derive (hp : p ≤ 28) (h : s.Counts p m) (small : m.norm < mantissaLimit) :
    ∃ t, s.derive = .ok t ∧ t.Counts p m.derived := by
  unfold Sums.norm at small
  obtain ⟨k1, e1, l1, u1⟩ := exists_magnitude m.initialAllocation
  obtain ⟨k2, e2, l2, u2⟩ := exists_magnitude m.allocationTo
  obtain ⟨k3, e3, l3, u3⟩ := exists_magnitude m.allocationFrom
  obtain ⟨k4, e4, l4, u4⟩ := exists_magnitude m.netTransfers
  obtain ⟨k5, e5, l5, u5⟩ := exists_magnitude m.encumbered
  obtain ⟨k6, e6, l6, u6⟩ := exists_magnitude m.awaitingPayment
  obtain ⟨k7, e7, l7, u7⟩ := exists_magnitude m.expenditures
  obtain ⟨k8, e8, l8, u8⟩ := exists_magnitude m.credits
  rw [e1, e2, e3, e4, e5, e6, e7, e8] at small
  clear e1 e2 e3 e4 e5 e6 e7 e8
  obtain ⟨h1, h2, h3, h4, h5, h6, h7, h8⟩ := h
  have h0 := Decimal.counts_zero p
  obtain ⟨received, d1, c1⟩ := h1.add hp h2 (by omega)
  obtain ⟨allocated, d2, c2⟩ := c1.sub hp h3 (by omega)
  obtain ⟨totalFunding, d3, c3⟩ := c2.add hp h4 (by omega)
  obtain ⟨reserved, d4, c4⟩ := h5.add hp h6 (by omega)
  obtain ⟨committed, d5, c5⟩ := c4.add hp h7 (by omega)
  obtain ⟨unavailable, d6, c6⟩ := c5.sub hp h8 (by omega)
  obtain ⟨available, d7, c7⟩ := c3.sub hp c6 (by omega)
  obtain ⟨cashBalance, d8, c8⟩ := c3.sub hp h7 (by omega)
  have cf := c3.maximum h0
  obtain ⟨encumberedBeyond, d9, c9⟩ := h5.sub hp cf (by omega)
  obtain ⟨spent, d10, c10⟩ := h7.add hp h6 (by omega)
  obtain ⟨spentBeyond, d11, c11⟩ := c10.sub hp cf (by omega)
  refine ⟨_, by simp only [Sums.derive, d1, d2, d3, d4, d5, d6, d7, d8, d9, d10, d11, bind, Except.bind]; rfl, ?_⟩
  exact ⟨⟨h1, h2, h3, h4, h5, h6, h7, h8⟩, c2, c3, c6, c7, c8, c9.maximum h0, c11.maximum h0⟩

end Counts

end FundLedger
