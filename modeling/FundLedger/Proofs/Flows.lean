import Mathlib.Algebra.BigOperators.Group.Multiset.Basic
import FundLedger.Proofs.Recompute
/-!
# Money between budgets

Sums over several budgets of one fiscal year.  A transaction is in the scope of the budgets of both its funds, so what
the budgets hold together is a sum over the transactions of the year: each of them adds what its receiver gets, if that
is one of the funds, and takes what its sender gives, if that is one of the funds.  What moves between two of the funds
adds nothing.

* `sum_map_roles`: a sum over funds of which at most one has a role.
* `sum_map_parts_add_rest`: a sum over the parts of a list.
* `sum_scopes`: a sum over the scopes of some budgets, as a sum over the transactions of the year.
* `unitsInto`, `unitsOutOf`, `sum_netAmountIn`: what comes to some funds from elsewhere, and what goes elsewhere.
* `sum_allocated`, `sum_netTransfers`: what some funds have together.
-/

namespace FundLedger

section Sums

variable {M : Type} [AddCommMonoid M]

/-- Sums over two lists in the other order. -/
theorem sum_map_comm {α β : Type} (l : List α) (l' : List β) (f : α → β → M) :
    (l.map fun a => (l'.map (f a)).sum).sum = (l'.map fun b => (l.map (f · b)).sum).sum := by
  simpa using Multiset.sum_map_sum_map (l : Multiset α) (l' : Multiset β) (f := f)

/-- A sum of differences. -/
theorem sum_map_sub {α : Type} (l : List α) (f g : α → Int) :
    (l.map fun a => f a - g a).sum = (l.map f).sum - (l.map g).sum :=
  l.sum_hom₂ (· - ·) add_sub_add_comm (sub_self 0) _ _

/-- At most one of distinct values, such as funds, is the one that an option, such as a role, holds. -/
theorem sum_map_roles {α : Type} [DecidableEq α] {as : List α} (h : as.Nodup) (role : Option α) (f : α → M) :
    (as.map fun a => if role == some a then f a else 0).sum =
      role.elim 0 fun a => if as.contains a then f a else 0 := by
  cases role with
  | none => simp
  | some holder =>
    have hother : ∀ a, a ≠ holder → a ∈ as → (if some holder == some a then f a else 0) = 0 := by
      intro a hne _
      simp [Ne.symm hne]
    rw [List.sum_map_eq_nsmul_single holder _ hother]
    by_cases hmem : holder ∈ as
    · rw [List.count_eq_one_of_mem h hmem, one_nsmul]
      simp [hmem]
    · simp [List.count_eq_zero_of_not_mem hmem, hmem]

/-- Over the parts that the keys divide a list into, and over the rest, as over the whole list. -/
theorem sum_map_parts_add_rest {α κ : Type} [DecidableEq κ] {keys : List κ} (hkeys : keys.Nodup) (key : α → Option κ)
    (l : List α) (f : α → M) :
    (keys.map fun k => ((l.filter fun a => key a == some k).map f).sum).sum +
      ((l.filter fun a => !(keys.any fun k => key a == some k)).map f).sum = (l.map f).sum := by
  simp only [sum_map_filter]
  rw [sum_map_comm, ← List.sum_map_add]
  refine congrArg List.sum (List.map_congr_left fun a _ => ?_)
  rw [sum_map_roles hkeys (key a) fun _ => f a]
  cases key a with
  | none => simp
  | some k =>
    have hany : (keys.any fun x => some k == some x) = keys.contains k := by
      simp only [Option.some_beq_some]
      exact List.any_beq
    rw [hany]
    by_cases hk : k ∈ keys <;> simp [hk]

/-- What the transactions of each budget's scope come to, when a transaction comes to nothing for funds that it does not
touch. -/
theorem sum_scopes {bs : List Budget} {fiscalYear : FiscalYearId} (hyear : ∀ b ∈ bs, b.fiscalYear = fiscalYear)
    (txs : List Transaction) (f : FundId → Transaction → M) (hf : ∀ fund t, t.touches fund = false → f fund t = 0) :
    (bs.map fun b => ((b.scope txs).map (f b.fund)).sum).sum =
      ((txs.filter fun t => t.fiscalYear == fiscalYear).map fun t => ((bs.map (·.fund)).map (f · t)).sum).sum := by
  have hscope : ∀ b ∈ bs, ((b.scope txs).map (f b.fund)).sum =
      ((txs.filter fun t => t.fiscalYear == fiscalYear).map (f b.fund)).sum := by
    intro b hb
    have hsplit : b.scope txs = (txs.filter fun t => t.fiscalYear == fiscalYear).filter fun t => t.touches b.fund := by
      unfold Budget.scope
      rw [List.filter_filter, hyear b hb]
      exact List.filter_congr fun t _ => Bool.and_comm ..
    rw [hsplit, sum_map_filter]
    refine congrArg List.sum (List.map_congr_left fun t _ => ?_)
    cases htouches : t.touches b.fund with
    | true => rfl
    | false => simp [hf b.fund t htouches]
  rw [List.map_congr_left hscope, sum_map_comm]
  simp only [List.map_map, Function.comp_def]

end Sums

/-! ## Flows -/

namespace Transaction

variable (t : Transaction)

/-- What the transaction brings to some funds together: its amount if one of them receives it, and less its amount if
one of them sends it. -/
def netAmountIn (funds : List FundId) : Int :=
  (if t.toFund.any funds.contains then t.minorAmount else 0) -
    (if t.fromFund.any funds.contains then t.minorAmount else 0)

/-- What the funds get one by one is what they get together. -/
theorem sum_netAmount {funds : List FundId} (h : funds.Nodup) : (funds.map t.netAmount).sum = t.netAmountIn funds := by
  have hrole : ∀ role : Option FundId, (funds.map fun fund => if role == some fund then t.minorAmount else 0).sum =
      if role.any funds.contains then t.minorAmount else 0 := by
    intro role
    rw [sum_map_roles h]
    cases role <;> rfl
  unfold netAmountIn
  rw [← hrole, ← hrole]
  exact sum_map_sub ..

/-- One of the funds that the transaction touches. -/
theorem exists_touches_of_receiver {funds : List FundId} (h : t.toFund.any funds.contains = true) :
    ∃ fund ∈ funds, t.touches fund = true := by
  obtain ⟨fund, hfund, hmem⟩ := (Option.any_eq_true ..).mp h
  exact ⟨fund, List.contains_iff_mem.mp hmem, touches_iff.mpr (.inr hfund)⟩

theorem exists_touches_of_sender {funds : List FundId} (h : t.fromFund.any funds.contains = true) :
    ∃ fund ∈ funds, t.touches fund = true := by
  obtain ⟨fund, hfund, hmem⟩ := (Option.any_eq_true ..).mp h
  exact ⟨fund, List.contains_iff_mem.mp hmem, touches_iff.mpr (.inl hfund)⟩

/-- Whether the transaction is a transfer of either kind. -/
def isTransfer : Bool := t.kind == .transfer || t.kind == .rolloverTransfer

variable {t}

theorem netAmount_of_not_touches {fund : FundId} (h : t.touches fund = false) : t.netAmount fund = 0 := by
  obtain ⟨hs, hr⟩ := Bool.or_eq_false_iff.mp h
  unfold netAmount
  rw [hs, hr]
  rfl

end Transaction

/-- What comes to some funds from elsewhere. -/
def unitsInto (funds : List FundId) (txs : List Transaction) : Int :=
  ((txs.filter fun t => t.toFund.any funds.contains && !t.fromFund.any funds.contains).map (·.amount.units)).sum

/-- What goes elsewhere from some funds. -/
def unitsOutOf (funds : List FundId) (txs : List Transaction) : Int :=
  ((txs.filter fun t => t.fromFund.any funds.contains && !t.toFund.any funds.contains).map (·.amount.units)).sum

/-- What rounded transactions bring to some funds comes from elsewhere, and what they take goes elsewhere. -/
theorem sum_netAmountIn {funds : List FundId} {txs : List Transaction} {p : Nat}
    (hrounded : ∀ t ∈ txs, ∀ fund ∈ funds, t.touches fund = true → t.amount.Counts p t.minorAmount) :
    (txs.map (·.netAmountIn funds)).sum * Decimal.minorUnit p = unitsInto funds txs - unitsOutOf funds txs := by
  have hunits : ∀ t ∈ txs, (∃ fund ∈ funds, t.touches fund = true) →
      t.amount.units = t.minorAmount * Decimal.minorUnit p := by
    rintro t ht ⟨fund, hfund, htouches⟩
    exact hrounded t ht fund hfund htouches
  unfold unitsInto unitsOutOf
  rw [sum_map_filter, sum_map_filter, ← List.sum_map_mul_right, ← sum_map_sub]
  refine congrArg List.sum (List.map_congr_left fun t ht => ?_)
  unfold Transaction.netAmountIn
  cases hr : t.toFund.any funds.contains <;> cases hs : t.fromFund.any funds.contains
  · simp
  · simp [hunits t ht (t.exists_touches_of_sender hs)]
  · simp [hunits t ht (t.exists_touches_of_receiver hr)]
  · simp

section Tally

variable {fund : FundId} {txs : List Transaction}

/-- The allocations that a fund received less those that it sent, the initial one among them. -/
theorem allocated_tally (hids : (txs.map (·.id)).Nodup) :
    (tally fund txs).derived.allocated = (txs.map fun t => if t.kind == .allocation then t.netAmount fund else 0).sum := by
  let f : Sums Int → Int := fun m => m.derived.allocated
  have hadd : ∀ m n, f (m + n) = f m + f n := by
    intro m n
    simp only [f, Sums.derived, Sums.add_initialAllocation, Sums.add_allocationTo, Sums.add_allocationFrom]
    omega
  have hpromote : f (.promote (initialAmount fund txs)) = 0 := by
    simp [f, Sums.derived, Sums.promote]
  change f (tally fund txs) = _
  rw [tally_eq hids, hadd, hpromote, Int.add_zero, Sums.sum_apply rfl hadd, List.map_map]
  refine congrArg List.sum (List.map_congr_left fun t _ => ?_)
  simp only [Function.comp_apply, f, Sums.derived, Transaction.contribution, Transaction.netAmount]
  cases t.kind <;> simp

theorem netTransfers_tally :
    (tally fund txs).netTransfers = (txs.map fun t => if t.isTransfer then t.netAmount fund else 0).sum := by
  refine tally_apply Sums.netTransfers rfl (fun _ _ => rfl) fun t _ => ?_
  unfold Transaction.isTransfer Transaction.contribution Transaction.netAmount
  cases t.kind <;> simp

end Tally

/-! ## Several budgets -/

section Budgets

variable {bs : List Budget} {fiscalYear : FiscalYearId} {txs : List Transaction}

/-- What funds get from transactions of some kinds, budget by budget. -/
theorem sum_netAmounts (hyear : ∀ b ∈ bs, b.fiscalYear = fiscalYear) (hfunds : (bs.map (·.fund)).Nodup)
    (q : Transaction → Bool) :
    (bs.map fun b => ((b.scope txs).map fun t => if q t then t.netAmount b.fund else 0).sum).sum =
      ((txs.filter fun t => t.fiscalYear == fiscalYear && q t).map (·.netAmountIn (bs.map (·.fund)))).sum := by
  have hzero : ∀ fund (t : Transaction), t.touches fund = false → (if q t then t.netAmount fund else 0) = 0 := by
    intro fund t htouches
    rw [Transaction.netAmount_of_not_touches htouches, ite_self]
  rw [sum_scopes hyear txs (fun fund t => if q t then t.netAmount fund else 0) hzero]
  have hsplit : (txs.filter fun t => t.fiscalYear == fiscalYear && q t) =
      (txs.filter fun t => t.fiscalYear == fiscalYear).filter q := by
    rw [List.filter_filter]
    exact List.filter_congr fun t _ => Bool.and_comm ..
  rw [hsplit, sum_map_filter q]
  refine congrArg List.sum (List.map_congr_left fun t _ => ?_)
  cases q t with
  | true => exact t.sum_netAmount hfunds
  | false => simp [Function.comp_def]

/-- What is allocated to some funds of one year together: what comes from elsewhere less what goes elsewhere. -/
theorem sum_allocated (hids : (txs.map (·.id)).Nodup) (hyear : ∀ b ∈ bs, b.fiscalYear = fiscalYear)
    (hfunds : (bs.map (·.fund)).Nodup) :
    (bs.map fun b => (b.tally txs).derived.allocated).sum =
      ((txs.filter fun t => t.fiscalYear == fiscalYear && t.kind == .allocation).map
        (·.netAmountIn (bs.map (·.fund)))).sum := by
  rw [← sum_netAmounts hyear hfunds fun t => t.kind == .allocation]
  exact congrArg List.sum (List.map_congr_left fun b _ =>
    allocated_tally (hids.sublist (List.filter_sublist.map _)))

/-- What is transferred to some funds of one year together. -/
theorem sum_netTransfers (hyear : ∀ b ∈ bs, b.fiscalYear = fiscalYear) (hfunds : (bs.map (·.fund)).Nodup) :
    (bs.map fun b => (b.tally txs).netTransfers).sum =
      ((txs.filter fun t => t.fiscalYear == fiscalYear && t.isTransfer).map (·.netAmountIn (bs.map (·.fund)))).sum := by
  rw [← sum_netAmounts hyear hfunds (·.isTransfer)]
  exact congrArg List.sum (List.map_congr_left fun b _ => netTransfers_tally)

end Budgets

end FundLedger
