import Mathlib.Algebra.BigOperators.Ring.List
import Mathlib.Algebra.Order.BigOperators.Group.List
import FundLedger.Proofs.EarliestAllocation
import FundLedger.Proofs.ExactTotals
/-!
# The tally of a fund

What each transaction adds to the sums of a fund, in minor units, and what they add up to.  Both ways to keep the
totals of a budget, effect by effect and from the whole history, are measured by this tally.

* `Transaction.contribution`: what one transaction adds, told whether it is the initial allocation.
* `tally`: what some transactions add up to.
* `tally_eq`: the tally as a plain sum, with one allocation promoted to the initial one.
* `tally_perm`, `tally_cons`: the tally does not depend on the order, and how one more transaction changes it.
-/

namespace FundLedger

theorem Currency.minorUnits_le (c : Currency) : c.minorUnits ≤ 28 := by
  cases c <;> decide

/-- The sign that a fund sees on an amount. -/
def FundRole.sign : FundRole → Int
  | receiver => 1
  | sender => -1

theorem FundRole.counts_signed (role : FundRole) {p : Nat} {d : Decimal} {n : Int} (h : d.Counts p n) :
    (role.signed d).Counts p (role.sign * n) := by
  cases role with
  | receiver => simpa [sign, signed] using h
  | sender => simpa [sign, signed] using h.neg

/-! ## Transactions -/

namespace Transaction

variable (tx : Transaction)

/-- The rounded amount as a number of minor units. -/
def minorAmount : Int := tx.roundedAmount.minor tx.currency.minorUnits

theorem counts_roundedAmount : tx.roundedAmount.Counts tx.currency.minorUnits tx.minorAmount :=
  (Decimal.counts_round tx.amount tx.currency.minorUnits_le).counts_minor

/-- What the transaction adds to the sums of a fund; `initial` tells whether it is the initial allocation. -/
def contribution (fund : FundId) (initial : Bool) : Sums Int :=
  let a := tx.minorAmount
  let sent := tx.hasRole fund .sender
  let received := tx.hasRole fund .receiver
  { initialAllocation := if tx.kind = .allocation ∧ received ∧ initial then a else 0
    allocationTo := if tx.kind = .allocation ∧ received ∧ ¬initial then a else 0
    allocationFrom := if tx.kind = .allocation ∧ sent then a else 0
    netTransfers :=
      if tx.kind = .transfer ∨ tx.kind = .rolloverTransfer then (if received then a else 0) - (if sent then a else 0)
      else 0
    encumbered := if tx.kind = .encumbrance ∧ sent then a else 0
    awaitingPayment := if tx.kind = .pendingPayment ∧ tx.touches fund then a else 0
    expenditures := if tx.kind = .payment ∧ tx.touches fund then a else 0
    credits := if tx.kind = .credit ∧ tx.touches fund then a else 0 }

/-- What leaves the budget of the sender counts there, whatever the kind of the transaction. -/
theorem contribution_eq_zero_iff {fund : FundId} (hs : tx.hasRole fund .sender = true)
    (hr : tx.hasRole fund .receiver = false) (initial : Bool) :
    tx.contribution fund initial = 0 ↔ tx.minorAmount = 0 := by
  unfold contribution touches
  rw [Sums.ext_iff]
  cases tx.kind <;> simp [hs, hr]

theorem norm_contribution_le (fund : FundId) (initial : Bool) :
    (tx.contribution fund initial).norm ≤ 2 * tx.minorAmount.natAbs := by
  unfold contribution Sums.norm touches
  generalize tx.hasRole fund .sender = sent
  generalize tx.hasRole fund .receiver = received
  cases tx.kind <;> cases sent <;> cases received <;> cases initial <;> simp <;> omega

end Transaction

/-- The magnitudes of all rounded amounts together, in minor units. -/
def volume (txs : List Transaction) : Nat := (txs.map fun tx => tx.minorAmount.natAbs).sum

theorem volume_cons (tx : Transaction) (txs : List Transaction) :
    volume (tx :: txs) = tx.minorAmount.natAbs + volume txs := rfl

theorem volume_append (txs txs' : List Transaction) : volume (txs ++ txs') = volume txs + volume txs' := by
  unfold volume
  rw [List.map_append, List.sum_append]

theorem minorAmount_le_volume {tx : Transaction} {txs : List Transaction} (h : tx ∈ txs) :
    tx.minorAmount.natAbs ≤ volume txs :=
  List.single_le_sum (fun _ _ => Nat.zero_le _) _ (List.mem_map_of_mem h)

theorem volume_le_of_sublist {txs txs' : List Transaction} (h : txs.Sublist txs') : volume txs ≤ volume txs' :=
  (h.map _).sum_le_sum fun _ _ => Nat.zero_le _

theorem volume_perm {txs txs' : List Transaction} (h : txs.Perm txs') : volume txs = volume txs' :=
  (h.map _).sum_eq

/-- The sums that some transactions leave to a fund. -/
def tally (fund : FundId) (txs : List Transaction) : Sums Int :=
  (txs.map fun tx => tx.contribution fund (some tx.id == initialAllocation? fund txs)).sum

theorem norm_tally_le (fund : FundId) (txs : List Transaction) : (tally fund txs).norm ≤ 2 * volume txs := by
  refine Nat.le_trans (Sums.norm_sum_le _) ?_
  unfold volume
  rw [List.map_map, ← List.sum_map_mul_left]
  exact List.sum_le_sum fun tx _ => tx.norm_contribution_le fund _

/-! ## The tally and the initial allocation -/

/-- An amount that counts as the initial allocation and no longer as a later one. -/
def Sums.promote (n : Int) : Sums Int := { (0 : Sums Int) with initialAllocation := n, allocationTo := -n }

@[simp]
theorem Sums.promote_zero : promote 0 = 0 := rfl

theorem Sums.promote_sub (m n : Int) : promote (m - n) = promote m - promote n := by
  ext <;> simp [promote, sub_eq_add_neg, add_comm]

namespace Transaction

variable {tx : Transaction} {fund : FundId}

theorem contribution_true_of_received (h : tx.isReceivedBy fund = true) :
    tx.contribution fund true = tx.contribution fund false + .promote tx.minorAmount := by
  obtain ⟨hkind, hrole⟩ : tx.kind = .allocation ∧ tx.hasRole fund .receiver = true := by simpa [isReceivedBy] using h
  unfold contribution Sums.promote
  ext <;> simp [hkind, hrole]

end Transaction

section TallyEq

open Transaction (earliest?)

variable {fund : FundId} {tx : Transaction} {txs txs' : List Transaction}

/-- The initial allocation of a fund in minor units, or nothing. -/
def initialAmount (fund : FundId) (txs : List Transaction) : Int :=
  (earliest? (receivedAllocations fund txs)).elim 0 Transaction.minorAmount

/-- What all transactions contribute as if there were no initial allocation, and the initial one promoted. -/
theorem tally_eq (hids : (txs.map (·.id)).Nodup) :
    tally fund txs = (txs.map fun tx => tx.contribution fund false).sum + .promote (initialAmount fund txs) := by
  unfold tally
  cases he : earliest? (receivedAllocations fund txs) with
  | none =>
    have hinit : initialAllocation? fund txs = none := by
      unfold initialAllocation?
      rw [he]
      rfl
    have hamount : initialAmount fund txs = 0 := by
      unfold initialAmount
      rw [he]
      rfl
    rw [hamount, Sums.promote_zero, add_zero]
    simp only [hinit, reduceBEq]
  | some first =>
    have hmem : first ∈ txs := List.mem_of_mem_filter (Transaction.earliest?_mem he)
    have hrec : first.isReceivedBy fund = true := (List.mem_filter.mp (Transaction.earliest?_mem he)).2
    have hinit : initialAllocation? fund txs = some first.id := by
      unfold initialAllocation?
      rw [he]
      rfl
    have hamount : initialAmount fund txs = first.minorAmount := by
      unfold initialAmount
      rw [he]
      rfl
    have hsplit : txs.map (fun tx => tx.contribution fund (some tx.id == initialAllocation? fund txs)) =
        txs.map fun tx => tx.contribution fund false + if tx = first then .promote first.minorAmount else 0 := by
      refine List.map_congr_left fun tx htx => ?_
      rw [hinit]
      by_cases heq : tx = first
      · subst heq
        rw [if_pos rfl, beq_self_eq_true]
        exact Transaction.contribution_true_of_received hrec
      · have hid : some tx.id ≠ some first.id := fun h =>
          heq (List.inj_on_of_nodup_map hids htx hmem (Option.some.inj h))
        rw [if_neg heq, add_zero, beq_false_of_ne hid]
    have hone : (txs.map fun tx => if tx = first then Sums.promote first.minorAmount else 0).sum =
        .promote first.minorAmount := by
      rw [List.sum_map_eq_nsmul_single first _ fun tx hne _ => if_neg hne,
        List.count_eq_one_of_mem hids.of_map hmem, one_nsmul, if_pos rfl]
    rw [hsplit, List.sum_map_add, hone, hamount]

theorem tally_initialAllocation (hids : (txs.map (·.id)).Nodup) :
    (tally fund txs).initialAllocation = initialAmount fund txs := by
  have hnone : (txs.map fun tx : Transaction => tx.contribution fund false).sum.initialAllocation = 0 := by
    rw [Sums.sum_apply (f := Sums.initialAllocation) rfl fun _ _ => rfl, List.map_map]
    refine List.sum_eq_zero fun x hx => ?_
    obtain ⟨tx, -, rfl⟩ := List.mem_map.mp hx
    simp [Transaction.contribution]
  rw [tally_eq hids, Sums.add_initialAllocation, hnone]
  exact Int.zero_add _

/-- The tally does not depend on the order of the transactions. -/
theorem tally_perm (hids : (txs.map (·.id)).Nodup) (h : txs.Perm txs') : tally fund txs = tally fund txs' := by
  have hids' : (txs'.map (·.id)).Nodup := (h.map _).nodup_iff.mp hids
  have hreceived : (receivedAllocations fund txs).Perm (receivedAllocations fund txs') := h.filter _
  have hamount : initialAmount fund txs = initialAmount fund txs' := by
    unfold initialAmount
    rw [Transaction.earliest?_perm (nodup_receivedAllocations fund hids) hreceived]
  rw [tally_eq hids, tally_eq hids', hamount, (h.map _).sum_eq]

/-- One transaction more. -/
theorem tally_cons (hids : ((tx :: txs).map (·.id)).Nodup) :
    tally fund (tx :: txs) =
      tally fund txs + tx.contribution fund false +
        .promote (initialAmount fund (tx :: txs) - initialAmount fund txs) := by
  rw [tally_eq hids, tally_eq (List.nodup_cons.mp hids).2, Sums.promote_sub, List.map_cons, List.sum_cons]
  abel

end TallyEq

end FundLedger
