import FundLedger.Group.Summary
import FundLedger.Proofs.Flows
/-!
# Totals of a group

What the summary of a group adds up, in minor units.  Its sums come from two sides: initial allocations, reserved and
spent money are kept in the budgets of the members, later allocations and transfers are read off the transactions.  Both
sides together are the sums of the members' budgets.

* `Totals.together`: totals as sums over some totals, with the excesses of the whole.
* `Sums.kept`, `Sums.moved`: the two sides.
* `Transaction.movedIn`, `sum_movement`: what a transaction moves into a group and out of it.
* `Members`: budgets that can be added up.
* `Members.groupTotals_counts`: the totals of a group are those of its members together.
* `Members.units_allocated`, `Members.units_netTransfers`: what moves between members is not in them.
-/

namespace FundLedger

/-! ## Ascending identifiers -/

section Ascending

variable {kind : IdKind} (ids : List (RecordId kind))

theorem nodup_ascending : (ascending ids).Nodup := by
  have hpairwise := ascending_pairwise RecordId.lt_trans RecordId.lt_of_not_lt_of_ne ids
  refine hpairwise.imp fun hlt heq => ?_
  rw [heq] at hlt
  exact RecordId.lt_irrefl _ hlt

variable {ids}

theorem ascending_perm (h : ids.Nodup) : (ascending ids).Perm ids :=
  (List.perm_ext_iff_of_nodup (nodup_ascending ids) h).mpr fun _ => mem_ascending

end Ascending

/-! ## Totals together -/

/-- Totals as sums over some totals.  What exceeds the funding is that of the whole. -/
def Totals.together (parts : List (Totals Int)) : Totals Int :=
  let sum (f : Totals Int → Int) := (parts.map f).sum
  let floor := max (sum (·.totalFunding)) 0
  { initialAllocation := sum (·.initialAllocation)
    allocationTo := sum (·.allocationTo)
    allocationFrom := sum (·.allocationFrom)
    netTransfers := sum (·.netTransfers)
    encumbered := sum (·.encumbered)
    awaitingPayment := sum (·.awaitingPayment)
    expenditures := sum (·.expenditures)
    credits := sum (·.credits)
    allocated := sum (·.allocated)
    totalFunding := sum (·.totalFunding)
    unavailable := sum (·.unavailable)
    available := sum (·.available)
    cashBalance := sum (·.cashBalance)
    overEncumbrance := max (sum (·.encumbered) - floor) 0
    overExpended := max (sum (·.expenditures) + sum (·.awaitingPayment) - floor) 0 }

/-- The amounts derived from a sum, in any unit. -/
theorem Totals.together_derived {unit : Int} (hunit : 0 ≤ unit) (ms : List (Sums Int)) :
    together (ms.map fun m => m.derived.map (· * unit)) = ms.sum.derived.map (· * unit) := by
  have hplace : ∀ f : Sums Int → Int, f 0 = 0 → (∀ m n, f (m + n) = f m + f n) →
      (ms.map fun m => f m * unit).sum = f ms.sum * unit := by
    intro f h0 hadd
    rw [List.sum_map_mul_right, Sums.sum_apply h0 hadd]
  have hfunding := hplace (fun m => m.derived.totalFunding) rfl fun m n => by simp [Sums.derived]; omega
  have hencumbered := hplace Sums.encumbered rfl fun _ _ => rfl
  have hawaiting := hplace Sums.awaitingPayment rfl fun _ _ => rfl
  have hspent := hplace Sums.expenditures rfl fun _ _ => rfl
  have hexcess : ∀ x funding : Int, max (x * unit - max (funding * unit) 0) 0 = max (x - max funding 0) 0 * unit := by
    intro x funding
    have hmax : ∀ y : Int, max (y * unit) 0 = max y 0 * unit := by
      intro y
      rw [max_mul_of_nonneg y 0 hunit, Int.zero_mul]
    rw [hmax, ← Int.sub_mul, hmax]
  unfold together
  simp only [List.map_map, Function.comp_def]
  ext
  · exact hplace Sums.initialAllocation rfl fun _ _ => rfl
  · exact hplace Sums.allocationTo rfl fun _ _ => rfl
  · exact hplace Sums.allocationFrom rfl fun _ _ => rfl
  · exact hplace Sums.netTransfers rfl fun _ _ => rfl
  · exact hencumbered
  · exact hawaiting
  · exact hspent
  · exact hplace Sums.credits rfl fun _ _ => rfl
  · exact hplace (fun m => m.derived.allocated) rfl fun m n => by simp [Sums.derived]; omega
  · exact hfunding
  · exact hplace (fun m => m.derived.unavailable) rfl fun m n => by simp [Sums.derived]; omega
  · exact hplace (fun m => m.derived.available) rfl fun m n => by simp [Sums.derived]; omega
  · exact hplace (fun m => m.derived.cashBalance) rfl fun m n => by simp [Sums.derived]; omega
  · calc _ = max (ms.sum.encumbered * unit - max (ms.sum.derived.totalFunding * unit) 0) 0 :=
          congrArg₂ (fun x funding => max (x - max funding 0) 0) hencumbered hfunding
      _ = _ := hexcess _ _
  · calc _ = max ((ms.sum.expenditures + ms.sum.awaitingPayment) * unit -
          max (ms.sum.derived.totalFunding * unit) 0) 0 := by
          rw [Int.add_mul]
          exact congrArg₂ (fun x funding => max (x - max funding 0) 0) (congrArg₂ (· + ·) hspent hawaiting) hfunding
      _ = _ := hexcess _ _

/-! ## The two sides -/

namespace Sums

/-- The sums that a group takes from the budgets of its members. -/
def kept (m : Sums Int) : Sums Int := { m with allocationTo := 0, allocationFrom := 0, netTransfers := 0 }

/-- The sums that a group reads off the transactions. -/
def moved (m : Sums Int) : Sums Int :=
  { (0 : Sums Int) with
    allocationTo := m.allocationTo, allocationFrom := m.allocationFrom, netTransfers := m.netTransfers }

theorem kept_add_moved (m : Sums Int) : m.kept + m.moved = m := by
  ext <;> simp [kept, moved]

theorem moved_add (m n : Sums Int) : (m + n).moved = m.moved + n.moved := by
  ext <;> simp [moved]

theorem norm_kept_le (m : Sums Int) : m.kept.norm ≤ m.norm := by
  unfold kept norm
  simp only [Int.natAbs_zero]
  omega

theorem moved_sum (ms : List (Sums Int)) : ms.sum.moved = (ms.map moved).sum := by
  induction ms with
  | nil => rfl
  | cons m rest ih => rw [List.sum_cons, moved_add, ih, List.map_cons, List.sum_cons]

end Sums

namespace Transaction

variable (t : Transaction) (amount : Int) {funds : List FundId}

/-- What the transaction moves on the side of one of its funds if its amount counts as this one; `initial` tells whether
it is the initial allocation. -/
def movement (initial : Bool) (role : FundRole) : Sums Int :=
  match t.kind, role with
  | .allocation, .receiver => { (0 : Sums Int) with allocationTo := if initial then 0 else amount }
  | .allocation, .sender => { (0 : Sums Int) with allocationFrom := amount }
  | .transfer, role | .rolloverTransfer, role => { (0 : Sums Int) with netTransfers := role.sign * amount }
  | _, _ => 0

/-- What the transaction moves into a group of funds and out of it. -/
def movedIn (funds : List FundId) (initial : Bool) : Sums Int :=
  (if t.toFund.any funds.contains then t.movement amount initial .receiver else 0) +
    if t.fromFund.any funds.contains then t.movement amount initial .sender else 0

theorem norm_movement_le (initial : Bool) (role : FundRole) : (t.movement amount initial role).norm ≤ amount.natAbs := by
  unfold movement
  cases t.kind <;> cases role <;> cases initial <;> simp [Sums.norm, FundRole.sign]

theorem norm_movedIn_le (initial : Bool) : (t.movedIn amount funds initial).norm ≤ 2 * amount.natAbs := by
  have hside : ∀ (q : Bool) (role : FundRole),
      (if q then t.movement amount initial role else 0).norm ≤ amount.natAbs := by
    intro q role
    cases q with
    | true => exact t.norm_movement_le amount initial role
    | false => exact Nat.zero_le _
  have hadd := Sums.norm_add_le (if t.toFund.any funds.contains then t.movement amount initial .receiver else 0)
    (if t.fromFund.any funds.contains then t.movement amount initial .sender else 0)
  have hto := hside (t.toFund.any funds.contains) .receiver
  have hfrom := hside (t.fromFund.any funds.contains) .sender
  unfold movedIn
  omega

variable {t amount}

theorem movedIn_of_not_touches {initial : Bool} (h : ∀ fund ∈ funds, t.touches fund = false) :
    t.movedIn amount funds initial = 0 := by
  have hnone : ¬∃ fund ∈ funds, t.touches fund = true := by
    rintro ⟨fund, hfund, htouches⟩
    rw [h fund hfund] at htouches
    cases htouches
  unfold movedIn
  rw [if_neg fun hto => hnone (t.exists_touches_of_receiver hto),
    if_neg fun hfrom => hnone (t.exists_touches_of_sender hfrom)]
  rfl

/-- Only allocations and transfers move anything. -/
theorem movedIn_of_not_funding {initial : Bool} (h : t.kind.isFundingMovement = false) :
    t.movedIn amount funds initial = 0 := by
  have hmovement : ∀ role, t.movement amount initial role = 0 := by
    intro role
    unfold movement
    cases hkind : t.kind <;> rw [hkind] at h <;> cases h
  unfold movedIn
  rw [hmovement, hmovement, ite_self, ite_self]
  rfl

/-- A transaction moves what it contributes to the movements of its funds. -/
theorem moved_contribution (fund : FundId) (initial : Bool) :
    (t.contribution fund initial).moved =
      (if t.toFund == some fund then t.movement t.minorAmount initial .receiver else 0) +
        if t.fromFund == some fund then t.movement t.minorAmount initial .sender else 0 := by
  change _ = (if t.hasRole fund .receiver then _ else 0) + if t.hasRole fund .sender then _ else 0
  unfold contribution movement Sums.moved
  cases t.kind <;> cases t.hasRole fund .receiver <;> cases t.hasRole fund .sender <;> cases initial <;>
    simp [Sums.ext_iff, FundRole.sign, sub_eq_add_neg]

theorem moved_contribution_of_not_touches {fund : FundId} {initial : Bool} (h : t.touches fund = false) :
    (t.contribution fund initial).moved = 0 := by
  obtain ⟨hs, hr⟩ := Bool.or_eq_false_iff.mp h
  rw [moved_contribution]
  change (if t.hasRole fund .receiver then _ else 0) + (if t.hasRole fund .sender then _ else 0) = 0
  rw [hs, hr]
  rfl

/-- What the funds of a group see one by one is what moves into the group and out of it.  Only the receiver looks at
whether the transaction is the initial allocation. -/
theorem sum_moved_contribution (hfunds : funds.Nodup) (initialFor : FundId → Bool) {initial : Bool}
    (hinitial : t.kind = .allocation → ∀ receiver ∈ funds, t.toFund = some receiver → initialFor receiver = initial) :
    (funds.map fun fund => (t.contribution fund (initialFor fund)).moved).sum =
      t.movedIn t.minorAmount funds initial := by
  have hsender : ∀ initial', t.movement t.minorAmount initial' .sender = t.movement t.minorAmount initial .sender := by
    intro initial'
    unfold movement
    cases t.kind <;> rfl
  have hreceiver : ∀ fund ∈ funds, t.toFund = some fund →
      t.movement t.minorAmount (initialFor fund) .receiver = t.movement t.minorAmount initial .receiver := by
    intro fund hfund hto
    by_cases hkind : t.kind = .allocation
    · rw [hinitial hkind fund hfund hto]
    · unfold movement
      cases h : t.kind <;> first | exact absurd h hkind | rfl
  have hsplit : ∀ fund ∈ funds, (t.contribution fund (initialFor fund)).moved =
      (if t.toFund == some fund then t.movement t.minorAmount initial .receiver else 0) +
        if t.fromFund == some fund then t.movement t.minorAmount initial .sender else 0 := by
    intro fund hfund
    rw [moved_contribution, hsender]
    congr 1
    by_cases hto : t.toFund = some fund
    · rw [hreceiver fund hfund hto]
    · rw [beq_false_of_ne hto]
      rfl
  rw [List.map_congr_left hsplit, List.sum_map_add,
    sum_map_roles hfunds t.toFund fun _ => t.movement t.minorAmount initial .receiver,
    sum_map_roles hfunds t.fromFund fun _ => t.movement t.minorAmount initial .sender]
  unfold movedIn
  cases t.toFund <;> cases t.fromFund <;> rfl

end Transaction

/-! ## Adding up -/

section Counts

variable {p : Nat} {s : Sums Decimal} {m : Sums Int}

/-- A member adds what its budget keeps. -/
theorem addMember_counts (hp : p ≤ 28) {b : Budget} {n : Sums Int} (hb : b.totals.Counts p n.derived) (h : s.Counts p m)
    (small : m.norm + n.norm < mantissaLimit) : ∃ s', addMember s b = .ok s' ∧ s'.Counts p (m + n.kept) := by
  have htri := m.norm_add_le n
  have bound := (m + n).rel_natAbs_le_norm
  have room : ∀ {x : Int}, x.natAbs ≤ (m + n).norm → x.natAbs < mantissaLimit := fun hx => by omega
  obtain ⟨initialAllocation, d1, c1⟩ :=
    h.initialAllocation.add hp hb.sums.initialAllocation (room bound.initialAllocation)
  obtain ⟨encumbered, d2, c2⟩ := h.encumbered.add hp hb.sums.encumbered (room bound.encumbered)
  obtain ⟨awaitingPayment, d3, c3⟩ := h.awaitingPayment.add hp hb.sums.awaitingPayment (room bound.awaitingPayment)
  obtain ⟨expenditures, d4, c4⟩ := h.expenditures.add hp hb.sums.expenditures (room bound.expenditures)
  obtain ⟨credits, d5, c5⟩ := h.credits.add hp hb.sums.credits (room bound.credits)
  refine ⟨_, by simp only [addMember, d1, d2, d3, d4, d5, bind, Except.bind]; rfl, ?_⟩
  have hsum : m + n.kept = { m with
      initialAllocation := m.initialAllocation + n.initialAllocation
      encumbered := m.encumbered + n.encumbered
      awaitingPayment := m.awaitingPayment + n.awaitingPayment
      expenditures := m.expenditures + n.expenditures
      credits := m.credits + n.credits } := by
    ext <;> simp [Sums.kept]
  rw [hsum]
  exact ⟨c1, h.allocationTo, h.allocationFrom, h.netTransfers, c2, c3, c4, c5⟩

/-- Adding an amount if it is to be added. -/
theorem Decimal.Counts.add_if (hp : p ≤ 28) {d a : Decimal} {x n : Int} (q : Bool) (hd : d.Counts p x)
    (ha : q = true → a.Counts p n) (small : x.natAbs + n.natAbs < mantissaLimit) :
    ∃ e, (if q then d.add a else pure d) = .ok e ∧ e.Counts p (x + if q then n else 0) := by
  cases q with
  | true => exact hd.add hp (ha rfl) (by omega)
  | false => exact ⟨d, rfl, by simpa using hd⟩

theorem Decimal.Counts.sub_if (hp : p ≤ 28) {d a : Decimal} {x n : Int} (q : Bool) (hd : d.Counts p x)
    (ha : q = true → a.Counts p n) (small : x.natAbs + n.natAbs < mantissaLimit) :
    ∃ e, (if q then d.sub a else pure d) = .ok e ∧ e.Counts p (x - if q then n else 0) := by
  cases q with
  | true => exact hd.sub hp (ha rfl) (by omega)
  | false => exact ⟨d, rfl, by simpa using hd⟩

/-- A funding transaction adds what it moves. -/
theorem addFunding_counts (hp : p ≤ 28) {funds : List FundId} {initial : List TransactionId} {t : Transaction} {n : Int}
    (ha : (∃ fund ∈ funds, t.touches fund = true) → t.amount.Counts p n) (h : s.Counts p m)
    (small : m.norm + 2 * n.natAbs < mantissaLimit) :
    ∃ s', addFunding funds initial s t = .ok s' ∧ s'.Counts p (m + t.movedIn n funds (initial.contains t.id)) := by
  have bound := m.rel_natAbs_le_norm
  have hto : t.toFund.any funds.contains = true → t.amount.Counts p n := fun hreceived =>
    ha (t.exists_touches_of_receiver hreceived)
  have hfrom : t.fromFund.any funds.contains = true → t.amount.Counts p n := fun hsent =>
    ha (t.exists_touches_of_sender hsent)
  have hplace : m.allocationTo.natAbs ≤ m.norm ∧ m.allocationFrom.natAbs ≤ m.norm ∧ m.netTransfers.natAbs ≤ m.norm :=
    ⟨bound.allocationTo, bound.allocationFrom, bound.netTransfers⟩
  clear bound ha
  unfold addFunding Transaction.movedIn Transaction.movement
  change ∃ s', (let received := t.toFund.any funds.contains; let sent := t.fromFund.any funds.contains; _) = _ ∧ _
  generalize t.toFund.any funds.contains = received at hto ⊢
  generalize t.fromFund.any funds.contains = sent at hfrom ⊢
  generalize initial.contains t.id = known
  cases t.kind
  case allocation =>
    obtain ⟨d, hd, hcount⟩ := h.allocationTo.add_if hp (received && !known)
      (fun hq => hto (Bool.and_eq_true_iff.mp hq).1) (by omega)
    obtain ⟨e, he, hcount'⟩ := h.allocationFrom.add_if hp sent hfrom (by omega)
    refine ⟨{ s with allocationTo := d, allocationFrom := e }, ?_, ?_⟩
    · cases received <;> cases known <;> cases sent <;> simp_all [bind, Except.bind, pure, Except.pure]
    · have hsum : m +
          ((if received then { (0 : Sums Int) with allocationTo := if known then 0 else n } else 0) +
            if sent then { (0 : Sums Int) with allocationFrom := n } else 0) =
          { m with
            allocationTo := m.allocationTo + if received && !known then n else 0
            allocationFrom := m.allocationFrom + if sent then n else 0 } := by
        cases received <;> cases known <;> cases sent <;> simp [Sums.ext_iff]
      rw [hsum]
      exact { h with allocationTo := hcount, allocationFrom := hcount' }
  case transfer | rolloverTransfer =>
    have hroom := Int.natAbs_add_le m.netTransfers (if received then n else 0)
    have hamount : (if received then n else 0).natAbs ≤ n.natAbs := by
      split <;> simp
    obtain ⟨d, hd, hcount⟩ := h.netTransfers.add_if hp received hto (by omega)
    obtain ⟨e, he, hcount'⟩ := hcount.sub_if hp sent hfrom (by omega)
    refine ⟨{ s with netTransfers := e }, ?_, ?_⟩
    · cases received <;> cases sent <;> simp_all [bind, Except.bind, pure, Except.pure]
    · have hsum : m + ((if received then
          { (0 : Sums Int) with netTransfers := FundRole.receiver.sign * n } else 0) +
          if sent then { (0 : Sums Int) with netTransfers := FundRole.sender.sign * n } else 0) =
          { m with netTransfers := m.netTransfers + (if received then n else 0) -
              if sent then n else 0 } := by
        cases received <;> cases sent <;> simp [Sums.ext_iff, FundRole.sign, sub_eq_add_neg]
      rw [hsum]
      exact { h with netTransfers := hcount' }
  all_goals exact ⟨s, rfl, by simpa using h⟩

end Counts

/-! ## Members -/

/-- How much room a transaction takes in the sums of a fund. -/
def Transaction.weight (t : Transaction) (fund : FundId) : Nat :=
  (if t.toFund == some fund then t.minorAmount.natAbs else 0) +
    if t.fromFund == some fund then t.minorAmount.natAbs else 0

theorem Transaction.norm_contribution_le_weight (t : Transaction) (fund : FundId) (initial : Bool) :
    (t.contribution fund initial).norm ≤ t.weight fund := by
  change _ ≤ (if t.hasRole fund .receiver then _ else 0) + if t.hasRole fund .sender then _ else 0
  unfold contribution Sums.norm touches
  generalize t.hasRole fund .sender = sent
  generalize t.hasRole fund .receiver = received
  cases t.kind <;> cases sent <;> cases received <;> cases initial <;> simp

theorem Transaction.sum_weight_le (t : Transaction) {funds : List FundId} (hfunds : funds.Nodup) :
    (funds.map t.weight).sum ≤ 2 * t.minorAmount.natAbs := by
  have hside : ∀ role : Option FundId,
      (funds.map fun fund => if role == some fund then t.minorAmount.natAbs else 0).sum ≤ t.minorAmount.natAbs := by
    intro role
    rw [sum_map_roles hfunds role fun _ => t.minorAmount.natAbs]
    cases role with
    | none => exact Nat.zero_le _
    | some fund =>
      simp only [Option.elim]
      split
      · exact Nat.le_refl _
      · exact Nat.zero_le _
  have hto := hside t.toFund
  have hfrom := hside t.fromFund
  unfold weight
  rw [List.sum_map_add]
  omega

/-- Budgets of one fiscal year and one currency, that keep what some transactions leave to them. -/
structure Members (bs : List Budget) (fiscalYear : FiscalYearId) (c : Currency) (txs : List Transaction) : Prop where
  year : ∀ b ∈ bs, b.fiscalYear = fiscalYear
  currency : ∀ b ∈ bs, b.currency = c
  nodup_funds : (bs.map (·.fund)).Nodup
  holds : ∀ b ∈ bs, b.Holds (b.tally txs)
  rounded : ∀ b ∈ bs, ∀ t ∈ b.scope txs, t.amount.Counts c.minorUnits t.minorAmount
  ids : (txs.map (·.id)).Nodup
  small : volume txs < 2 ^ 94

namespace Members

variable {bs bs' : List Budget} {fiscalYear : FiscalYearId} {c : Currency} {txs : List Transaction}

theorem perm (h : Members bs fiscalYear c txs) (hperm : bs.Perm bs') : Members bs' fiscalYear c txs where
  year := fun b hb => h.year b (hperm.mem_iff.mpr hb)
  currency := fun b hb => h.currency b (hperm.mem_iff.mpr hb)
  nodup_funds := (hperm.map _).nodup_iff.mp h.nodup_funds
  holds := fun b hb => h.holds b (hperm.mem_iff.mpr hb)
  rounded := fun b hb => h.rounded b (hperm.mem_iff.mpr hb)
  ids := h.ids
  small := h.small

/-- No transaction takes room in more than two of the budgets. -/
theorem sum_norm_le (h : Members bs fiscalYear c txs) :
    (bs.map fun b => (b.tally txs).norm).sum ≤ 2 * volume txs := by
  have htally : ∀ b ∈ bs, (b.tally txs).norm ≤ ((b.scope txs).map fun t => t.weight b.fund).sum := by
    intro b _
    refine Nat.le_trans (Sums.norm_sum_le _) ?_
    rw [List.map_map]
    exact List.sum_le_sum fun t _ => t.norm_contribution_le_weight b.fund _
  have hzero : ∀ fund (t : Transaction), t.touches fund = false → t.weight fund = 0 := by
    intro fund t htouches
    obtain ⟨hs, hr⟩ := Bool.or_eq_false_iff.mp htouches
    change (if t.hasRole fund .receiver then _ else 0) + (if t.hasRole fund .sender then _ else 0) = 0
    rw [hs, hr]
    rfl
  calc (bs.map fun b => (b.tally txs).norm).sum
      ≤ (bs.map fun b => ((b.scope txs).map fun t => t.weight b.fund).sum).sum := List.sum_le_sum htally
    _ = ((txs.filter fun t => t.fiscalYear == fiscalYear).map fun t => ((bs.map (·.fund)).map t.weight).sum).sum :=
        sum_scopes h.year txs (fun fund t => t.weight fund) hzero
    _ ≤ ((txs.filter fun t => t.fiscalYear == fiscalYear).map fun t => 2 * t.minorAmount.natAbs).sum :=
        List.sum_le_sum fun t _ => t.sum_weight_le h.nodup_funds
    _ = 2 * volume (txs.filter fun t => t.fiscalYear == fiscalYear) := List.sum_map_mul_left _ _ _
    _ ≤ 2 * volume txs := Nat.mul_le_mul_left 2 (volume_le_of_sublist List.filter_sublist)

section Funding

variable {inYear : List Transaction} {funds others : List FundId}

/-- The funding transactions of a year that touch some funds. -/
abbrev fundingOf (others : List FundId) (fiscalYear : FiscalYearId) (txs : List Transaction) : List Transaction :=
  txs.filter fun t => t.fiscalYear == fiscalYear && (t.kind.isFundingMovement && others.any t.touches)

/-- The initial allocation of a member does not depend on what else is known. -/
theorem initialAllocation?_eq (h : Members bs fiscalYear c txs) (hothers : ∀ b ∈ bs, b.fund ∈ others)
    (hperm : inYear.Perm (fundingOf others fiscalYear txs)) {b : Budget} (hb : b ∈ bs) :
    initialAllocation? b.fund inYear = initialAllocation? b.fund (b.scope txs) := by
  have hreceived : receivedAllocations b.fund (fundingOf others fiscalYear txs) =
      receivedAllocations b.fund (b.scope txs) := by
    unfold receivedAllocations Budget.scope
    rw [List.filter_filter, List.filter_filter, h.year b hb]
    refine List.filter_congr fun t _ => ?_
    cases hreceiver : t.hasRole b.fund .receiver with
    | false => simp only [Bool.and_false, Bool.false_and]
    | true =>
      have htouches : t.touches b.fund = true := by
        unfold Transaction.touches
        rw [hreceiver, Bool.or_true]
      have hany : others.any t.touches = true := List.any_eq_true.mpr ⟨b.fund, hothers b hb, htouches⟩
      rw [htouches, hany]
      cases t.kind <;> rfl
  have hreceived' : (receivedAllocations b.fund inYear).Perm (receivedAllocations b.fund (b.scope txs)) :=
    hreceived ▸ hperm.filter _
  have hids : ((receivedAllocations b.fund (b.scope txs)).map (·.id)).Nodup :=
    nodup_receivedAllocations b.fund (h.ids.sublist (List.filter_sublist.map _))
  unfold initialAllocation?
  rw [Transaction.earliest?_perm hids hreceived'.symm]

/-- A transaction has one receiver, and no other has its identifier: it is an initial allocation of the group if it is
that of its receiver. -/
theorem contains_initialAllocations (h : Members bs fiscalYear c txs) (hsub : ∀ t ∈ inYear, t ∈ txs) {t : Transaction}
    (ht : t ∈ txs) {receiver : FundId} (hreceiver : receiver ∈ funds) (hto : t.toFund = some receiver) :
    (some t.id == initialAllocation? receiver inYear) =
      (funds.filterMap fun fund => initialAllocation? fund inYear).contains t.id := by
  rw [Bool.eq_iff_iff, List.contains_iff_mem, List.mem_filterMap, beq_iff_eq]
  constructor
  · exact fun hid => ⟨receiver, hreceiver, hid.symm⟩
  · rintro ⟨fund, -, hid⟩
    obtain ⟨u, hu, huid⟩ := Option.map_eq_some_iff.mp hid
    obtain ⟨humem, hurec⟩ := List.mem_filter.mp (Transaction.earliest?_mem hu)
    obtain rfl : u = t := List.inj_on_of_nodup_map h.ids (hsub u humem) ht huid
    have hufund : u.toFund = some fund := eq_of_beq (Bool.and_eq_true_iff.mp hurec).2
    obtain rfl : receiver = fund := Option.some.inj (hto.symm.trans hufund)
    exact hid.symm

/-- The movements of a member, with its initial allocation found among the transactions of the year. -/
theorem moved_tally (h : Members bs fiscalYear c txs) (hothers : ∀ b ∈ bs, b.fund ∈ others)
    (hperm : inYear.Perm (fundingOf others fiscalYear txs)) {b : Budget} (hb : b ∈ bs) :
    (b.tally txs).moved = ((b.scope txs).map fun t =>
      (t.contribution b.fund (some t.id == initialAllocation? b.fund inYear)).moved).sum := by
  change Sums.moved (List.sum _) = _
  rw [Sums.moved_sum, List.map_map, h.initialAllocation?_eq hothers hperm hb]
  rfl

/-- Transactions that are no funding of the group move nothing in it. -/
theorem sum_movedIn_fundingOf (hfunds : ∀ fund ∈ funds, fund ∈ others) (known : Transaction → Bool) :
    ((fundingOf others fiscalYear txs).map fun t => t.movedIn t.minorAmount funds (known t)).sum =
      ((txs.filter fun t => t.fiscalYear == fiscalYear).map fun t => t.movedIn t.minorAmount funds (known t)).sum := by
  have hunmoved : ∀ t : Transaction, ¬(t.kind.isFundingMovement && others.any t.touches) = true →
      t.movedIn t.minorAmount funds (known t) = 0 := by
    intro t hother
    rw [Bool.and_eq_true, not_and_or, Bool.not_eq_true, Bool.not_eq_true] at hother
    rcases hother with hkind | htouches
    · exact Transaction.movedIn_of_not_funding hkind
    · refine Transaction.movedIn_of_not_touches fun fund hfund => Bool.eq_false_iff.mpr fun ht => ?_
      exact List.any_eq_false.mp htouches fund (hfunds fund hfund) ht
  have hsplit : fundingOf others fiscalYear txs = (txs.filter fun t => t.fiscalYear == fiscalYear).filter
      fun t => t.kind.isFundingMovement && others.any t.touches := by
    rw [List.filter_filter]
    exact List.filter_congr fun t _ => Bool.and_comm ..
  rw [hsplit, sum_map_filter]
  refine congrArg List.sum (List.map_congr_left fun t _ => ?_)
  split
  · rfl
  · rename_i hother
    exact (hunmoved t hother).symm

/-- What the transactions move is what they contribute to the movements of the members. -/
theorem sum_movedIn (h : Members bs fiscalYear c txs) (hothers : ∀ b ∈ bs, b.fund ∈ others)
    (hperm : inYear.Perm (fundingOf others fiscalYear txs)) (hfunds : funds.Perm (bs.map (·.fund))) :
    (inYear.map fun t => t.movedIn t.minorAmount funds
      ((funds.filterMap fun fund => initialAllocation? fund inYear).contains t.id)).sum =
      (bs.map fun b => (b.tally txs).moved).sum := by
  have hsub : ∀ t ∈ inYear, t ∈ txs := fun t ht => List.mem_of_mem_filter (hperm.mem_iff.mp ht)
  have hknown : ∀ fund ∈ funds, fund ∈ others := by
    intro fund hfund
    obtain ⟨b, hb, rfl⟩ := List.mem_map.mp (hfunds.mem_iff.mp hfund)
    exact hothers b hb
  let known (t : Transaction) := (funds.filterMap fun fund => initialAllocation? fund inYear).contains t.id
  let f (fund : FundId) (t : Transaction) := (t.contribution fund (some t.id == initialAllocation? fund inYear)).moved
  calc (inYear.map fun t => t.movedIn t.minorAmount funds (known t)).sum
      = ((fundingOf others fiscalYear txs).map fun t => t.movedIn t.minorAmount funds (known t)).sum := (hperm.map _).sum_eq
    _ = ((txs.filter fun t => t.fiscalYear == fiscalYear).map fun t => t.movedIn t.minorAmount funds (known t)).sum :=
        sum_movedIn_fundingOf hknown known
    _ = ((txs.filter fun t => t.fiscalYear == fiscalYear).map fun t => ((bs.map (·.fund)).map (f · t)).sum).sum := by
        refine congrArg List.sum (List.map_congr_left fun t ht => ?_)
        rw [← (hfunds.map _).sum_eq]
        exact (Transaction.sum_moved_contribution (hfunds.nodup_iff.mpr h.nodup_funds)
          (fun fund => some t.id == initialAllocation? fund inYear)
          fun _ _ hreceiver hto => h.contains_initialAllocations hsub (List.mem_of_mem_filter ht) hreceiver hto).symm
    _ = (bs.map fun b => ((b.scope txs).map (f b.fund)).sum).sum :=
        (sum_scopes h.year txs f fun _ _ => Transaction.moved_contribution_of_not_touches).symm
    _ = (bs.map fun b => (b.tally txs).moved).sum := by
        rw [List.map_congr_left fun b hb => h.moved_tally hothers hperm hb]

/-- The transactions of the year add what they move. -/
theorem foldlM_addFunding (h : Members bs fiscalYear c txs) (hothers : ∀ b ∈ bs, b.fund ∈ others)
    (hperm : inYear.Perm (fundingOf others fiscalYear txs)) (hfunds : funds.Perm (bs.map (·.fund)))
    {s : Sums Decimal} {m : Sums Int} (hs : s.Counts c.minorUnits m) (small : m.norm + 2 * volume txs < mantissaLimit) :
    ∃ s', inYear.foldlM (addFunding funds (funds.filterMap fun fund => initialAllocation? fund inYear)) s = .ok s' ∧
      s'.Counts c.minorUnits (m + (bs.map fun b => (b.tally txs).moved).sum) := by
  have hvolume : (inYear.map fun t => 2 * t.minorAmount.natAbs).sum ≤ 2 * volume txs := by
    rw [(hperm.map _).sum_eq, List.sum_map_mul_left]
    exact Nat.mul_le_mul_left 2 (volume_le_of_sublist List.filter_sublist)
  rw [← h.sum_movedIn hothers hperm hfunds]
  generalize funds.filterMap (fun fund => initialAllocation? fund inYear) = initial
  refine hs.foldlM (fun t _ => t.norm_movedIn_le _ _) (fun t ht s m hs room => ?_) (by omega)
  refine addFunding_counts c.minorUnits_le ?_ hs room
  rintro ⟨fund, hfund, htouches⟩
  obtain ⟨b, hb, rfl⟩ := List.mem_map.mp (hfunds.mem_iff.mp hfund)
  obtain ⟨htxs, hof⟩ := List.mem_filter.mp (hperm.mem_iff.mp ht)
  refine h.rounded b hb t (List.mem_filter.mpr ⟨htxs, ?_⟩)
  rw [h.year b hb, htouches, Bool.and_true]
  exact (Bool.and_eq_true_iff.mp hof).1

end Funding

theorem counts_totals (h : Members bs fiscalYear c txs) {b : Budget} (hb : b ∈ bs) :
    b.totals.Counts c.minorUnits (b.tally txs).derived := by
  rw [← h.currency b hb]
  exact h.holds b hb

/-- The members add what their budgets keep. -/
theorem foldlM_addMember (h : Members bs fiscalYear c txs) :
    ∃ s, bs.foldlM addMember (Sums.replicate .zero) = .ok s ∧
      s.Counts c.minorUnits (bs.map fun b => (b.tally txs).kept).sum := by
  have hstart : (Sums.replicate Decimal.zero).Counts c.minorUnits 0 := (Totals.counts_zero c.minorUnits).sums
  have hroom : Sums.norm 0 + (bs.map fun b => (b.tally txs).norm).sum < mantissaLimit := by
    have hnorm := h.sum_norm_le
    have hsmall := h.small
    have hzero : Sums.norm 0 = 0 := rfl
    unfold mantissaLimit
    omega
  have hmember : ∀ b ∈ bs, ∀ s m, Sums.Counts c.minorUnits s m → m.norm + (b.tally txs).norm < mantissaLimit →
      ∃ s', addMember s b = .ok s' ∧ s'.Counts c.minorUnits (m + (b.tally txs).kept) :=
    fun b hb s m hs room => addMember_counts c.minorUnits_le (h.counts_totals hb) hs room
  have hcost : ∀ b ∈ bs, (b.tally txs).kept.norm ≤ (b.tally txs).norm := fun b _ => Sums.norm_kept_le _
  have hsum := hstart.foldlM hcost hmember hroom
  rwa [zero_add] at hsum

/-- The totals of a group count what its members keep together. -/
theorem groupTotals_counts {links : List GroupFundFiscalYear} {budgets : List Budget} {funding : List Transaction}
    (hbudgets : memberBudgets links budgets = bs) (h : Members bs fiscalYear c txs) {others : List FundId}
    (hothers : ∀ b ∈ bs, b.fund ∈ others)
    (hperm : (funding.filter fun t => t.fiscalYear == fiscalYear).Perm (fundingOf others fiscalYear txs)) :
    ∃ totals, groupTotals links budgets funding fiscalYear = .ok totals ∧
      totals.Counts c.minorUnits (bs.map (Budget.tally · txs)).sum.derived ∧ (bs = [] → totals = .zero) := by
  unfold groupTotals
  rw [hbudgets]
  cases hbs : bs with
  | nil => exact ⟨.zero, rfl, Totals.counts_zero _, fun _ => rfl⟩
  | cons first rest =>
    simp only
    rw [← hbs, h.currency first (hbs ▸ List.mem_cons_self)]
    have hnorm := h.sum_norm_le
    have hsmall := h.small
    have hlimit : mantissaLimit = 4 * 2 ^ 94 := rfl
    have hkept : Sums.norm (bs.map fun b => (b.tally txs).kept).sum ≤ (bs.map fun b => (b.tally txs).norm).sum := by
      refine Nat.le_trans (Sums.norm_sum_le _) ?_
      rw [List.map_map]
      exact List.sum_le_sum fun b _ => Sums.norm_kept_le _
    have htally : Sums.norm (bs.map (Budget.tally · txs)).sum ≤ (bs.map fun b => (b.tally txs).norm).sum := by
      have hle := Sums.norm_sum_le (bs.map (Budget.tally · txs))
      rwa [List.map_map] at hle
    have hfunds := ascending_perm h.nodup_funds
    obtain ⟨fromBudgets, hfold, hcounts⟩ := h.foldlM_addMember
    obtain ⟨sums, hfold', hsums⟩ := h.foldlM_addFunding hothers hperm hfunds hcounts (by omega)
    have hboth : (bs.map fun b => (b.tally txs).kept).sum + (bs.map fun b => (b.tally txs).moved).sum =
        (bs.map (Budget.tally · txs)).sum := by
      rw [← List.sum_map_add]
      exact congrArg List.sum (List.map_congr_left fun b _ => Sums.kept_add_moved (b.tally txs))
    rw [hboth] at hsums
    obtain ⟨totals, hderive, hderived⟩ := hsums.derive c.minorUnits_le (by omega)
    refine ⟨totals.rounded c, ?_, hderived.rounded, fun hnil => absurd (hbs.symm.trans hnil) (List.cons_ne_nil _ _)⟩
    simp only [hfold, hfold', hderive, bind, Except.bind]
    rfl

/-- Everything that moves into the members' funds or out of them is rounded. -/
theorem rounded_of_touches (h : Members bs fiscalYear c txs) (q : Transaction → Bool) :
    ∀ t ∈ txs.filter fun t => t.fiscalYear == fiscalYear && q t, ∀ fund ∈ bs.map (·.fund), t.touches fund = true →
      t.amount.Counts c.minorUnits t.minorAmount := by
  intro t ht fund hfund htouches
  obtain ⟨b, hb, rfl⟩ := List.mem_map.mp hfund
  obtain ⟨hmem, hof⟩ := List.mem_filter.mp ht
  refine h.rounded b hb t (List.mem_filter.mpr ⟨hmem, ?_⟩)
  rw [h.year b hb, htouches, Bool.and_true]
  exact (Bool.and_eq_true_iff.mp hof).1

/-- What is allocated to the members together comes from elsewhere, less what goes elsewhere. -/
theorem units_allocated (h : Members bs fiscalYear c txs) :
    let allocations := txs.filter fun t => t.fiscalYear == fiscalYear && t.kind == .allocation
    (bs.map (Budget.tally · txs)).sum.derived.allocated * Decimal.minorUnit c.minorUnits =
      unitsInto (bs.map (·.fund)) allocations - unitsOutOf (bs.map (·.fund)) allocations := by
  have hplace := Sums.sum_apply (f := fun m => m.derived.allocated) rfl (fun m n => by simp [Sums.derived]; omega)
    (bs.map (Budget.tally · txs))
  rw [List.map_map] at hplace
  have hunits := sum_netAmountIn (h.rounded_of_touches fun t => t.kind == .allocation)
  rw [← sum_allocated h.ids h.year h.nodup_funds] at hunits
  exact (congrArg (· * Decimal.minorUnit c.minorUnits) hplace).trans hunits

/-- What is transferred to the members together. -/
theorem units_netTransfers (h : Members bs fiscalYear c txs) :
    let transfers := txs.filter fun t => t.fiscalYear == fiscalYear && t.isTransfer
    (bs.map (Budget.tally · txs)).sum.netTransfers * Decimal.minorUnit c.minorUnits =
      unitsInto (bs.map (·.fund)) transfers - unitsOutOf (bs.map (·.fund)) transfers := by
  have hplace := Sums.sum_apply (f := Sums.netTransfers) rfl (fun _ _ => rfl) (bs.map (Budget.tally · txs))
  rw [List.map_map] at hplace
  have hunits := sum_netAmountIn (h.rounded_of_touches (·.isTransfer))
  rw [← sum_netTransfers h.year h.nodup_funds] at hunits
  exact (congrArg (· * Decimal.minorUnit c.minorUnits) hplace).trans hunits

end Members

end FundLedger
