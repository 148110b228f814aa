import FundLedger.Proofs.GroupIsolation
import FundLedger.Proofs.WrittenTotals
/-!
# Groups of one fund

The totals of a group are rounded once, after all amounts are added; those of a budget are sums of rounded amounts.  So a
group of one fund reports the totals of the fund's budget as long as its allocations and transfers are in whole minor
units, and else exactly if rounding their sums, and rounding what is derived from them, makes no difference.

* `Budget.unroundedSums`: what the group adds up.
* `AddableAt`: amounts with any number of places that can be added up exactly.
* `summarize_eq_single`, `Budget.groupTotals_counts_unrounded`: the one summary, and its totals.
* `Budget.summarize_single_iff`: when these are the totals of the budget.
-/

namespace FundLedger

open Decimal (nearest minorUnit)

/-! ## More places -/

namespace Decimal

variable {p q : Nat} {a : Decimal} {n : Int}

/-- How many units with more places make one unit. -/
def refinement (p q : Nat) : Int := (10 ^ (q - p) : Nat)

theorem refinement_pos (p q : Nat) : 0 < refinement p q := Int.natCast_pos.mpr (Nat.pow_pos (by decide))

theorem minorUnit_eq_refinement_mul (hpq : p ≤ q) (hq : q ≤ 28) : minorUnit p = refinement p q * minorUnit q :=
  minorUnit_split hpq hq

/-- The number of units with more places. -/
theorem counts_signedAt (ha : a.scale ≤ q) (hq : q ≤ 28) : Counts q a (a.signedAt q) := (signedAt_mul_minorUnit a ha hq).symm

end Decimal

open Decimal (refinement)

theorem Totals.Counts.refine {p q : Nat} {t : Totals Decimal} {m : Sums Int} (h : t.Counts p m.derived) (hpq : p ≤ q)
    (hq : q ≤ 28) : t.Counts q (m.map (· * refinement p q)).derived := by
  rw [Totals.counts_iff] at h ⊢
  rw [h, Totals.derived_map_mul m (Decimal.refinement_pos p q).le, Decimal.minorUnit_eq_refinement_mul hpq hq]
  simp only [← Int.mul_assoc]
  rfl

theorem Sums.norm_map_mul (m : Sums Int) (r : Int) : (m.map (· * r)).norm = m.norm * r.natAbs := by
  unfold norm map
  simp only [Int.natAbs_mul, Nat.add_mul]

/-- A rounded amount is at most twice the amount. -/
theorem Transaction.natAbs_minorAmount_mul_le {t : Transaction} {q : Nat} (hpq : t.currency.minorUnits ≤ q) (hq : q ≤ 28)
    (hscale : t.amount.scale ≤ q) :
    t.minorAmount.natAbs * (refinement t.currency.minorUnits q).natAbs ≤ 2 * (t.amount.signedAt q).natAbs := by
  have hnearest : t.minorAmount = nearest t.currency.minorUnits t.amount.units :=
    t.counts_roundedAmount.unique (Decimal.counts_round t.amount t.currency.minorUnits_le)
  obtain ⟨hle, hge⟩ := Decimal.nearest_error t.currency.minorUnits t.amount.units
  rw [← hnearest, Decimal.minorUnit_eq_refinement_mul hpq hq, Decimal.counts_signedAt hscale hq] at hle hge
  have hpos := Decimal.minorUnit_pos q
  have hr := Decimal.refinement_pos t.currency.minorUnits q
  generalize t.amount.signedAt q = k at hle hge ⊢
  generalize refinement t.currency.minorUnits q = r at hle hge hr ⊢
  rw [← Int.natAbs_mul]
  have hle' : 2 * k ≤ 2 * (t.minorAmount * r) + r := Int.le_of_mul_le_mul_right (by linarith) hpos
  have hge' : 2 * (t.minorAmount * r) ≤ 2 * k + r := Int.le_of_mul_le_mul_right (by linarith) hpos
  -- what is not rounded to nothing is at least one minor unit when it is rounded
  have hone : t.minorAmount * r = 0 ∨ r ≤ (t.minorAmount * r).natAbs := by
    rcases eq_or_ne t.minorAmount 0 with h0 | hne
    · exact .inl (by rw [h0, Int.zero_mul])
    · right
      rw [Int.natAbs_mul, Int.natCast_mul, Int.natAbs_of_nonneg hr.le]
      exact le_mul_of_one_le_left hr.le (by omega)
  omega

/-! ## Amounts that can be added up -/

/-- Amounts with at most so many places, no fewer than the minor unit has, which together are far from the largest
decimal. -/
structure AddableAt (places : Nat) (c : Currency) (txs : List Transaction) : Prop where
  minorUnits_le : c.minorUnits ≤ places
  le : places ≤ 28
  scale : ∀ t ∈ txs, t.amount.scale ≤ places
  small : (txs.map fun t => (t.amount.signedAt places).natAbs).sum < 2 ^ 93

theorem AddableAt.volume_mul_le {q : Nat} {c : Currency} {txs : List Transaction} (h : AddableAt q c txs)
    (hcurrency : ∀ t ∈ txs, t.currency = c) :
    volume txs * (refinement c.minorUnits q).natAbs ≤ 2 * (txs.map fun t => (t.amount.signedAt q).natAbs).sum := by
  unfold volume
  rw [← List.sum_map_mul_right, ← List.sum_map_mul_left]
  refine List.sum_le_sum fun t ht => ?_
  have hle := hcurrency t ht ▸ h.minorUnits_le
  have hmul := Transaction.natAbs_minorAmount_mul_le hle h.le (h.scale t ht)
  rwa [hcurrency t ht] at hmul

/-! ## Movements in any unit -/

namespace Sums

theorem map_mul_zero (unit : Int) : (0 : Sums Int).map (· * unit) = 0 := by
  ext <;> exact Int.zero_mul unit

theorem map_mul_add (m n : Sums Int) (unit : Int) : (m + n).map (· * unit) = m.map (· * unit) + n.map (· * unit) := by
  ext <;> exact Int.add_mul ..

theorem map_mul_sum (ms : List (Sums Int)) (unit : Int) :
    ms.sum.map (· * unit) = (ms.map fun m => m.map (· * unit)).sum := by
  induction ms with
  | nil => exact map_mul_zero unit
  | cons m rest ih => rw [List.sum_cons, map_mul_add, ih, List.map_cons, List.sum_cons]

theorem kept_map_mul (m : Sums Int) (unit : Int) : (m.map (· * unit)).kept = m.kept.map (· * unit) := by
  ext <;> simp [kept, map]

end Sums

namespace Transaction

variable (t : Transaction)

theorem movedIn_mul (amount unit : Int) (funds : List FundId) (initial : Bool) :
    t.movedIn (amount * unit) funds initial = (t.movedIn amount funds initial).map (· * unit) := by
  have hmovement : ∀ role, t.movement (amount * unit) initial role = (t.movement amount initial role).map (· * unit) := by
    intro role
    unfold movement
    cases t.kind <;> cases role <;> cases initial <;> simp [Sums.map, Sums.ext_iff, FundRole.sign]
  have hside : ∀ (q : Bool) (role : FundRole), (if q then t.movement (amount * unit) initial role else 0) =
      (if q then t.movement amount initial role else 0).map (· * unit) := by
    intro q role
    cases q with
    | true => exact hmovement role
    | false => exact (Sums.map_mul_zero unit).symm
  unfold movedIn
  rw [hside, hside, Sums.map_mul_add]

/-- The movements of a fund on its own. -/
theorem movedIn_singleton (fund : FundId) (initial : Bool) :
    t.movedIn t.minorAmount [fund] initial = (t.contribution fund initial).moved := by
  have hany : ∀ role : Option FundId, role.any [fund].contains = (role == some fund) := by
    intro role
    cases role with
    | none => rfl
    | some holder =>
      rw [Option.any_some, List.contains_cons, List.contains_nil, Bool.or_false]
      rfl
  unfold movedIn
  rw [moved_contribution, hany, hany]

end Transaction

/-! ## The group -/

section Group

variable {b : Budget} {link : GroupFundFiscalYear} {txs : List Transaction}

theorem memberBudgets_single (h : link.standsFor b = true) : memberBudgets [link] [b] = [b] := by
  have hfind : link.budgetIn? [b] = some b := by
    rw [GroupFundFiscalYear.budgetIn?_eq_find?, List.find?_cons_of_pos h]
  unfold memberBudgets
  simp only [List.filterMap_cons, List.filterMap_nil, hfind]
  rfl

/-- A single link has a single summary. -/
theorem summarize_single (link : GroupFundFiscalYear) (budgets : List Budget) (funding : List Transaction) :
    summarize [link] budgets funding =
      (groupTotals [link] budgets funding link.fiscalYear).map fun totals => [⟨link.group, link.fiscalYear, totals⟩] := by
  have hkeys : ascending ([link].map (·.groupYear)) = [link.groupYear] := rfl
  have hlinks : [link].filter (fun l => l.groupYear == link.groupYear) = [link] := by simp
  unfold summarize
  rw [hkeys, List.mapM_cons, List.mapM_nil, hlinks]
  dsimp only [GroupFundFiscalYear.groupYear]
  cases groupTotals [link] budgets funding link.fiscalYear <;> rfl

namespace Budget

/-- The sums of a budget, but allocations other than the initial one and transfers are added up at full precision. -/
def unroundedSums (b : Budget) (txs : List Transaction) : Sums Int :=
  (b.totals.toSums.map Decimal.units).kept +
    ((b.scope txs).map fun t =>
      t.movedIn t.amount.units [b.fund] (some t.id == initialAllocation? b.fund (b.scope txs))).sum

/-- Of the funding, a fund on its own is concerned by what is in the scope of its budget. -/
theorem groupTotals_scope (h : link.standsFor b = true) (q : Transaction → Bool) :
    groupTotals [link] [b] (txs.filter q) b.fiscalYear = groupTotals [link] [b] ((b.scope txs).filter q) b.fiscalYear := by
  refine groupTotals_congr rfl fun funds hfunds => ?_
  rw [memberBudgets_single h] at hfunds
  obtain rfl : funds = [b.fund] := hfunds
  unfold scope
  simp only [List.filter_filter]
  refine List.filter_congr fun t _ => ?_
  simp only [List.any_cons, List.any_nil, Bool.or_false]
  cases t.touches b.fund <;> cases t.fiscalYear == b.fiscalYear <;> simp

/-- Every initial allocation is among the funding. -/
theorem initialAllocation?_funding (fund : FundId) (txs : List Transaction) :
    initialAllocation? fund (txs.filter (·.kind.isFundingMovement)) = initialAllocation? fund txs := by
  have hreceived : receivedAllocations fund (txs.filter (·.kind.isFundingMovement)) = receivedAllocations fund txs := by
    unfold receivedAllocations
    rw [List.filter_filter]
    refine List.filter_congr fun t _ => ?_
    cases t.kind <;> cases t.hasRole fund .receiver <;> rfl
  unfold initialAllocation?
  rw [hreceived]

theorem contains_initialAllocation? (fund : FundId) (txs : List Transaction) (id : TransactionId) :
    ([fund].filterMap (initialAllocation? · txs)).contains id = (some id == initialAllocation? fund txs) := by
  rw [List.filterMap_cons, List.filterMap_nil]
  cases initialAllocation? fund txs with
  | none => rfl
  | some first =>
    rw [List.contains_cons, List.contains_nil, Bool.or_false]
    rfl

/-- What is no funding moves nothing. -/
theorem sum_movedIn_funding (txs : List Transaction) (amount : Transaction → Int) (funds : List FundId)
    (initial : Transaction → Bool) :
    ((txs.filter (·.kind.isFundingMovement)).map fun t => t.movedIn (amount t) funds (initial t)).sum =
      (txs.map fun t => t.movedIn (amount t) funds (initial t)).sum := by
  rw [sum_map_filter]
  refine congrArg List.sum (List.map_congr_left fun t _ => ?_)
  split
  · rfl
  · rename_i hkind
    exact (Transaction.movedIn_of_not_funding (Bool.eq_false_iff.mpr hkind)).symm

theorem norm_sum_movedIn_le (txs : List Transaction) (amount : Transaction → Int) (funds : List FundId)
    (initial : Transaction → Bool) :
    Sums.norm (txs.map fun t => t.movedIn (amount t) funds (initial t)).sum ≤
      2 * (txs.map fun t => (amount t).natAbs).sum := by
  refine Nat.le_trans (Sums.norm_sum_le _) ?_
  rw [List.map_map, ← List.sum_map_mul_left]
  exact List.sum_le_sum fun t _ => t.norm_movedIn_le _ _

/-- The funding of a fund on its own, added to some sums. -/
theorem foldlM_addFunding_counts {q : Nat} {s : Sums Decimal} {m : Sums Int} (hexact : AddableAt q b.currency (b.scope txs))
    (hs : s.Counts q m)
    (room : m.norm + 2 * ((b.scope txs).map fun t => (t.amount.signedAt q).natAbs).sum < mantissaLimit) :
    let funding := (b.scope txs).filter (·.kind.isFundingMovement)
    ∃ s', funding.foldlM (addFunding [b.fund] ([b.fund].filterMap (initialAllocation? · funding))) s = .ok s' ∧
      s'.Counts q (m + ((b.scope txs).map fun t =>
        t.movedIn (t.amount.signedAt q) [b.fund] (some t.id == initialAllocation? b.fund (b.scope txs))).sum) := by
  intro funding
  have hcost : (funding.map fun t => 2 * (t.amount.signedAt q).natAbs).sum ≤
      2 * ((b.scope txs).map fun t => (t.amount.signedAt q).natAbs).sum := by
    rw [List.sum_map_mul_left]
    exact Nat.mul_le_mul_left 2 ((List.filter_sublist.map _).sum_le_sum fun _ _ => Nat.zero_le _)
  have hinitial : ∀ t : Transaction, ([b.fund].filterMap (initialAllocation? · funding)).contains t.id =
      (some t.id == initialAllocation? b.fund (b.scope txs)) := by
    intro t
    rw [contains_initialAllocation?, initialAllocation?_funding]
  have hnorm : ∀ t ∈ funding, (t.movedIn (t.amount.signedAt q) [b.fund]
      (some t.id == initialAllocation? b.fund (b.scope txs))).norm ≤ 2 * (t.amount.signedAt q).natAbs :=
    fun t _ => t.norm_movedIn_le _ _
  rw [← sum_movedIn_funding]
  refine hs.foldlM hnorm (fun t ht s m hs room => ?_) (by omega)
  rw [← hinitial]
  have hscale := hexact.scale t (List.mem_of_mem_filter ht)
  exact addFunding_counts hexact.le (fun _ => Decimal.counts_signedAt hscale hexact.le) hs room

/-- In units with so many places, the sums that are not rounded are what the budget keeps and what its transactions move. -/
theorem unroundedSums_eq {q : Nat} {m : Sums Int} (hcounts : b.totals.Counts q m.derived) (hq : q ≤ 28)
    (hscale : ∀ t ∈ b.scope txs, t.amount.scale ≤ q) :
    b.unroundedSums txs = (m.kept + ((b.scope txs).map fun t =>
      t.movedIn (t.amount.signedAt q) [b.fund] (some t.id == initialAllocation? b.fund (b.scope txs))).sum).map
        (· * minorUnit q) := by
  have hsums : b.totals.toSums.map Decimal.units = m.map (· * minorUnit q) :=
    congrArg Totals.toSums (Totals.counts_iff.mp hcounts)
  unfold unroundedSums
  rw [Sums.map_mul_add, Sums.map_mul_sum, List.map_map, ← Sums.kept_map_mul, ← hsums]
  refine congrArg₂ (· + ·) rfl (congrArg List.sum (List.map_congr_left fun t ht => ?_))
  rw [Function.comp_apply, ← Transaction.movedIn_mul, Decimal.signedAt_mul_minorUnit t.amount (hscale t ht) hq]

/-- The totals of a group of one fund are the rounded values of what is derived from the sums that are not rounded. -/
theorem groupTotals_counts_unrounded {q : Nat} (hlink : link.standsFor b = true) (hholds : b.Holds (b.tally txs))
    (hcurrency : ∀ t ∈ b.scope txs, t.currency = b.currency) (hexact : AddableAt q b.currency (b.scope txs)) :
    ∃ totals, groupTotals [link] [b] (txs.filter (·.kind.isFundingMovement)) b.fiscalYear = .ok totals ∧
      totals.Counts b.currency.minorUnits ((b.unroundedSums txs).derived.map (nearest b.currency.minorUnits)) := by
  let m := (b.tally txs).map (· * refinement b.currency.minorUnits q)
  have hcounts : b.totals.Counts q m.derived := Totals.Counts.refine hholds hexact.minorUnits_le hexact.le
  have hsmall := hexact.small
  have hnorm : m.norm ≤ 4 * ((b.scope txs).map fun t => (t.amount.signedAt q).natAbs).sum := by
    have hvolume := hexact.volume_mul_le hcurrency
    have htally := Nat.mul_le_mul_right (refinement b.currency.minorUnits q).natAbs (norm_tally_le b.fund (b.scope txs))
    rw [Nat.mul_assoc] at htally
    rw [Sums.norm_map_mul]
    exact Nat.le_trans htally (by omega)
  have hyear : ((b.scope txs).filter (·.kind.isFundingMovement)).filter (fun t => t.fiscalYear == b.fiscalYear) =
      (b.scope txs).filter (·.kind.isFundingMovement) := by
    refine List.filter_eq_self.mpr fun t ht => ?_
    exact (Bool.and_eq_true_iff.mp (List.mem_filter.mp (List.mem_of_mem_filter ht)).2).1
  have hstart : (Sums.replicate Decimal.zero).Counts q 0 := (Totals.counts_zero q).sums
  obtain ⟨kept, hkept, hkeptCounts⟩ := addMember_counts hexact.le hcounts hstart (by
    change 0 + m.norm < mantissaLimit
    unfold mantissaLimit
    omega)
  rw [zero_add] at hkeptCounts
  have hkeptNorm := m.norm_kept_le
  have hlimit : mantissaLimit = 8 * 2 ^ 93 := rfl
  obtain ⟨sums, hfold, hsums⟩ := foldlM_addFunding_counts hexact hkeptCounts (by omega)
  have hmoved := norm_sum_movedIn_le (b.scope txs) (fun t => t.amount.signedAt q) [b.fund]
    fun t => some t.id == initialAllocation? b.fund (b.scope txs)
  obtain ⟨totals, hderive, hderived⟩ := hsums.derive hexact.le (Nat.lt_of_le_of_lt (Sums.norm_add_le _ _) (by omega))
  refine ⟨totals.rounded b.currency, ?_, ?_⟩
  · have hmembers : [b].foldlM addMember (Sums.replicate .zero) = .ok kept := by
      rw [List.foldlM_cons, hkept]
      rfl
    have hfunds : ascending ([b].map (·.fund)) = [b.fund] := rfl
    rw [groupTotals_scope hlink]
    unfold groupTotals
    rw [memberBudgets_single hlink]
    simp only [hyear, hmembers, hfunds, hfold, hderive, bind, Except.bind]
    rfl
  · have hvalues : totals.values = (b.unroundedSums txs).derived := by
      rw [Totals.counts_iff.mp hderived, unroundedSums_eq hcounts hexact.le hexact.scale,
        Totals.derived_map_mul _ (Decimal.minorUnit_pos q).le]
    rw [← hvalues]
    exact totals.counts_rounded b.currency

/-- Rounding changes nothing about allocations and transfers in whole minor units. -/
theorem unroundedSums_of_whole (hholds : b.Holds (b.tally txs)) (hcurrency : ∀ t ∈ b.scope txs, t.currency = b.currency)
    (hwhole : ∀ t ∈ b.scope txs, t.kind.isFundingMovement = true → ∃ n, t.amount.Counts b.currency.minorUnits n) :
    b.unroundedSums txs = (b.tally txs).map (· * minorUnit b.currency.minorUnits) := by
  have hsums : b.totals.toSums.map Decimal.units = (b.tally txs).map (· * minorUnit b.currency.minorUnits) :=
    congrArg Totals.toSums (Totals.counts_iff.mp hholds)
  have hmoved : ∀ t ∈ b.scope txs, ∀ initial, t.movedIn t.amount.units [b.fund] initial =
      (t.contribution b.fund initial).moved.map (· * minorUnit b.currency.minorUnits) := by
    intro t ht initial
    rw [← t.movedIn_singleton, ← t.movedIn_mul]
    cases hkind : t.kind.isFundingMovement with
    | false => rw [Transaction.movedIn_of_not_funding hkind, Transaction.movedIn_of_not_funding hkind]
    | true =>
      obtain ⟨n, hn⟩ := hwhole t ht hkind
      have hrounded : t.roundedAmount.Counts b.currency.minorUnits t.minorAmount := by
        rw [← hcurrency t ht]
        exact t.counts_roundedAmount
      have hround : t.roundedAmount.Counts b.currency.minorUnits n := by
        unfold Transaction.roundedAmount
        rw [hcurrency t ht]
        exact hn.round
      rw [hrounded.unique hround, ← hn]
  have htally : (b.tally txs).moved = ((b.scope txs).map fun t =>
      (t.contribution b.fund (some t.id == initialAllocation? b.fund (b.scope txs))).moved).sum := by
    change Sums.moved (List.sum _) = _
    rw [Sums.moved_sum, List.map_map]
    rfl
  unfold unroundedSums
  rw [hsums, List.map_congr_left fun t ht => hmoved t ht _, Sums.kept_map_mul]
  conv_rhs => rw [← Sums.kept_add_moved (b.tally txs), Sums.map_mul_add, htally, Sums.map_mul_sum, List.map_map]
  rfl

/-- A budget that reflects its transactions holds their tally. -/
theorem Reflects.holds {q : Nat} (h : b.Reflects txs) (hids : (txs.map (·.id)).Nodup)
    (hcurrency : ∀ t ∈ b.scope txs, t.currency = b.currency) (hexact : AddableAt q b.currency (b.scope txs)) :
    b.Holds (b.tally txs) := by
  have hscope : b.scope (b.scope txs) = b.scope txs := by
    unfold scope
    rw [List.filter_filter]
    exact List.filter_congr fun t _ => Bool.and_self _
  have hcount : b.Countable (b.scope txs) := by
    refine ⟨fun t ht => hcurrency t (hscope ▸ ht), hids.sublist (List.filter_sublist.map _), ?_⟩
    have hvolume := hexact.volume_mul_le hcurrency
    have hpos := Int.natAbs_pos.mpr (Decimal.refinement_pos b.currency.minorUnits q).ne'
    have hle := Nat.le_mul_of_pos_right (volume (b.scope txs)) hpos
    have hsmall := hexact.small
    omega
  have hreflects : b.Reflects (b.scope txs) := by
    obtain ⟨t, ht, hequiv⟩ := h
    exact ⟨t, (recompute_of_scope_eq hscope).trans ht, hequiv⟩
  have hholds := (reflects_iff hcount).mp hreflects
  unfold tally at hholds ⊢
  rwa [hscope] at hholds

/-- A group of one fund has one summary.  Its totals are the rounded values of what is derived from the sums that are not
rounded.  They are the totals of the fund's budget exactly if rounding these sums comes to the sums of the rounded
amounts, and rounding what is derived from them to what is derived from the rounded sums; and so they are if the
allocations and transfers of the fund are in whole minor units. -/
theorem summarize_single_iff {q : Nat} (hlink : link.standsFor b = true) (hyear : link.fiscalYear = b.fiscalYear)
    (hids : (txs.map (·.id)).Nodup) (hcurrency : ∀ t ∈ b.scope txs, t.currency = b.currency)
    (hexact : AddableAt q b.currency (b.scope txs)) (hreflects : b.Reflects txs) :
    let p := b.currency.minorUnits
    let u := b.unroundedSums txs
    ∃ totals, summarize [link] [b] (txs.filter (·.kind.isFundingMovement)) =
        .ok [⟨link.group, link.fiscalYear, totals⟩] ∧
      totals.Counts p (u.derived.map (nearest p)) ∧
      (totals ≈ b.totals ↔
        u.map (nearest p) = b.tally txs ∧ (u.map (nearest p)).derived = u.derived.map (nearest p)) ∧
      ((∀ t ∈ b.scope txs, t.kind.isFundingMovement = true → ∃ n, t.amount.Counts p n) → totals ≈ b.totals) := by
  intro p u
  have hholds := hreflects.holds hids hcurrency hexact
  obtain ⟨totals, htotals, hcounts⟩ := groupTotals_counts_unrounded hlink hholds hcurrency hexact
  have hiff : totals ≈ b.totals ↔ u.derived.map (nearest p) = (b.tally txs).derived :=
    Totals.Counts.equiv_iff hcounts hholds
  refine ⟨totals, ?_, hcounts, ?_, ?_⟩
  · rw [summarize_single, hyear, htotals]
    rfl
  · rw [hiff]
    constructor
    · intro h
      have hsums : u.map (nearest p) = b.tally txs := congrArg Totals.toSums h
      exact ⟨hsums, by rw [hsums, h]⟩
    · rintro ⟨hsums, hderived⟩
      rw [← hderived, hsums]
  · intro hwhole
    have hu : u = (b.tally txs).map (· * minorUnit p) := unroundedSums_of_whole hholds hcurrency hwhole
    rw [hiff, hu, Totals.derived_map_mul _ (Decimal.minorUnit_pos p).le, Totals.map_nearest_map_mul]

/-- A hundred dollars allocated to a fund, and twice a little more than half a cent. -/
def smallAllocations : List Transaction :=
  let allocation (id : TransactionId) (amount : Decimal) (second : Int) : Transaction :=
    { Transaction.create id .allocation amount .usd 9 ⟨second, 0⟩ with toFund := some 1 }
  [allocation 21 100.00 0, allocation 22 0.006 60, allocation 23 0.006 120]

/-- The budget of the fund, with two more cents. -/
def afterSmallAllocations : Budget :=
  { Budget.create 11 "books" 1 9 .usd with
    totals := { Totals.zero with
      initialAllocation := 100.00, allocationTo := 0.02, allocated := 100.02, totalFunding := 100.02,
      available := 100.02, cashBalance := 100.02 } }

/-- Its group has one cent more. -/
theorem summarize_single_smallAllocations :
    afterSmallAllocations.Reflects smallAllocations ∧
      ∃ totals, summarize [.create 51 52 1 9] [afterSmallAllocations]
          (smallAllocations.filter (·.kind.isFundingMovement)) = .ok [⟨52, 9, totals⟩] ∧
        totals.allocationTo ≈ 0.01 ∧ ¬totals ≈ afterSmallAllocations.totals := by
  have hreflects : afterSmallAllocations.Reflects smallAllocations := ⟨_, rfl, by decide⟩
  have hexact : AddableAt 3 afterSmallAllocations.currency (afterSmallAllocations.scope smallAllocations) :=
    ⟨by decide, by decide, by decide, by decide⟩
  have hlink : (GroupFundFiscalYear.create 51 52 1 9).standsFor afterSmallAllocations = true := by decide
  obtain ⟨totals, hsummary, hcounts, hiff, -⟩ :=
    summarize_single_iff hlink rfl (by decide) (by decide) hexact hreflects
  refine ⟨hreflects, totals, hsummary, ?_, ?_⟩
  · have hvalue : totals.allocationTo.units = _ := congrArg (fun t => t.allocationTo) (Totals.counts_iff.mp hcounts)
    rw [Decimal.equiv_iff, hvalue]
    decide +kernel
  · rw [hiff]
    decide +kernel

end Budget

end Group

end FundLedger
