import FundLedger.Proofs.Tally
/-!
# Recomputed totals

The totals that are recomputed from some transactions are those of their tally.  So whether a budget reflects its
transactions depends on the tally alone: not on the order of the transactions, nor on what became of reserved money.

* `Budget.Countable`: transactions that can be counted in the currency of a budget.
* `Budget.Reflects`: the totals of a budget are those of its transactions.
* `sumScope_counts`, `Budget.recompute_counts`: recomputed totals are those of the tally.
* `Budget.reflects_iff`: a budget reflects its transactions exactly if it holds their tally.
-/

namespace FundLedger

/-- The sum over the members with some property, as a sum over all. -/
theorem sum_map_filter {α M : Type} [AddCommMonoid M] (q : α → Bool) (f : α → M) (l : List α) :
    ((l.filter q).map f).sum = (l.map fun a => if q a then f a else 0).sum := by
  rw [List.sum_map_ite]
  simp

/-! ## Sums over the scope -/

section SumScope

variable {c : Currency} {fund : FundId} {txs : List Transaction}

/-- The amounts of the transactions with some property. -/
theorem counts_sumRounded (q : Transaction → Bool) (hcurrency : ∀ t ∈ txs, t.currency = c)
    (small : volume txs < mantissaLimit) :
    ∃ d, sumRounded (txs.filter q) = .ok d ∧
      d.Counts c.minorUnits (txs.map fun t => if q t then t.minorAmount else 0).sum := by
  have hcounts : ∀ t ∈ txs.filter q, t.roundedAmount.Counts c.minorUnits t.minorAmount := by
    intro t ht
    rw [← hcurrency t (List.mem_of_mem_filter ht)]
    exact t.counts_roundedAmount
  rw [← sum_map_filter]
  exact Decimal.counts_sum c.minorUnits_le hcounts
    (Nat.lt_of_le_of_lt (volume_le_of_sublist List.filter_sublist) small)

theorem transferEntries_eq (fund : FundId) (t : Transaction) :
    transferEntries fund t = (t.roles fund).reverse.map fun role => role.signed t.roundedAmount := by
  unfold transferEntries Transaction.roles
  cases hr : t.hasRole fund .receiver <;> cases hs : t.hasRole fund .sender <;> simp [hr, hs, FundRole.signed]

/-- What a transfer contributes to the net transfers of a fund. -/
def Transaction.netAmount (t : Transaction) (fund : FundId) : Int :=
  (if t.hasRole fund .receiver then t.minorAmount else 0) - (if t.hasRole fund .sender then t.minorAmount else 0)

theorem sum_signs (fund : FundId) (t : Transaction) :
    ((t.roles fund).reverse.map fun role => role.sign * t.minorAmount).sum = t.netAmount fund := by
  unfold Transaction.netAmount Transaction.roles
  cases hr : t.hasRole fund .receiver <;> cases hs : t.hasRole fund .sender <;> simp [hr, hs, FundRole.sign]

theorem sum_natAbs_signs_le (fund : FundId) (t : Transaction) :
    ((t.roles fund).reverse.map fun role => (role.sign * t.minorAmount).natAbs).sum ≤ 2 * t.minorAmount.natAbs := by
  unfold Transaction.roles
  cases hr : t.hasRole fund .receiver <;> cases hs : t.hasRole fund .sender <;> simp [hr, hs, FundRole.sign] <;> omega

/-- The net amounts of some transactions. -/
theorem counts_transferEntries (fund : FundId) (hcurrency : ∀ t ∈ txs, t.currency = c) (small : 2 * volume txs < mantissaLimit) :
    ∃ d, Decimal.sum (txs.flatMap (transferEntries fund)) = .ok d ∧
      d.Counts c.minorUnits (txs.map (·.netAmount fund)).sum := by
  -- one entry for each side that the fund is on
  let sides := txs.flatMap fun t => (t.roles fund).reverse.map fun role => (t, role)
  have hentries : txs.flatMap (transferEntries fund) = sides.map fun s => s.2.signed s.1.roundedAmount := by
    simp only [sides, List.map_flatMap, List.map_map]
    exact congrArg (txs.flatMap ·) (funext (transferEntries_eq fund))
  have hsum : (sides.map fun s => s.2.sign * s.1.minorAmount).sum = (txs.map (·.netAmount fund)).sum := by
    simp only [sides, List.flatMap_def, List.map_flatten, List.map_map, List.sum_flatten, Function.comp_def]
    exact congrArg List.sum (List.map_congr_left fun t _ => sum_signs fund t)
  have hroom : (sides.map fun s => (s.2.sign * s.1.minorAmount).natAbs).sum ≤ 2 * volume txs := by
    simp only [sides, List.flatMap_def, List.map_flatten, List.map_map, List.sum_flatten, Function.comp_def]
    unfold volume
    rw [← List.sum_map_mul_left]
    exact List.sum_le_sum fun t _ => sum_natAbs_signs_le fund t
  have hcounts : ∀ s ∈ sides, (s.2.signed s.1.roundedAmount).Counts c.minorUnits (s.2.sign * s.1.minorAmount) := by
    intro s hs
    obtain ⟨t, ht, hs⟩ := List.mem_flatMap.mp hs
    obtain ⟨role, -, rfl⟩ := List.mem_map.mp hs
    rw [← hcurrency t ht]
    exact role.counts_signed t.counts_roundedAmount
  rw [hentries, ← hsum]
  exact Decimal.counts_sum c.minorUnits_le hcounts (by omega)

/-- One place of the tally. -/
theorem tally_apply (f : Sums Int → Int) (h0 : f 0 = 0) (hadd : ∀ m n, f (m + n) = f m + f n) {g : Transaction → Int}
    (hg : ∀ t ∈ txs, f (t.contribution fund (some t.id == initialAllocation? fund txs)) = g t) :
    f (tally fund txs) = (txs.map g).sum := by
  unfold tally
  rw [Sums.sum_apply h0 hadd, List.map_map]
  exact congrArg List.sum (List.map_congr_left hg)

/-- The sums over transactions of one currency that all touch the fund are counted by the tally. -/
theorem sumScope_counts (hcurrency : ∀ t ∈ txs, t.currency = c) (htouches : ∀ t ∈ txs, t.touches fund = true)
    (small : volume txs < 2 ^ 94) :
    ∃ s, Budget.sumScope fund txs = .ok s ∧ s.Counts c.minorUnits (tally fund txs) := by
  have room : volume txs < mantissaLimit := by
    unfold mantissaLimit
    omega
  let ofKind (kind : TransactionKind) := txs.filter fun tx => tx.kind == kind
  have hmoved : ∀ t ∈ ofKind .transfer ++ ofKind .rolloverTransfer, t ∈ txs := by
    intro t ht
    rcases List.mem_append.mp ht with ht | ht <;> exact List.mem_of_mem_filter ht
  have hvolume : 2 * volume (ofKind .transfer ++ ofKind .rolloverTransfer) < mantissaLimit := by
    have h1 : volume (ofKind .transfer) ≤ volume txs := volume_le_of_sublist List.filter_sublist
    have h2 : volume (ofKind .rolloverTransfer) ≤ volume txs := volume_le_of_sublist List.filter_sublist
    rw [volume_append]
    unfold mantissaLimit
    omega
  let first (t : Transaction) := some t.id == initialAllocation? fund txs
  obtain ⟨d1, h1, c1⟩ := counts_sumRounded (fun t => first t && t.isReceivedBy fund) hcurrency room
  obtain ⟨d2, h2, c2⟩ := counts_sumRounded (fun t => !first t && t.isReceivedBy fund) hcurrency room
  obtain ⟨d3, h3, c3⟩ := counts_sumRounded (fun t => t.hasRole fund .sender && t.kind == .allocation) hcurrency room
  obtain ⟨d4, h4, c4⟩ := counts_transferEntries fund (fun t ht => hcurrency t (hmoved t ht)) hvolume
  obtain ⟨d5, h5, c5⟩ := counts_sumRounded (fun t => t.hasRole fund .sender && t.kind == .encumbrance) hcurrency room
  obtain ⟨d6, h6, c6⟩ := counts_sumRounded (fun t => t.kind == .pendingPayment) hcurrency room
  obtain ⟨d7, h7, c7⟩ := counts_sumRounded (fun t => t.kind == .payment) hcurrency room
  obtain ⟨d8, h8, c8⟩ := counts_sumRounded (fun t => t.kind == .credit) hcurrency room
  refine ⟨⟨d1, d2, d3, d4, d5, d6, d7, d8⟩, ?_, ?_⟩
  · unfold Budget.sumScope receivedAllocations
    simp only [List.filter_filter]
    simp only [first, Transaction.isReceivedBy] at h1 h2
    simp only [ofKind] at h4
    simp only [bne, h1, h2, h3, h4, h5, h6, h7, h8]
    rfl
  have hmoves : (tally fund txs).netTransfers =
      ((ofKind .transfer ++ ofKind .rolloverTransfer).map (·.netAmount fund)).sum := by
    rw [List.map_append, List.sum_append, sum_map_filter, sum_map_filter, ← List.sum_map_add]
    refine tally_apply Sums.netTransfers rfl (fun _ _ => rfl) fun t _ => ?_
    cases hk : t.kind <;> simp [Transaction.contribution, Transaction.netAmount, hk]
  have hplace {f : Sums Int → Int} {g : Transaction → Int} (hf : f (tally fund txs) = (txs.map g).sum) {d : Decimal}
      (hd : d.Counts c.minorUnits (txs.map g).sum) : d.Counts c.minorUnits (f (tally fund txs)) := hf ▸ hd
  constructor
  · refine hplace (tally_apply Sums.initialAllocation rfl (fun _ _ => rfl) fun t _ => ?_) c1
    simp only [Transaction.contribution, Transaction.isReceivedBy, first, Bool.and_eq_true, beq_iff_eq]
    exact if_congr (by tauto) rfl rfl
  · refine hplace (tally_apply Sums.allocationTo rfl (fun _ _ => rfl) fun t _ => ?_) c2
    simp only [Transaction.contribution, Transaction.isReceivedBy, first, Bool.and_eq_true, beq_iff_eq,
      Bool.not_eq_true', beq_eq_false_iff_ne, ne_eq]
    exact if_congr (by tauto) rfl rfl
  · refine hplace (tally_apply Sums.allocationFrom rfl (fun _ _ => rfl) fun t _ => ?_) c3
    simp only [Transaction.contribution, Bool.and_eq_true, beq_iff_eq, and_comm]
  · exact hmoves ▸ c4
  · refine hplace (tally_apply Sums.encumbered rfl (fun _ _ => rfl) fun t _ => ?_) c5
    simp only [Transaction.contribution, Bool.and_eq_true, beq_iff_eq, and_comm]
  · refine hplace (tally_apply Sums.awaitingPayment rfl (fun _ _ => rfl) fun t ht => ?_) c6
    simp [Transaction.contribution, htouches t ht]
  · refine hplace (tally_apply Sums.expenditures rfl (fun _ _ => rfl) fun t ht => ?_) c7
    simp [Transaction.contribution, htouches t ht]
  · refine hplace (tally_apply Sums.credits rfl (fun _ _ => rfl) fun t ht => ?_) c8
    simp [Transaction.contribution, htouches t ht]

end SumScope

/-! ## Budgets -/

namespace Budget

variable {b b' : Budget} {tx : Transaction} {txs txs' : List Transaction}

/-- The transactions of a budget are in its currency and have room for their sums. -/
structure Countable (b : Budget) (txs : List Transaction) : Prop where
  currency : ∀ t ∈ b.scope txs, t.currency = b.currency
  ids : (txs.map (·.id)).Nodup
  small : volume txs < 2 ^ 94

/-- The totals of a budget are those of its transactions. -/
def Reflects (b : Budget) (txs : List Transaction) : Prop := ∃ t, b.recompute txs = .ok t ∧ b.totals ≈ t

/-- The totals of a budget are these whole numbers of minor units. -/
def Holds (b : Budget) (m : Sums Int) : Prop := b.totals.Counts b.currency.minorUnits m.derived

/-- The tally of the budget's fund over its fiscal year. -/
def tally (b : Budget) (txs : List Transaction) : Sums Int := FundLedger.tally b.fund (b.scope txs)

theorem Countable.small_scope (h : b.Countable txs) : volume (b.scope txs) < 2 ^ 94 :=
  Nat.lt_of_le_of_lt (volume_le_of_sublist List.filter_sublist) h.small

theorem Countable.ids_scope (h : b.Countable txs) : ((b.scope txs).map (·.id)).Nodup :=
  h.ids.sublist (List.filter_sublist.map _)

theorem touches_of_mem_scope {t : Transaction} (h : t ∈ b.scope txs) : t.touches b.fund = true :=
  (Bool.and_eq_true_iff.mp (List.mem_filter.mp h).2).2

/-- The totals from the transactions of a budget are those of their tally, whatever else there is. -/
theorem recompute_counts_of_scope (hcurrency : ∀ t ∈ b.scope txs, t.currency = b.currency)
    (small : volume (b.scope txs) < 2 ^ 94) :
    ∃ t, b.recompute txs = .ok t ∧ t.Counts b.currency.minorUnits (b.tally txs).derived := by
  obtain ⟨s, hs, hcount⟩ := sumScope_counts hcurrency (fun _ => touches_of_mem_scope) small
  have hnorm := norm_tally_le b.fund (b.scope txs)
  obtain ⟨t, ht, hderived⟩ := hcount.derive b.currency.minorUnits_le (by
    unfold mantissaLimit
    omega)
  refine ⟨t.rounded b.currency, ?_, hderived.rounded⟩
  unfold recompute
  rw [hs]
  simp only [bind, Except.bind, ht]
  rfl

/-- The totals from the whole history are those of the tally. -/
theorem recompute_counts (h : b.Countable txs) :
    ∃ t, b.recompute txs = .ok t ∧ t.Counts b.currency.minorUnits (b.tally txs).derived :=
  recompute_counts_of_scope h.currency h.small_scope

/-- A budget reflects its transactions exactly if it holds their tally. -/
theorem reflects_iff (h : b.Countable txs) : b.Reflects txs ↔ b.Holds (b.tally txs) := by
  obtain ⟨t, ht, hcount⟩ := recompute_counts h
  constructor
  · rintro ⟨t', ht', hequiv⟩
    obtain rfl : t = t' := Except.ok.inj (ht.symm.trans ht')
    exact hcount.of_equiv hequiv
  · intro hholds
    exact ⟨t, ht, (Totals.Counts.equiv_iff hholds hcount).mpr rfl⟩

/-- Other totals. -/
theorem Countable.withTotals (h : b.Countable txs) (totals : Totals Decimal) (version : Int64) :
    { b with totals, version }.Countable txs :=
  ⟨h.currency, h.ids, h.small⟩

/-- Transactions of another order. -/
theorem Countable.perm (h : b.Countable txs) (hperm : txs.Perm txs') : b.Countable txs' where
  currency := fun t ht => h.currency t ((hperm.filter _).mem_iff.mpr ht)
  ids := (hperm.map _).nodup_iff.mp h.ids
  small := volume_perm hperm ▸ h.small

/-- Fewer transactions. -/
theorem Countable.sublist (h : b.Countable txs) (hsub : txs'.Sublist txs) : b.Countable txs' where
  currency := fun t ht => h.currency t ((hsub.filter _).subset ht)
  ids := h.ids.sublist (hsub.map _)
  small := Nat.lt_of_le_of_lt (volume_le_of_sublist hsub) h.small

theorem tally_perm (hids : (txs.map (·.id)).Nodup) (hperm : txs.Perm txs') : b.tally txs = b.tally txs' :=
  FundLedger.tally_perm (hids.sublist (List.filter_sublist.map _)) (hperm.filter _)

theorem Reflects.perm (h : b.Reflects txs) (hcount : b.Countable txs) (hperm : txs.Perm txs') : b.Reflects txs' := by
  rw [reflects_iff (hcount.perm hperm), ← tally_perm hcount.ids hperm]
  exact (reflects_iff hcount).mp h

/-- The initial allocation of a budget is the earliest one that its fund received. -/
theorem Reflects.initialAllocation (h : b.Reflects txs) (hcount : b.Countable txs) {first : Transaction}
    (hfirst : Transaction.earliest? (receivedAllocations b.fund (b.scope txs)) = some first) :
    b.totals.initialAllocation ≈ first.roundedAmount := by
  have hmem : first ∈ b.scope txs := List.mem_of_mem_filter (Transaction.earliest?_mem hfirst)
  have hamount : first.roundedAmount.Counts b.currency.minorUnits first.minorAmount := by
    rw [← hcount.currency first hmem]
    exact first.counts_roundedAmount
  have hholds := (reflects_iff hcount).mp h
  have hinitial := hholds.sums.initialAllocation
  refine (Decimal.Counts.equiv_iff hinitial hamount).mpr ?_
  change (FundLedger.tally b.fund (b.scope txs)).initialAllocation = _
  rw [tally_initialAllocation hcount.ids_scope]
  unfold initialAmount
  rw [hfirst]
  rfl

/-- Whether a transaction is one of the budget's fund in its fiscal year. -/
def covers (b : Budget) (tx : Transaction) : Bool := tx.fiscalYear == b.fiscalYear && tx.touches b.fund

theorem scope_cons (b : Budget) (tx : Transaction) (txs : List Transaction) :
    b.scope (tx :: txs) = if b.covers tx then tx :: b.scope txs else b.scope txs := List.filter_cons

theorem tally_cons_of_not_covers (h : b.covers tx = false) (txs : List Transaction) :
    b.tally (tx :: txs) = b.tally txs := by
  unfold tally
  rw [scope_cons, h]
  rfl

end Budget

/-! ## What became of reserved money -/

namespace Transaction

variable {tx tx' : Transaction}

/-- The transaction without the account of reserved money. -/
def bare (tx : Transaction) : Transaction := { tx with encumbrance := none }

/-- What does not look at the account of reserved money. -/
theorem eq_of_bare_eq {β : Type} (g : Transaction → β) (hg : ∀ t, g t.bare = g t) (h : tx'.bare = tx.bare) :
    g tx' = g tx := by
  rw [← hg tx', h, hg tx]

end Transaction

section Bare

variable {f : Transaction → Transaction} {txs : List Transaction}

theorem volume_map_of_bare (hf : ∀ t, (f t).bare = t.bare) (txs : List Transaction) :
    volume (txs.map f) = volume txs := by
  unfold volume
  rw [List.map_map]
  exact congrArg List.sum (List.map_congr_left fun t _ =>
    Transaction.eq_of_bare_eq (fun t => t.minorAmount.natAbs) (fun _ => rfl) (hf t))

theorem tally_map_of_bare (hf : ∀ t, (f t).bare = t.bare) (fund : FundId) (txs : List Transaction) :
    tally fund (txs.map f) = tally fund txs := by
  have hid : ∀ t, (f t).id = t.id := fun t => Transaction.eq_of_bare_eq Transaction.id (fun _ => rfl) (hf t)
  have hdate : ∀ t, (f t).createdDate = t.createdDate := fun t =>
    Transaction.eq_of_bare_eq Transaction.createdDate (fun _ => rfl) (hf t)
  have hreceived : receivedAllocations fund (txs.map f) = (receivedAllocations fund txs).map f := by
    unfold receivedAllocations
    rw [List.filter_map]
    refine congrArg (List.map f) (List.filter_congr fun t _ => ?_)
    exact Transaction.eq_of_bare_eq (fun u => u.isReceivedBy fund) (fun _ => rfl) (hf t)
  have hinitial : initialAllocation? fund (txs.map f) = initialAllocation? fund txs := by
    unfold initialAllocation?
    rw [hreceived, Transaction.earliest?_map hid hdate, Option.map_map]
    exact congrArg (Option.map · _) (funext hid)
  unfold tally
  rw [hinitial, List.map_map]
  refine congrArg List.sum (List.map_congr_left fun t _ => ?_)
  change (f t).contribution fund (some (f t).id == _) = _
  rw [hid, Transaction.eq_of_bare_eq Transaction.contribution (fun _ => rfl) (hf t)]

namespace Budget

variable {b : Budget}

theorem scope_map_of_bare (hf : ∀ t, (f t).bare = t.bare) (txs : List Transaction) :
    b.scope (txs.map f) = (b.scope txs).map f := by
  unfold scope
  rw [List.filter_map]
  refine congrArg (List.map f) (List.filter_congr fun t _ => ?_)
  exact Transaction.eq_of_bare_eq b.covers (fun _ => rfl) (hf t)

theorem Countable.map_of_bare (hf : ∀ t, (f t).bare = t.bare) (h : b.Countable txs) : b.Countable (txs.map f) where
  currency := by
    rw [scope_map_of_bare hf]
    intro t ht
    obtain ⟨u, hu, rfl⟩ := List.mem_map.mp ht
    exact (Transaction.eq_of_bare_eq Transaction.currency (fun _ => rfl) (hf u)).trans (h.currency u hu)
  ids := by
    have hids : (txs.map f).map (·.id) = txs.map (·.id) := by
      rw [List.map_map]
      exact List.map_congr_left fun t _ => Transaction.eq_of_bare_eq Transaction.id (fun _ => rfl) (hf t)
    rw [hids]
    exact h.ids
  small := by
    rw [volume_map_of_bare hf]
    exact h.small

/-- A change of what became of reserved money. -/
theorem Reflects.map_of_bare (hf : ∀ t, (f t).bare = t.bare) (hcount : b.Countable txs) (h : b.Reflects txs) :
    b.Reflects (txs.map f) := by
  rw [reflects_iff (hcount.map_of_bare hf)]
  unfold tally
  rw [scope_map_of_bare hf, tally_map_of_bare hf]
  exact (reflects_iff hcount).mp h

end Budget

end Bare

end FundLedger
