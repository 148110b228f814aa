import FundLedger.ExpenseClass.Breakdown
import FundLedger.Proofs.Flows
import FundLedger.Proofs.GroupSummaries
import FundLedger.Proofs.Quotients
/-!
# Transactions divided by expense class

Each class has a line with the transactions of that class, and no transaction has two classes.  So the lines together
with the transactions that have no line, as they have no class or one that is not asked for, are all the transactions.
A line depends on which transactions there are and not on their order.

* `ExpenseClass.bucket`, `unlisted`: the transactions of a class, and those without a line.
* `IsExactAt`: amounts that decimals add without rounding.
* `exists_expenseClassTotal_eq`: a line, with its share still to be divided.
* `ExpenseClassTotal.IsFor`, `IsPartition`: the values of a line, and of all lines.
* `expenseClassTotals_cases`: the lines, or the share that has no room.
* `expenseClassTotals_perm`: the same lines for another order of the transactions.
* `expenseClassTotals_partition`: the transactions divided among the lines.
-/

namespace FundLedger

/-! ## Values of transactions -/

namespace Transaction

variable (t : Transaction)

/-- What the transaction comes to among those of one kind. -/
def unitsOfKind (kind : TransactionKind) : Int := if t.kind = kind then t.amount.units else 0

/-- What the transaction adds to what is expended: payments, less credits. -/
def expendedUnits : Int := t.unitsOfKind .payment - t.unitsOfKind .credit

theorem units_expendedAmount : (expendedAmount t).units = t.expendedUnits := by
  unfold expendedAmount expendedUnits unitsOfKind
  cases t.kind <;> simp [Decimal.units_zero, Decimal.units_neg]

end Transaction

/-- The transactions of a class. -/
def ExpenseClass.bucket (expenseClass : ExpenseClass) (txs : List Transaction) : List Transaction :=
  txs.filter fun t => t.expenseClass == some expenseClass.id

/-- The transactions that have no class, or one that is not listed. -/
def unlisted (classes : List ExpenseClass) (txs : List Transaction) : List Transaction :=
  txs.filter fun t => !(classes.any fun expenseClass => t.expenseClass == some expenseClass.id)

/-- A sum over the classes, one by one, and over the transactions without a line. -/
theorem sum_buckets_add_unlisted {classes : List ExpenseClass} (hids : (classes.map (·.id)).Nodup)
    (txs : List Transaction) (f : Transaction → Int) :
    (classes.map fun expenseClass => ((expenseClass.bucket txs).map f).sum).sum + ((unlisted classes txs).map f).sum =
      (txs.map f).sum := by
  have hparts := sum_map_parts_add_rest hids (·.expenseClass) txs f
  simp only [List.map_map, List.any_map] at hparts
  exact hparts

/-! ## Exact amounts -/

/-- The amounts are whole so many places after the point, and all of them together have room there, so that none of
their sums is rounded. -/
structure IsExactAt (p : Nat) (txs : List Transaction) : Prop where
  whole : ∀ t ∈ txs, ∃ n, t.amount.Counts p n
  small : (txs.map fun t => (t.amount.minor p).natAbs).sum < mantissaLimit

namespace IsExactAt

variable {p : Nat} {c : Currency} {txs txs' : List Transaction}

theorem counts (h : IsExactAt p txs) {t : Transaction} (ht : t ∈ txs) : t.amount.Counts p (t.amount.minor p) := by
  obtain ⟨n, hn⟩ := h.whole t ht
  exact hn.counts_minor

theorem sublist (h : IsExactAt p txs) (hsub : txs'.Sublist txs) : IsExactAt p txs' where
  whole := fun t ht => h.whole t (hsub.subset ht)
  small := Nat.lt_of_le_of_lt ((hsub.map _).sum_le_sum fun _ _ => Nat.zero_le _) h.small

theorem bucket (h : IsExactAt p txs) (expenseClass : ExpenseClass) : IsExactAt p (expenseClass.bucket txs) :=
  h.sublist List.filter_sublist

theorem perm (h : IsExactAt p txs) (hperm : txs.Perm txs') : IsExactAt p txs' where
  whole := fun t ht => h.whole t (hperm.mem_iff.mpr ht)
  small := (hperm.map fun t => (t.amount.minor p).natAbs).sum_eq ▸ h.small

/-- Exact amounts with some of them left out and some of them negated add to their value, whether it is rounded or
not. -/
theorem exists_sum (h : IsExactAt c.minorUnits txs) {f : Transaction → Decimal}
    (hf : ∀ t, f t = t.amount ∨ f t = -t.amount ∨ f t = .zero) :
    ∃ d, Decimal.sum (txs.map f) = .ok d ∧ (c.round d).units = d.units ∧ d.units = (txs.map fun t => (f t).units).sum := by
  have hcounts : ∀ t ∈ txs, (f t).Counts c.minorUnits ((f t).minor c.minorUnits) ∧
      ((f t).minor c.minorUnits).natAbs ≤ (t.amount.minor c.minorUnits).natAbs := by
    intro t ht
    have hamount := h.counts ht
    have hzero := Decimal.counts_zero c.minorUnits
    rcases hf t with hft | hft | hft <;> rw [hft]
    · exact ⟨hamount, Nat.le_refl _⟩
    · rw [hamount.neg.minor_eq, Int.natAbs_neg]
      exact ⟨hamount.neg, Nat.le_refl _⟩
    · rw [hzero.minor_eq]
      exact ⟨hzero, Nat.zero_le _⟩
  have hsmall := Nat.lt_of_le_of_lt (List.sum_le_sum fun t ht => (hcounts t ht).2) h.small
  obtain ⟨d, hd, hsum⟩ := Decimal.counts_sum c.minorUnits_le (fun t ht => (hcounts t ht).1) hsmall
  refine ⟨d, hd, hsum.round.trans hsum.symm, hsum.trans ?_⟩
  rw [← List.sum_map_mul_right]
  exact congrArg List.sum (List.map_congr_left fun t ht => ((hcounts t ht).1).symm)

/-- The rounded sum of the transactions of one kind. -/
theorem exists_sumOfKind (h : IsExactAt c.minorUnits txs) (kind : TransactionKind) :
    ∃ d, sumOfKind kind txs c = .ok d ∧ d.units = (txs.map (·.unitsOfKind kind)).sum := by
  obtain ⟨d, hd, hround, hunits⟩ := (h.sublist List.filter_sublist).exists_sum fun t => .inl (Eq.refl t.amount)
  refine ⟨c.round d, ?_, ?_⟩
  · unfold sumOfKind Money.sum
    rw [hd]
    rfl
  · rw [hround, hunits, sum_map_filter]
    simp only [beq_iff_eq]
    rfl

/-- Payments less credits. -/
theorem exists_netExpended (h : IsExactAt c.minorUnits txs) :
    ∃ d, netExpended txs = .ok d ∧ (c.round d).units = (txs.map (·.expendedUnits)).sum := by
  have hf : ∀ t, expendedAmount t = t.amount ∨ expendedAmount t = -t.amount ∨ expendedAmount t = .zero := by
    intro t
    unfold expendedAmount
    cases t.kind <;> simp
  obtain ⟨d, hd, hround, hunits⟩ := h.exists_sum hf
  refine ⟨d, hd, ?_⟩
  rw [hround, hunits]
  simp only [Transaction.units_expendedAmount]

end IsExactAt

/-! ## Lines -/

/-- Mapping all results is mapping each of them. -/
theorem map_mapM {α β γ ε : Type} (f : α → Except ε β) (value : β → γ) (l : List α) :
    (l.mapM f).map (·.map value) = l.mapM fun a => (f a).map value := by
  induction l with
  | nil => rfl
  | cons a rest ih =>
    rw [List.mapM_cons, List.mapM_cons, ← ih]
    cases f a with
    | error e => rfl
    | ok b => cases rest.mapM f <;> rfl

/-- A share is missing exactly when the whole is zero. -/
theorem percentage_eq_none_iff {part whole : Decimal} {share : Option Decimal} (h : percentage part whole = .ok share) :
    share = none ↔ whole.units = 0 := by
  rw [← Decimal.isZero_iff]
  unfold percentage at h
  split at h
  · rename_i hzero
    obtain rfl := Except.ok.inj h
    exact iff_of_true rfl hzero
  · rename_i hzero
    obtain ⟨quotient, -, h⟩ := exists_ok_of_bind h
    obtain ⟨percent, -, h⟩ := exists_ok_of_bind h
    obtain rfl := Except.ok.inj h
    exact iff_of_false (Option.some_ne_none _) hzero

namespace ExpenseClassTotal

/-- A line with its amounts as values, whatever their scales. -/
def values (line : ExpenseClassTotal) : ExpenseClassId × String × Int × Int × Int × Option Int :=
  (line.id, line.name, line.encumbered.units, line.awaitingPayment.units, line.expended.units,
    line.percentageExpended.map Decimal.units)

/-- A line that is made with a share has the values of its amounts and that of the share. -/
theorem map_values_mk (id : ExpenseClassId) (name : String) (encumbered awaitingPayment expended : Decimal)
    (share : Except Overflow (Option Decimal)) :
    (share.map (mk id name encumbered awaitingPayment expended)).map values = (share.map (·.map Decimal.units)).map
      fun percent => (id, name, encumbered.units, awaitingPayment.units, expended.units, percent) := by
  cases share <;> rfl

/-- The amounts of a line are those of the transactions of its class.  Its share is missing when the class has any, but
nothing is expended in all. -/
structure IsFor (line : ExpenseClassTotal) (expenseClass : ExpenseClass) (txs : List Transaction) : Prop where
  id : line.id = expenseClass.id
  name : line.name = expenseClass.name
  encumbered : line.encumbered.units = ((expenseClass.bucket txs).map (·.unitsOfKind .encumbrance)).sum
  awaitingPayment : line.awaitingPayment.units = ((expenseClass.bucket txs).map (·.unitsOfKind .pendingPayment)).sum
  expended : line.expended.units = ((expenseClass.bucket txs).map (·.expendedUnits)).sum
  percentageExpended : line.percentageExpended = none ↔
    expenseClass.bucket txs ≠ [] ∧ (txs.map (·.expendedUnits)).sum = 0

end ExpenseClassTotal

section Lines

variable {c : Currency} {expenseClass : ExpenseClass} {txs txs' : List Transaction} {whole whole' : Decimal}

theorem expenseClassTotal_of_bucket_nil (h : expenseClass.bucket txs = []) :
    expenseClassTotal expenseClass txs whole c =
      .ok ⟨expenseClass.id, expenseClass.name, .zero, .zero, .zero, some .zero⟩ := by
  unfold ExpenseClass.bucket at h
  unfold expenseClassTotal
  rw [h]

/-- The line of a class with transactions has their exact sums, and what is left to do is the division. -/
theorem exists_expenseClassTotal_eq (h : IsExactAt c.minorUnits txs) (hne : expenseClass.bucket txs ≠ [])
    (whole : Decimal) :
    ∃ part encumbered awaitingPayment, netExpended (expenseClass.bucket txs) = .ok part ∧
      (c.round part).units = ((expenseClass.bucket txs).map (·.expendedUnits)).sum ∧
      encumbered.units = ((expenseClass.bucket txs).map (·.unitsOfKind .encumbrance)).sum ∧
      awaitingPayment.units = ((expenseClass.bucket txs).map (·.unitsOfKind .pendingPayment)).sum ∧
      expenseClassTotal expenseClass txs whole c = (percentage (c.round part) whole).map
        (ExpenseClassTotal.mk expenseClass.id expenseClass.name encumbered awaitingPayment (c.round part)) := by
  obtain ⟨part, hpart, hexpended⟩ := (h.bucket expenseClass).exists_netExpended
  obtain ⟨encumbered, hencumbered, hreserved⟩ := (h.bucket expenseClass).exists_sumOfKind .encumbrance
  obtain ⟨awaitingPayment, hpending, hawaiting⟩ := (h.bucket expenseClass).exists_sumOfKind .pendingPayment
  refine ⟨part, encumbered, awaitingPayment, hpart, hexpended, hreserved, hawaiting, ?_⟩
  unfold ExpenseClass.bucket at hne hpart hencumbered hpending
  unfold expenseClassTotal
  split
  · rename_i hnil
    exact absurd hnil hne
  · simp only [bind, Except.bind, hpart, hencumbered, hpending]
    cases percentage (c.round part) whole <;> rfl

/-- A line counts the transactions of its class, unless its share has no room. -/
theorem expenseClassTotal_cases (h : IsExactAt c.minorUnits txs) (hwhole : whole.units = (txs.map (·.expendedUnits)).sum) :
    (∃ line, expenseClassTotal expenseClass txs whole c = .ok line ∧ line.IsFor expenseClass txs) ∨
      ∃ part operation, netExpended (expenseClass.bucket txs) = .ok part ∧
        percentage (c.round part) whole = .error operation ∧
        expenseClassTotal expenseClass txs whole c = .error operation := by
  by_cases hbucket : expenseClass.bucket txs = []
  · refine .inl ⟨_, expenseClassTotal_of_bucket_nil hbucket, rfl, rfl, ?_, ?_, ?_, by simp [hbucket]⟩ <;>
    · rw [hbucket]
      exact Decimal.units_zero
  obtain ⟨part, encumbered, awaitingPayment, hpart, hexpended, hreserved, hawaiting, hline⟩ :=
    exists_expenseClassTotal_eq h hbucket whole
  rw [hline]
  cases hshare : percentage (c.round part) whole with
  | error operation => exact .inr ⟨part, operation, hpart, hshare, rfl⟩
  | ok share =>
    have hnone : share = none ↔ (txs.map (·.expendedUnits)).sum = 0 := by
      rw [← hwhole]
      exact percentage_eq_none_iff hshare
    exact .inl ⟨_, rfl, rfl, rfl, hreserved, hawaiting, hexpended, by simpa [hbucket] using hnone⟩

/-- The order of the transactions does not matter to a line, and the scale of what is expended in all does not
either. -/
theorem expenseClassTotal_perm (h : IsExactAt c.minorUnits txs) (hperm : txs.Perm txs') (hwhole : whole.units = whole'.units) :
    (expenseClassTotal expenseClass txs' whole' c).map (·.values) =
      (expenseClassTotal expenseClass txs whole c).map (·.values) := by
  have hbuckets : (expenseClass.bucket txs).Perm (expenseClass.bucket txs') := hperm.filter _
  have hnil : expenseClass.bucket txs' = [] ↔ expenseClass.bucket txs = [] := by
    rw [← List.length_eq_zero_iff, ← List.length_eq_zero_iff, hbuckets.length_eq]
  by_cases hbucket : expenseClass.bucket txs = []
  · rw [expenseClassTotal_of_bucket_nil hbucket, expenseClassTotal_of_bucket_nil (hnil.mpr hbucket)]
  obtain ⟨part, encumbered, awaitingPayment, -, hexpended, hreserved, hawaiting, hline⟩ :=
    exists_expenseClassTotal_eq h hbucket whole
  obtain ⟨part', encumbered', awaitingPayment', -, hexpended', hreserved', hawaiting', hline'⟩ :=
    exists_expenseClassTotal_eq (h.perm hperm) (mt hnil.mp hbucket) whole'
  -- the sums are those of the same transactions
  have hsum : ∀ f : Transaction → Int, ((expenseClass.bucket txs').map f).sum = ((expenseClass.bucket txs).map f).sum :=
    fun f => (hbuckets.symm.map f).sum_eq
  rw [hsum, ← hexpended] at hexpended'
  rw [hsum, ← hreserved] at hreserved'
  rw [hsum, ← hawaiting] at hawaiting'
  have hshares := percentage_congr hexpended' hwhole.symm
  rw [hline, hline', ExpenseClassTotal.map_values_mk, ExpenseClassTotal.map_values_mk, hshares, hexpended', hreserved',
    hawaiting']

end Lines

/-! ## All lines -/

/-- The lines, and the transactions that have none, together come to what all transactions come to. -/
structure IsPartition (lines : List ExpenseClassTotal) (classes : List ExpenseClass) (txs : List Transaction) : Prop where
  encumbered : (lines.map (·.encumbered.units)).sum + ((unlisted classes txs).map (·.unitsOfKind .encumbrance)).sum =
    (txs.map (·.unitsOfKind .encumbrance)).sum
  awaitingPayment : (lines.map (·.awaitingPayment.units)).sum +
    ((unlisted classes txs).map (·.unitsOfKind .pendingPayment)).sum = (txs.map (·.unitsOfKind .pendingPayment)).sum
  expended : (lines.map (·.expended.units)).sum + ((unlisted classes txs).map (·.expendedUnits)).sum =
    (txs.map (·.expendedUnits)).sum

section AllLines

variable {c : Currency} {classes : List ExpenseClass} {lines : List ExpenseClassTotal} {txs txs' : List Transaction}

/-- What an amount of the lines comes to, when each line has that of its class. -/
theorem sum_lines_add_unlisted (hids : (classes.map (·.id)).Nodup) {amount : ExpenseClassTotal → Decimal}
    {f : Transaction → Int}
    (hlines : List.Forall₂ (fun expenseClass line => (amount line).units = ((expenseClass.bucket txs).map f).sum)
      classes lines) :
    (lines.map fun line => (amount line).units).sum + ((unlisted classes txs).map f).sum = (txs.map f).sum := by
  have hunits : (classes.map fun expenseClass => ((expenseClass.bucket txs).map f).sum) =
      lines.map fun line => (amount line).units := by
    rw [← List.forall₂_eq_eq_eq]
    exact List.forall₂_map_left_iff.mpr (List.forall₂_map_right_iff.mpr (hlines.imp fun _ _ h => h.symm))
  rw [← hunits]
  exact sum_buckets_add_unlisted hids txs f

theorem isPartition_of_lines (hids : (classes.map (·.id)).Nodup)
    (hlines : List.Forall₂ (fun expenseClass line => line.IsFor expenseClass txs) classes lines) :
    IsPartition lines classes txs where
  encumbered := sum_lines_add_unlisted hids (hlines.imp fun _ _ h => h.encumbered)
  awaitingPayment := sum_lines_add_unlisted hids (hlines.imp fun _ _ h => h.awaitingPayment)
  expended := sum_lines_add_unlisted hids (hlines.imp fun _ _ h => h.expended)

/-- The lines of all classes, unless a share of theirs has no room. -/
theorem expenseClassTotals_cases (h : IsExactAt c.minorUnits txs) (classes : List ExpenseClass) :
    (∃ lines, expenseClassTotals classes txs c = .ok lines ∧
        List.Forall₂ (fun expenseClass line => line.IsFor expenseClass txs) classes lines) ∨
      ∃ expenseClass ∈ classes, ∃ part whole operation, netExpended (expenseClass.bucket txs) = .ok part ∧
        netExpended txs = .ok whole ∧ (c.round whole).units = (txs.map (·.expendedUnits)).sum ∧
        percentage (c.round part) (c.round whole) = .error operation ∧
        expenseClassTotals classes txs c = .error operation := by
  obtain ⟨whole, hwhole, hunits⟩ := h.exists_netExpended
  unfold expenseClassTotals
  simp only [hwhole, bind, Except.bind]
  rcases mapM_ok_or_error (fun expenseClass => expenseClassTotal expenseClass txs (c.round whole) c) classes with
    ⟨lines, hlines, heach⟩ | ⟨expenseClass, hmem, operation, herror, hlines⟩
  · refine .inl ⟨lines, hlines, heach.imp fun expenseClass line hok => ?_⟩
    rcases expenseClassTotal_cases h hunits with ⟨line', hok', hline⟩ | ⟨_, _, -, -, herror⟩
    · obtain rfl := Except.ok.inj (hok.symm.trans hok')
      exact hline
    · cases hok.symm.trans herror
  · rcases expenseClassTotal_cases h hunits with ⟨line, hok, -⟩ | ⟨part, operation', hpart, hshare, herror'⟩
    · cases hok.symm.trans herror
    · obtain rfl := Except.error.inj (herror.symm.trans herror')
      exact .inr ⟨expenseClass, hmem, part, whole, operation, hpart, rfl, hunits, hshare, hlines⟩

/-- The order of the transactions does not matter, also when a share has no room. -/
theorem expenseClassTotals_perm (h : IsExactAt c.minorUnits txs) (hperm : txs.Perm txs') (classes : List ExpenseClass) :
    (expenseClassTotals classes txs' c).map (·.map (·.values)) =
      (expenseClassTotals classes txs c).map (·.map (·.values)) := by
  obtain ⟨whole, hwhole, hunits⟩ := h.exists_netExpended
  obtain ⟨whole', hwhole', hunits'⟩ := (h.perm hperm).exists_netExpended
  have hsame : (c.round whole).units = (c.round whole').units :=
    hunits.trans ((hperm.map (·.expendedUnits)).sum_eq.trans hunits'.symm)
  unfold expenseClassTotals
  simp only [hwhole, hwhole', bind, Except.bind]
  rw [map_mapM, map_mapM]
  exact congrArg classes.mapM (funext fun _ => expenseClassTotal_perm h hperm hsame)

/-- Amounts with the precision of the currency are divided among the lines, one for each class, and the transactions
that have none, unless a share has no room; the order of the transactions does not matter. -/
theorem expenseClassTotals_partition (hids : (classes.map (·.id)).Nodup) (h : IsExactAt c.minorUnits txs)
    (hshares : ∀ expenseClass ∈ classes, ∀ part whole, netExpended (expenseClass.bucket txs) = .ok part →
      netExpended txs = .ok whole → ∃ share, percentage (c.round part) (c.round whole) = .ok share) :
    ∃ lines, expenseClassTotals classes txs c = .ok lines ∧
      List.Forall₂ (fun expenseClass line => line.IsFor expenseClass txs) classes lines ∧
      IsPartition lines classes txs ∧
      ∀ txs', txs.Perm txs' → (expenseClassTotals classes txs' c).map (·.map (·.values)) =
        .ok (lines.map (·.values)) := by
  rcases expenseClassTotals_cases h classes with
    ⟨lines, hlines, heach⟩ | ⟨expenseClass, hmem, part, whole, operation, hpart, hwhole, -, herror, -⟩
  · refine ⟨lines, hlines, heach, isPartition_of_lines hids heach, fun txs' hperm => ?_⟩
    rw [expenseClassTotals_perm h hperm classes, hlines]
    rfl
  · obtain ⟨share, hshare⟩ := hshares expenseClass hmem part whole hpart hwhole
    cases hshare.symm.trans herror

end AllLines

/-- Printed books, a subscription that is partly paid back, a payment and an invoice without a class, and a payment for
a class that is not listed. -/
def mixedSpending : List Transaction :=
  let spend id kind amount := Transaction.create id kind amount .usd 9 ⟨0, 0⟩
  [{ spend 21 .payment 30.00 with expenseClass := some 41 },
    { spend 22 .encumbrance 20.00 with expenseClass := some 41 },
    { spend 23 .payment 10.5 with expenseClass := some 42 },
    { spend 24 .credit 4.00 with expenseClass := some 42 },
    spend 25 .payment 3.50,
    spend 26 .pendingPayment 5.00,
    { spend 27 .payment 60.000 with expenseClass := some 49 }]

theorem expenseClassTotals_partition_mixedSpending :
    let classes : List ExpenseClass := [.create 41 "print", .create 42 "online", .create 43 "microfilm"]
    IsExactAt 2 mixedSpending ∧
      ∃ lines, expenseClassTotals classes mixedSpending .usd = .ok lines ∧ IsPartition lines classes mixedSpending ∧
        (unlisted classes mixedSpending).map (·.id) = [25, 26, 27] ∧
        lines.map (·.percentageExpended) = [some 30.00, some 6.50, some .zero] := by
  intro classes
  have hwhole : ∀ t ∈ mixedSpending, t.amount.units = t.amount.minor 2 * Decimal.minorUnit 2 := by decide +kernel
  have hexact : IsExactAt Currency.usd.minorUnits mixedSpending :=
    ⟨fun t ht => ⟨_, hwhole t ht⟩, by decide +kernel⟩
  have hshares : ∀ expenseClass ∈ classes, ∀ part whole, netExpended (expenseClass.bucket mixedSpending) = .ok part →
      netExpended mixedSpending = .ok whole →
      ∃ share, percentage (Currency.usd.round part) (Currency.usd.round whole) = .ok share := by
    have hroom : ∀ expenseClass ∈ classes, (do
        percentage (Currency.usd.round (← netExpended (expenseClass.bucket mixedSpending)))
          (Currency.usd.round (← netExpended mixedSpending))).isOk = true := by decide +kernel
    intro expenseClass hmem part whole hpart hwhole
    have hok := hroom expenseClass hmem
    simp only [hpart, hwhole, bind, Except.bind] at hok
    cases hshare : percentage (Currency.usd.round part) (Currency.usd.round whole) with
    | ok share => exact ⟨share, rfl⟩
    | error operation =>
      rw [hshare] at hok
      cases hok
  obtain ⟨lines, hlines, -, hpartition, -⟩ := expenseClassTotals_partition (by decide) hexact hshares
  have hpercent : (expenseClassTotals classes mixedSpending .usd).toOption.map (·.map (·.percentageExpended)) =
      some [some 30.00, some 6.50, some .zero] := by decide +kernel
  rw [hlines] at hpercent
  exact ⟨hexact, lines, hlines, hpartition, by decide +kernel, Option.some.inj hpercent⟩

end FundLedger
