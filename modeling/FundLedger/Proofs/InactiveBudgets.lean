import FundLedger.Proofs.Legality
import FundLedger.Proofs.NearestDecimal
import FundLedger.Proofs.WrittenTotals
/-!
# Inactive budgets

Screening tells from the kind of a transaction, its funds and its sign whether it can only decrease a budget; applying it
adds to the sums and rounds.  The two agree: an inactive budget takes nothing that makes one of its sums larger, even
where digits have no room.

* `Effect.Decreases`: an effect that adds nothing above zero.
* `Transaction.decreases_of_onlyDecreases`: what an inactive budget takes has such effects only.
* `Budget.applyEffects_le`: sums in whole minor units do not grow by such effects.
* `Store.inactive_sums_le`: an inactive budget does not grow.
-/

namespace FundLedger

/-! ## Sums that do not grow -/

section NotGreater

variable {s s' s'' : Sums Decimal}

theorem Sums.Rel.le_refl (s : Sums Decimal) : s.Rel (· ≤ ·) s :=
  have h (a : Decimal) : a ≤ a := Int.le_refl a.units
  ⟨h _, h _, h _, h _, h _, h _, h _, h _⟩

theorem Sums.Rel.le_trans (h : s.Rel (· ≤ ·) s') (h' : s'.Rel (· ≤ ·) s'') : s.Rel (· ≤ ·) s'' :=
  have trans {a b c : Decimal} (hab : a ≤ b) (hbc : b ≤ c) : a ≤ c := Int.le_trans hab hbc
  ⟨trans h.1 h'.1, trans h.2 h'.2, trans h.3 h'.3, trans h.4 h'.4, trans h.5 h'.5, trans h.6 h'.6, trans h.7 h'.7,
    trans h.8 h'.8⟩

/-- Rounding does not lead over a whole number of units. -/
theorem Decimal.round_le_of_counts {p : Nat} {a b : Decimal} {n : Int} (hp : p ≤ 28) (h : a ≤ b) (hb : Counts p b n) :
    a.round p ≤ b := by
  have hround := counts_round a hp
  have hnearest := nearest_mono p h
  rw [hb, nearest_mul_minorUnit] at hnearest
  rw [le_iff, hround, hb]
  exact mul_le_mul_of_nonneg_right hnearest (minorUnit_pos p).le

/-- So sums that are not larger than whole ones are not larger when they are rounded. -/
theorem Sums.Rel.round_le {p : Nat} {m : Sums Int} (hp : p ≤ 28) (h : s.Rel (· ≤ ·) s') (hwhole : s'.Counts p m) :
    (s.map (·.round p)).Rel (· ≤ ·) s' :=
  have round {a b : Decimal} {n : Int} (hab : a ≤ b) (hb : b.Counts p n) := Decimal.round_le_of_counts hp hab hb
  ⟨round h.1 hwhole.1, round h.2 hwhole.2, round h.3 hwhole.3, round h.4 hwhole.4, round h.5 hwhole.5,
    round h.6 hwhole.6, round h.7 hwhole.7, round h.8 hwhole.8⟩

/-- An amount that is not above zero, added in one place. -/
theorem Sums.addAt_le {a : Decimal} (place : Place) (ha : a ≤ .zero) (h : s.addAt place a = .ok s') :
    s'.Rel (· ≤ ·) s := by
  obtain ⟨c, hc, h⟩ := exists_ok_of_bind h
  obtain rfl := Except.ok.inj h
  exact (Rel.le_refl s).put_left (Decimal.add_le_left ha hc)

end NotGreater

/-! ## Effects that decrease -/

namespace Effect

variable {s s' : Sums Decimal} {e : Effect} {effects : List Effect}

/-- Nothing above zero is added; a displaced allocation comes back in another place. -/
def Decreases : Effect → Prop
  | allocation _ _ amount | encumbrance amount | pendingPayment amount | payment amount | credit amount => amount ≤ .zero
  | transfer role amount | rolloverTransfer role amount => role.signed amount ≤ .zero
  | initialAllocationDisplaced _ => False

theorem accumulate_le (he : e.Decreases) (h : accumulate s e = .ok s') : s'.Rel (· ≤ ·) s := by
  cases e with
  | allocation role initial a =>
    cases role with
    | sender => exact Sums.addAt_le .allocationFrom he h
    | receiver =>
      cases initial with
      | true => exact Sums.addAt_le .initialAllocation he h
      | false => exact Sums.addAt_le .allocationTo he h
  | transfer role a => exact Sums.addAt_le .netTransfers he h
  | rolloverTransfer role a => exact Sums.addAt_le .netTransfers he h
  | encumbrance a => exact Sums.addAt_le .encumbered he h
  | pendingPayment a => exact Sums.addAt_le .awaitingPayment he h
  | payment a => exact Sums.addAt_le .expenditures he h
  | credit a => exact Sums.addAt_le .credits he h
  | initialAllocationDisplaced a => exact he.elim

theorem accumulateAll_le (he : ∀ e ∈ effects, e.Decreases) (h : accumulateAll effects s = .ok s') :
    s'.Rel (· ≤ ·) s := by
  induction effects generalizing s with
  | nil =>
    obtain rfl : s = s' := Except.ok.inj h
    exact Sums.Rel.le_refl s
  | cons e rest ih =>
    obtain ⟨hfirst, hrest⟩ := List.forall_mem_cons.mp he
    obtain ⟨next, hnext, h⟩ := exists_ok_of_bind h
    exact (ih hrest h).le_trans (accumulate_le hfirst hnext)

end Effect

/-! ## What an inactive budget takes -/

namespace Transaction

variable {tx : Transaction} {fund : FundId}

theorem roundedAmount_normalized (tx : Transaction) : tx.normalized.roundedAmount ≈ tx.roundedAmount := by
  have hnormalized : tx.normalized.roundedAmount.Counts tx.currency.minorUnits tx.minorAmount := by
    rw [← tx.minorAmount_normalized]
    exact tx.normalized.counts_roundedAmount
  exact (hnormalized.equiv_iff tx.counts_roundedAmount).mpr rfl

theorem isReceivedBy_eq_false (h : tx.kind ≠ .allocation) : tx.isReceivedBy fund = false := by
  unfold isReceivedBy
  rw [beq_false_of_ne h, Bool.false_and]

/-- What a fund sends counts against it. -/
theorem decreases_of_sends (hkind : tx.kind = .transfer ∨ tx.kind = .rolloverTransfer)
    (hsends : tx.hasRole fund .sender = true) (hnot : tx.hasRole fund .receiver = false)
    (hamount : .zero ≤ tx.roundedAmount) : ∀ e ∈ tx.effects fund false, e.Decreases := by
  have hroles : tx.roles fund = [.sender] := by simp [roles, hsends, hnot]
  have hsigned : FundRole.sender.signed tx.roundedAmount ≤ .zero := by
    rw [Decimal.le_iff, Decimal.units_zero] at hamount ⊢
    change (-tx.roundedAmount).units ≤ 0
    rw [Decimal.units_neg]
    omega
  unfold effects
  rcases hkind with hkind | hkind <;> simpa [hkind, hroles, Effect.Decreases] using hsigned

/-- A pending payment that is taken back. -/
theorem decreases_of_pendingPayment (hkind : tx.kind = .pendingPayment) (hamount : tx.roundedAmount ≤ .zero) :
    ∀ e ∈ tx.effects fund false, e.Decreases := by
  unfold effects
  simp [hkind, Effect.Decreases, hamount]

/-- What can only decrease a budget has effects there that decrease it. -/
theorem decreases_of_onlyDecreases (hamount : .zero ≤ tx.roundedAmount ∨ tx.kind = .pendingPayment)
    (h : tx.OnlyDecreases fund) (recorded : List Transaction) :
    ∀ e ∈ tx.normalized.effectsAfter fund recorded, e.Decreases := by
  have hrounded : tx.normalized.roundedAmount.units = tx.roundedAmount.units := tx.roundedAmount_normalized
  have hsame : tx.normalized.kind = tx.kind := rfl
  rcases h with ⟨hkind, hsends, hnot⟩ | ⟨hkind, hnegative⟩
  · have hpositive : .zero ≤ tx.roundedAmount := hamount.resolve_right (by rcases hkind with h | h <;> simp [h])
    have hother : tx.kind ≠ .allocation := by rcases hkind with h | h <;> simp [h]
    rw [effectsAfter_of_not_received (isReceivedBy_eq_false (hsame ▸ hother))]
    refine decreases_of_sends (hsame ▸ hkind) ?_ ?_ ?_
    · simp [hasRole, normalized, hsends]
    · simp [hasRole, normalized, hnot]
    · rw [Decimal.le_iff, hrounded]
      exact hpositive
  · have hother : tx.kind ≠ .allocation := by simp [hkind]
    rw [effectsAfter_of_not_received (isReceivedBy_eq_false (hsame ▸ hother))]
    refine decreases_of_pendingPayment (hsame ▸ hkind) ?_
    rw [Decimal.le_iff, hrounded]
    exact Int.le_of_lt hnegative

end Transaction

namespace Budget

variable {b b' : Budget} {txs : List Transaction}

/-- Recomputed totals are whole, whatever they were recomputed from. -/
theorem whole_of_recompute {t : Totals Decimal} (h : b.recompute txs = .ok t) :
    ∃ m : Totals Int, t.Counts b.currency.minorUnits m := by
  obtain ⟨sums, -, h⟩ := exists_ok_of_bind h
  obtain ⟨exact, -, h⟩ := exists_ok_of_bind h
  obtain rfl := Except.ok.inj h
  exact ⟨_, exact.counts_rounded b.currency⟩

theorem Reflects.whole (h : b.Reflects txs) : ∃ m : Totals Int, b.totals.Counts b.currency.minorUnits m := by
  obtain ⟨t, hrecompute, hequiv⟩ := h
  obtain ⟨m, hm⟩ := whole_of_recompute hrecompute
  exact ⟨m, hm.of_equiv hequiv⟩

/-- Whole sums do not grow by effects that decrease. -/
theorem applyEffects_le {effects : List Effect} {m : Totals Int} (hwhole : b.totals.Counts b.currency.minorUnits m)
    (he : ∀ e ∈ effects, e.Decreases) (h : b.applyEffects effects = .ok b') :
    b'.totals.toSums.Rel (· ≤ ·) b.totals.toSums := by
  unfold applyEffects at h
  split at h
  · obtain rfl := Except.ok.inj h
    exact Sums.Rel.le_refl _
  · obtain ⟨sums, hsums, h⟩ := exists_ok_of_bind h
    obtain ⟨totals, hderive, h⟩ := exists_ok_of_bind h
    obtain rfl := Except.ok.inj h
    have hle := Effect.accumulateAll_le he hsums
    rw [← Totals.toSums_of_derive hderive] at hle
    exact hle.round_le b.currency.minorUnits_le hwhole.sums

end Budget

/-! ## Recording on an inactive budget -/

namespace Store

variable {s : Store} {tx created : Transaction} {b : Budget}

/-- What was recorded is legal, and was applied to its budgets. -/
theorem recorded_of_ok (h : s.OneBudget) (hok : (s.perform (.createTransaction tx)).1 = .ok created) :
    s.Legal tx ∧ s.HasRoomFor tx.normalized ∧
      s.perform (.createTransaction tx) = (.ok tx.normalized, s.recorded tx.normalized) := by
  rw [Operation.createTransaction_eq, perform_bind] at hok ⊢
  rcases perform_screen_cases h tx with ⟨hlegal, hscreen⟩ | ⟨-, e, hscreen⟩
  · rw [hscreen] at hok ⊢
    rcases s.perform_record_cases tx.normalized with ⟨hroom, hrecord⟩ | ⟨-, o, hoverflow⟩
    · exact ⟨hlegal, hroom, hrecord⟩
    · cases hok.symm.trans hoverflow
  · rw [hscreen] at hok
    cases hok

/-- An inactive budget does not grow.  When a transaction is recorded on a consistent store, it was applied to each of its
budgets, and of an inactive one no sum is larger than before, however many digits have no room. -/
theorem inactive_sums_le (h : s.Consistent) (hok : (s.perform (.createTransaction tx)).1 = .ok created) (hb : b ∈ s.budgets)
    (hcovers : b.covers tx = true) (hinactive : b.status = .inactive) :
    ∃ totals, b.applyWithHistory tx.normalized (s.historyFor tx.normalized) = .ok { b with totals } ∧
      { b with totals, version := b.version + 1 } ∈ (s.perform (.createTransaction tx)).2.budgets ∧
      totals.toSums.Rel (· ≤ ·) b.totals.toSums := by
  obtain ⟨hlegal, hroom, hrecorded⟩ := recorded_of_ok h.oneBudget hok
  obtain ⟨hyear, htouches⟩ := Bool.and_eq_true_iff.mp hcovers
  have hof : b ∈ s.budgetsOf tx.normalized := (mem_budgetsOf h).mpr ⟨hb, hcovers⟩
  obtain ⟨totals, happly⟩ := hroom.apply b hof
  refine ⟨totals, happly, ?_, ?_⟩
  · rw [hrecorded]
    exact (mem_recorded_iff hroom.apply).mpr (.inl ⟨b, hof, totals, happly, rfl⟩)
  · obtain ⟨b', hb', hfund, hyear', -, honly⟩ := hlegal.budgets b.fund (Transaction.touches_iff.mp htouches)
    obtain rfl := h.oneBudget b' hb' b hb hfund (hyear'.trans (eq_of_beq hyear))
    obtain ⟨m, hwhole⟩ := (h.totals b' hb').whole
    exact Budget.applyEffects_le hwhole
      (Transaction.decreases_of_onlyDecreases hlegal.amount (honly hinactive) _) happly

/-- The first of two funds no longer takes money. -/
def closedBooks : Store :=
  { twoFunds with
    budgets := .ofList [{ Budget.create 11 "books" 1 9 .usd with status := .inactive }, .create 12 "journals" 2 9 .usd] }

theorem inactive_sums_le_closedBooks :
    let books := { Budget.create 11 "books" 1 9 .usd with status := .inactive }
    closedBooks.Consistent ∧ (closedBooks.perform (.createTransaction transferToJournals)).1 = .ok transferToJournals ∧
      books ∈ closedBooks.budgets ∧ books.covers transferToJournals = true ∧ books.status = .inactive ∧
      ∃ totals, { books with totals, version := 1 } ∈
          (closedBooks.perform (.createTransaction transferToJournals)).2.budgets ∧
        totals.toSums.Rel (· ≤ ·) books.totals.toSums ∧ totals.netTransfers = -20.0 := by
  intro books
  have hconsistent : closedBooks.Consistent := by
    refine consistent_of_no_transactions rfl ?_ ?_
    · change ∀ b ∈ closedBooks.budgets.records, ∀ b' ∈ closedBooks.budgets.records,
        b.fund = b'.fund → b.fiscalYear = b'.fiscalYear → b = b'
      decide
    · change ∀ b ∈ closedBooks.budgets.records, b.totals ≈ Totals.zero
      decide
  have hok : (closedBooks.perform (.createTransaction transferToJournals)).1 = .ok transferToJournals := by decide +kernel
  have hb : books ∈ closedBooks.budgets := by decide
  obtain ⟨totals, happly, hmem, hle⟩ := inactive_sums_le hconsistent hok hb (by decide) rfl
  have hsent : (books.applyWithHistory transferToJournals.normalized
      (closedBooks.historyFor transferToJournals.normalized)).toOption.map (·.totals.netTransfers) = some (-20.0) := by
    decide +kernel
  rw [happly] at hsent
  exact ⟨hconsistent, hok, hb, by decide, rfl, totals, hmem, hle, Option.some.inj hsent⟩

end Store

end FundLedger
