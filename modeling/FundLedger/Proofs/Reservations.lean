import FundLedger.Proofs.Places
import FundLedger.Proofs.Runs
/-!
# The account of a reservation

What of a reservation is spent and what awaits payment together stay the same amount, and what awaits payment grows by
the rounded amounts that are moved.  This holds of all accounts in whole minor units, and of no others: the first
amount that is moved rounds what an account was handed in with.

* `AccountCall.applied`, `AccountCall.appliedAll`: the account after one call and after several.
* `Encumbrance.IsWhole`: accounts in whole minor units.
* `Store.HasAccount`: the account that is stored, or that the first call starts.
* `Store.accepted_keepsSum_iff`: which accepted reservations keep the sum.
-/

namespace FundLedger

open Decimal (Counts minor)

/-! ## Accounts -/

namespace AccountCall

/-- The amount that a call moves. -/
def moved (currency : Currency) : AccountCall → Decimal
  | release => .zero
  | moveToAwaitingPayment amount => currency.round amount

/-- The account after a call. -/
def applied (currency : Currency) (e : Encumbrance) : AccountCall → Except Overflow Encumbrance
  | release => .ok e.release.2
  | moveToAwaitingPayment amount => e.moveToAwaitingPayment amount currency

/-- The account after some calls, as long as none overflows. -/
def appliedAll (currency : Currency) (e : Encumbrance) (calls : List AccountCall) : Except Overflow Encumbrance :=
  calls.foldlM (applied currency) e

theorem counts_moved (currency : Currency) (call : AccountCall) :
    Counts currency.minorUnits (call.moved currency) (minor currency.minorUnits (call.moved currency)) := by
  cases call with
  | release => exact (Decimal.counts_zero _).counts_minor
  | moveToAwaitingPayment amount => exact (Decimal.counts_round amount currency.minorUnits_le).counts_minor

end AccountCall

namespace Encumbrance

variable {e e' : Encumbrance} {amount : Decimal} {currency : Currency} {m n r : Int}

/-- What is spent and what awaits payment are whole numbers of minor units. -/
def IsWhole (e : Encumbrance) (currency : Currency) : Prop :=
  (∃ m, Counts currency.minorUnits e.awaitingPayment m) ∧ ∃ n, Counts currency.minorUnits e.expended n

theorem release_amounts (e : Encumbrance) :
    e.release.2.awaitingPayment = e.awaitingPayment ∧ e.release.2.expended = e.expended := by
  unfold release
  cases e.status <;> exact ⟨rfl, rfl⟩

theorem status_release (e : Encumbrance) : e.release.2.status = .released := by
  unfold release
  cases hstatus : e.status
  · rfl
  · exact hstatus

theorem moveToAwaitingPayment_eq_ok (h : e.moveToAwaitingPayment amount currency = .ok e') :
    ∃ a b, e' = { e with awaitingPayment := currency.round a, expended := currency.round b } := by
  unfold moveToAwaitingPayment at h
  obtain ⟨a, -, h⟩ := exists_ok_of_bind h
  obtain ⟨b, -, h⟩ := exists_ok_of_bind h
  cases h
  exact ⟨a, b, rfl⟩

/-- A move leaves whole numbers of minor units. -/
theorem isWhole_of_move (h : e.moveToAwaitingPayment amount currency = .ok e') : e'.IsWhole currency := by
  obtain ⟨a, b, rfl⟩ := moveToAwaitingPayment_eq_ok h
  exact ⟨⟨_, Decimal.counts_round a currency.minorUnits_le⟩, _, Decimal.counts_round b currency.minorUnits_le⟩

/-- A move of whole numbers of minor units is exact. -/
theorem moveToAwaitingPayment_counts (hm : Counts currency.minorUnits e.awaitingPayment m)
    (hn : Counts currency.minorUnits e.expended n) (hr : Counts currency.minorUnits (currency.round amount) r)
    (hmr : (m + r).natAbs < mantissaLimit) (hnr : (n - r).natAbs < mantissaLimit) :
    ∃ e', e.moveToAwaitingPayment amount currency = .ok e' ∧
      Counts currency.minorUnits e'.awaitingPayment (m + r) ∧ Counts currency.minorUnits e'.expended (n - r) := by
  obtain ⟨a, hadd, ha⟩ := hm.add currency.minorUnits_le hr hmr
  obtain ⟨b, hsub, hb⟩ := hn.sub currency.minorUnits_le hr hnr
  refine ⟨{ e with awaitingPayment := currency.round a, expended := currency.round b }, ?_, ha.round, hb.round⟩
  unfold moveToAwaitingPayment
  simp only [hadd, hsub, bind, Except.bind]
  rfl

end Encumbrance

namespace AccountCall

variable {e e' : Encumbrance} {currency : Currency} {calls : List AccountCall} {m n : Int}

/-- Calls on an account in whole minor units are exact. -/
theorem appliedAll_counts (hm : Counts currency.minorUnits e.awaitingPayment m)
    (hn : Counts currency.minorUnits e.expended n)
    (hmsmall : m.natAbs + (calls.map fun call => (minor currency.minorUnits (call.moved currency)).natAbs).sum <
      mantissaLimit)
    (hnsmall : n.natAbs + (calls.map fun call => (minor currency.minorUnits (call.moved currency)).natAbs).sum <
      mantissaLimit) :
    ∃ e', appliedAll currency e calls = .ok e' ∧
      Counts currency.minorUnits e'.awaitingPayment
        (m + (calls.map fun call => minor currency.minorUnits (call.moved currency)).sum) ∧
      Counts currency.minorUnits e'.expended
        (n - (calls.map fun call => minor currency.minorUnits (call.moved currency)).sum) := by
  induction calls generalizing e m n with
  | nil => exact ⟨e, rfl, by simpa using hm, by simpa using hn⟩
  | cons call rest ih =>
    simp only [List.map_cons, List.sum_cons] at hmsmall hnsmall ⊢
    have hr := counts_moved currency call
    generalize minor currency.minorUnits (call.moved currency) = r at hr hmsmall hnsmall ⊢
    have hcall : ∃ e₁, applied currency e call = .ok e₁ ∧ Counts currency.minorUnits e₁.awaitingPayment (m + r) ∧
        Counts currency.minorUnits e₁.expended (n - r) := by
      cases call with
      | release =>
        obtain rfl : r = 0 := hr.unique (Decimal.counts_zero _)
        obtain ⟨hawaiting, hexpended⟩ := e.release_amounts
        rw [Int.add_zero, Int.sub_zero]
        exact ⟨e.release.2, rfl, hawaiting ▸ hm, hexpended ▸ hn⟩
      | moveToAwaitingPayment amount => exact Encumbrance.moveToAwaitingPayment_counts hm hn hr (by omega) (by omega)
    obtain ⟨e₁, happlied, hm₁, hn₁⟩ := hcall
    obtain ⟨e', hrest, hm', hn'⟩ := ih hm₁ hn₁ (by omega) (by omega)
    refine ⟨e', ?_, ?_, ?_⟩
    · unfold appliedAll
      rw [List.foldlM_cons, happlied]
      exact hrest
    · rwa [← Int.add_assoc]
    · rwa [← Int.sub_sub]

/-- Releasing alone leaves the amounts. -/
theorem appliedAll_release (e : Encumbrance) (currency : Currency) (hcalls : ∀ call ∈ calls, call = .release) :
    ∃ e', appliedAll currency e calls = .ok e' ∧ e'.awaitingPayment = e.awaitingPayment ∧ e'.expended = e.expended := by
  induction calls generalizing e with
  | nil => exact ⟨e, rfl, rfl, rfl⟩
  | cons call rest ih =>
    obtain ⟨rfl, hrest⟩ := List.forall_mem_cons.mp hcalls
    obtain ⟨e', happlied, hawaiting, hexpended⟩ := ih e.release.2 hrest
    obtain ⟨hawaiting', hexpended'⟩ := e.release_amounts
    exact ⟨e', happlied, hawaiting.trans hawaiting', hexpended.trans hexpended'⟩

/-- A release is never undone. -/
theorem status_appliedAll (happlied : appliedAll currency e calls = .ok e')
    (hreleased : .release ∈ calls ∨ e.status = .released) : e'.status = .released := by
  induction calls generalizing e with
  | nil =>
    obtain rfl : e = e' := Except.ok.inj happlied
    exact hreleased.resolve_left List.not_mem_nil
  | cons call rest ih =>
    unfold appliedAll at happlied
    rw [List.foldlM_cons] at happlied
    obtain ⟨e₁, hcall, hrest⟩ := exists_ok_of_bind happlied
    refine ih hrest ?_
    cases call with
    | release =>
      obtain rfl : e.release.2 = e₁ := Except.ok.inj hcall
      exact .inr e.status_release
    | moveToAwaitingPayment amount =>
      obtain ⟨a, b, rfl⟩ := Encumbrance.moveToAwaitingPayment_eq_ok hcall
      have hne : release ≠ moveToAwaitingPayment amount := nofun
      rcases hreleased with hmem | hstatus
      · exact .inl (List.mem_of_ne_of_mem hne hmem)
      · exact .inr hstatus

end AccountCall

/-! ## The sum of an account -/

namespace Encumbrance

variable {e e' : Encumbrance} {currency : Currency} {calls : List AccountCall}

/-- The account has kept its sum, and what awaits payment has grown by what was moved. -/
structure SumKept (e : Encumbrance) (currency : Currency) (calls : List AccountCall) (e' : Encumbrance) : Prop where
  grown : e'.awaitingPayment.units =
    e.awaitingPayment.units + (calls.map fun call => (call.moved currency).units).sum
  kept : e'.awaitingPayment.units + e'.expended.units = e.awaitingPayment.units + e.expended.units

/-- The amounts of the account, together with all that is moved, have room among the whole numbers of minor units. -/
def HasRoomFor (e : Encumbrance) (currency : Currency) (calls : List AccountCall) : Prop :=
  e.awaitingPayment.units.natAbs + (calls.map fun call => (call.moved currency).units.natAbs).sum <
      mantissaLimit * 10 ^ (28 - currency.minorUnits) ∧
    e.expended.units.natAbs + (calls.map fun call => (call.moved currency).units.natAbs).sum <
      mantissaLimit * 10 ^ (28 - currency.minorUnits)

/-- There is room for some of the calls in any order. -/
theorem HasRoomFor.of_subperm {done : List AccountCall} (h : e.HasRoomFor currency calls) (hdone : done.Subperm calls) :
    e.HasRoomFor currency done := by
  obtain ⟨some, hperm, hsub⟩ := hdone
  have hle : (done.map fun call => (call.moved currency).units.natAbs).sum ≤
      (calls.map fun call => (call.moved currency).units.natAbs).sum := by
    rw [← (hperm.map fun call : AccountCall => (call.moved currency).units.natAbs).sum_eq]
    exact (hsub.map _).sum_le_sum fun _ _ => Nat.zero_le _
  unfold HasRoomFor at h ⊢
  omega

/-- What is moved in all is a whole number of minor units. -/
theorem units_moved (currency : Currency) (calls : List AccountCall) :
    (calls.map fun call => (call.moved currency).units).sum =
      (calls.map fun call => minor currency.minorUnits (call.moved currency)).sum *
        Decimal.minorUnit currency.minorUnits := by
  induction calls with
  | nil => simp
  | cons call rest ih =>
    have hunits := call.counts_moved currency
    unfold Counts at hunits
    rw [List.map_cons, List.sum_cons, List.map_cons, List.sum_cons, ih, Int.add_mul, ← hunits]

theorem natAbs_units_moved (currency : Currency) (calls : List AccountCall) :
    (calls.map fun call => (call.moved currency).units.natAbs).sum =
      (calls.map fun call => (minor currency.minorUnits (call.moved currency)).natAbs).sum *
        10 ^ (28 - currency.minorUnits) := by
  induction calls with
  | nil => simp
  | cons call rest ih =>
    have hunits : (call.moved currency).units.natAbs =
        (minor currency.minorUnits (call.moved currency)).natAbs * 10 ^ (28 - currency.minorUnits) := by
      have hcounts := congrArg Int.natAbs (call.counts_moved currency)
      rwa [Int.natAbs_mul] at hcounts
    rw [List.map_cons, List.sum_cons, List.map_cons, List.sum_cons, ih, hunits, Nat.add_mul]

/-- Calls on an account in whole minor units keep the sum. -/
theorem IsWhole.sumKept (h : e.IsWhole currency) (room : e.HasRoomFor currency calls) :
    ∃ e', AccountCall.appliedAll currency e calls = .ok e' ∧ e.SumKept currency calls e' := by
  obtain ⟨⟨m, hm⟩, n, hn⟩ := h
  have hunit : (Decimal.minorUnit currency.minorUnits).natAbs = 10 ^ (28 - currency.minorUnits) := rfl
  have hpos : 0 < 10 ^ (28 - currency.minorUnits) := Nat.pow_pos (by decide)
  unfold HasRoomFor at room
  rw [natAbs_units_moved, hm, hn, Int.natAbs_mul, Int.natAbs_mul, hunit, ← Nat.add_mul, ← Nat.add_mul] at room
  obtain ⟨e', happlied, hm', hn'⟩ := AccountCall.appliedAll_counts hm hn
    (Nat.lt_of_mul_lt_mul_right room.1) (Nat.lt_of_mul_lt_mul_right room.2)
  refine ⟨e', happlied, ⟨?_, ?_⟩⟩
  · rw [units_moved, hm', hm, Int.add_mul]
  · rw [hm', hn', hm, hn]
    ring

/-- An account that keeps its sum over a move is in whole minor units. -/
theorem isWhole_of_sumKept {done : List AccountCall} {amount : Decimal}
    (happlied : AccountCall.appliedAll currency e (done ++ [.moveToAwaitingPayment amount]) = .ok e')
    (h : e.SumKept currency (done ++ [.moveToAwaitingPayment amount]) e') : e.IsWhole currency := by
  have hlast : ∃ e₁ : Encumbrance, e₁.moveToAwaitingPayment amount currency = .ok e' := by
    unfold AccountCall.appliedAll at happlied
    rw [List.foldlM_append] at happlied
    obtain ⟨e₁, -, hmove⟩ := exists_ok_of_bind happlied
    change (AccountCall.applied currency e₁ (.moveToAwaitingPayment amount) >>= pure) = _ at hmove
    rw [bind_pure] at hmove
    exact ⟨e₁, hmove⟩
  -- the last move has rounded both amounts, and all that was moved is rounded too
  obtain ⟨e₁, hmove⟩ := hlast
  obtain ⟨⟨m, hm⟩, n, hn⟩ := isWhole_of_move hmove
  obtain ⟨hgrown, hkept⟩ := h
  rw [units_moved, hm] at hgrown
  rw [hm, hn] at hkept
  generalize (List.map (fun call => minor currency.minorUnits (AccountCall.moved currency call)) _).sum = k at hgrown
  refine ⟨⟨m - k, ?_⟩, n + k, ?_⟩
  · unfold Counts
    rw [Int.sub_mul]
    omega
  · unfold Counts
    rw [Int.add_mul]
    omega

/-- Which accounts keep their sum whatever is done with them: those in whole minor units, if anything is moved. -/
theorem sumKept_iff (room : e.HasRoomFor currency calls) :
    (∀ done, done <+: calls →
        ∃ e', AccountCall.appliedAll currency e done = .ok e' ∧ e.SumKept currency done e') ↔
      ((∃ amount, .moveToAwaitingPayment amount ∈ calls) → e.IsWhole currency) := by
  constructor
  · rintro hkept ⟨amount, hmove⟩
    obtain ⟨done, rest, rfl⟩ := List.append_of_mem hmove
    obtain ⟨e', happlied, hsum⟩ := hkept (done ++ [.moveToAwaitingPayment amount]) ⟨rest, by simp⟩
    exact isWhole_of_sumKept happlied hsum
  · intro hwhole done hdone
    by_cases hmove : ∃ amount, .moveToAwaitingPayment amount ∈ calls
    · exact (hwhole hmove).sumKept (room.of_subperm hdone.sublist.subperm)
    · have hrelease : ∀ call ∈ done, call = .release := by
        intro call hcall
        cases call with
        | release => rfl
        | moveToAwaitingPayment amount => exact absurd ⟨amount, hdone.subset hcall⟩ hmove
      obtain ⟨e', happlied, hawaiting, hexpended⟩ := AccountCall.appliedAll_release e currency hrelease
      have hmoved : (done.map fun call => (call.moved currency).units).sum = 0 := by
        refine List.sum_eq_zero fun u hu => ?_
        obtain ⟨call, hcall, rfl⟩ := List.mem_map.mp hu
        rw [hrelease call hcall]
        exact Decimal.units_zero
      exact ⟨e', happlied, by rw [hawaiting, hmoved, Int.add_zero], by rw [hawaiting, hexpended]⟩

end Encumbrance

/-! ## Stored accounts -/

namespace AccountCall

/-- A call on an encumbrance overflows, or it writes the account that it leaves, or that is the account already. -/
theorem written_cases {tx : Transaction} (hkind : tx.kind = .encumbrance) (call : AccountCall) :
    (∃ o, call.applied tx.currency tx.account = .error o ∧ call.written tx = .error (.overflow o)) ∨
      (∃ e, call.applied tx.currency tx.account = .ok e ∧ call.written tx = .ok (some { tx with encumbrance := some e })) ∨
      call.applied tx.currency tx.account = .ok tx.account ∧ call.written tx = .ok none := by
  have hrequire : tx.requireEncumbrance = .ok () := if_pos hkind
  cases call with
  | release =>
    have hrelease : tx.release = .ok (tx.account.release.1, { tx with encumbrance := some tx.account.release.2 }) := by
      unfold Transaction.release
      rw [hrequire]
      rfl
    cases hstatus : tx.account.status with
    | unreleased =>
      have haccount : tx.account.release = (.released, { tx.account with status := .released }) := by
        unfold Encumbrance.release
        rw [hstatus]
      refine .inr (.inl ⟨_, rfl, ?_⟩)
      simp only [written, hrelease, haccount]
    | released =>
      have haccount : tx.account.release = (.alreadyReleased, tx.account) := by
        unfold Encumbrance.release
        rw [hstatus]
      refine .inr (.inr ⟨?_, ?_⟩)
      · simp only [applied, haccount]
      · simp only [written, hrelease, haccount]
  | moveToAwaitingPayment amount =>
    cases happlied : tx.account.moveToAwaitingPayment amount tx.currency with
    | error o =>
      have hmove : tx.moveToAwaitingPayment amount = .error (.overflow o) := by
        simp only [Transaction.moveToAwaitingPayment, hrequire, happlied]
      exact .inl ⟨o, happlied, congrArg (Except.map some) hmove⟩
    | ok e =>
      have hmove : tx.moveToAwaitingPayment amount = .ok { tx with encumbrance := some e } := by
        simp only [Transaction.moveToAwaitingPayment, hrequire, happlied]
      exact .inr (.inl ⟨e, happlied, congrArg (Except.map some) hmove⟩)

end AccountCall

namespace Store

variable {s s' : Store} {id : TransactionId} {currency : Currency} {e e' : Encumbrance} {tx created : Transaction}
  {calls : List AccountCall}

/-- The transaction is an encumbrance in this currency, with this account: the stored one, or the one that the first
call starts. -/
def HasAccount (s : Store) (id : TransactionId) (currency : Currency) (e : Encumbrance) : Prop :=
  ∃ tx, s.transactions.find? id = some tx ∧ tx.kind = .encumbrance ∧ tx.currency = currency ∧ tx.account = e

theorem HasAccount.unique (h : s.HasAccount id currency e) (h' : s.HasAccount id currency e') : e = e' := by
  obtain ⟨tx, hfind, -, -, rfl⟩ := h
  obtain ⟨tx', hfind', -, -, rfl⟩ := h'
  rw [Option.some.inj (hfind.symm.trans hfind')]

/-- A call on a stored account. -/
theorem HasAccount.perform_call (h : s.HasAccount id currency e) (call : AccountCall) :
    (∃ o, call.applied currency e = .error o ∧ s.perform (call.operation id) = (.error (.overflow o), s)) ∨
      ∃ e' s', call.applied currency e = .ok e' ∧ s.perform (call.operation id) = (.ok (), s') ∧
        s'.HasAccount id currency e' := by
  obtain ⟨tx, hfind, hkind, rfl, rfl⟩ := h
  obtain ⟨htx, rfl⟩ := Table.find?_eq_some_iff.mp hfind
  rw [perform_accountCall hfind call]
  rcases call.written_cases hkind with ⟨o, happlied, hwritten⟩ | ⟨e, happlied, hwritten⟩ | ⟨happlied, hwritten⟩
  all_goals rw [happlied, hwritten]
  · exact .inl ⟨o, rfl, rfl⟩
  · refine .inr ⟨e, _, rfl, rfl, { tx with encumbrance := some e }, ?_, hkind, rfl, rfl⟩
    exact Table.find?_put rfl
  · exact .inr ⟨tx.account, s, rfl, rfl, tx, hfind, hkind, rfl, rfl⟩

/-- Calls on a stored account go through as far as they are computed on the account. -/
theorem HasAccount.perform_serial (h : s.HasAccount id currency e) (calls : List AccountCall) :
    (∃ o, AccountCall.appliedAll currency e calls = .error o ∧
        (s.perform (AccountCall.serial id calls)).1 = .error (.overflow o)) ∨
      ∃ e' s', AccountCall.appliedAll currency e calls = .ok e' ∧
        s.perform (AccountCall.serial id calls) = (.ok (), s') ∧ s'.HasAccount id currency e' := by
  induction calls generalizing s e with
  | nil => exact .inr ⟨e, s, rfl, rfl, h⟩
  | cons call rest ih =>
    unfold AccountCall.appliedAll
    rw [List.foldlM_cons]
    change (∃ o, _ ∧ (s.perform (call.operation id >>= fun _ => AccountCall.serial id rest)).1 = _) ∨
      ∃ e' s', _ ∧ s.perform (call.operation id >>= fun _ => AccountCall.serial id rest) = _ ∧ _
    rw [perform_bind]
    rcases h.perform_call call with ⟨o, happlied, hperform⟩ | ⟨e₁, s₁, happlied, hperform, hnext⟩
    all_goals rw [happlied, hperform]
    · exact .inl ⟨o, rfl, rfl⟩
    · exact ih hnext

/-- An accepted encumbrance has its account, with the amount rounded that it starts with. -/
theorem hasAccount_of_created (hkind : tx.kind = .encumbrance)
    (hcreated : (s.perform (.createTransaction tx)).1 = .ok created) :
    (s.perform (.createTransaction tx)).2.HasAccount tx.id tx.currency tx.normalized.account := by
  obtain ⟨-, htransactions⟩ := createTransaction_eq_ok hcreated
  refine ⟨tx.normalized, ?_, hkind, rfl, rfl⟩
  rw [htransactions]
  exact Table.find?_put rfl

theorem account_normalized (tx : Transaction) :
    tx.normalized.account.awaitingPayment = tx.account.awaitingPayment ∧
      tx.normalized.account.expended = tx.account.expended := by
  unfold Transaction.account Transaction.normalized
  cases tx.encumbrance <;> exact ⟨rfl, rfl⟩

/-- The calls go through, and leave an account that has kept the sum of the transaction's. -/
def KeepsSum (s : Store) (tx : Transaction) (calls : List AccountCall) : Prop :=
  ∃ s' e, s.perform (AccountCall.serial tx.id calls) = (.ok (), s') ∧ s'.HasAccount tx.id tx.currency e ∧
    tx.account.SumKept tx.currency calls e

/-- Which accounts keep their sum. -/
theorem keepsSum_iff (hkind : tx.kind = .encumbrance) (hcreated : (s.perform (.createTransaction tx)).1 = .ok created) :
    (s.perform (.createTransaction tx)).2.KeepsSum tx calls ↔
      ∃ e, AccountCall.appliedAll tx.currency tx.normalized.account calls = .ok e ∧
        tx.normalized.account.SumKept tx.currency calls e := by
  have hsame : ∀ e, tx.account.SumKept tx.currency calls e ↔ tx.normalized.account.SumKept tx.currency calls e := by
    obtain ⟨hawaiting, hexpended⟩ := account_normalized tx
    exact fun e => ⟨fun ⟨hgrown, hkept⟩ => ⟨by rw [hawaiting, hgrown], by rw [hawaiting, hexpended, hkept]⟩,
      fun ⟨hgrown, hkept⟩ => ⟨by rw [← hawaiting, hgrown], by rw [← hawaiting, ← hexpended, hkept]⟩⟩
  rcases (hasAccount_of_created hkind hcreated).perform_serial calls with
    ⟨o, happlied, hperform⟩ | ⟨e, s', happlied, hperform, haccount⟩
  · refine iff_of_false ?_ ?_
    · rintro ⟨s', e, hok, -⟩
      rw [hok] at hperform
      cases hperform
    · rintro ⟨e, hok, -⟩
      rw [hok] at happlied
      cases happlied
  · constructor
    · rintro ⟨s'', e'', hok, haccount'', hsum⟩
      obtain rfl : s' = s'' := congrArg Prod.snd (hperform.symm.trans hok)
      obtain rfl := haccount.unique haccount''
      exact ⟨e, happlied, (hsame e).mp hsum⟩
    · rintro ⟨e'', hok, hsum⟩
      obtain rfl := Except.ok.inj (happlied.symm.trans hok)
      exact ⟨s', e, hperform, haccount, (hsame e).mpr hsum⟩

/-- A move leaves the status and the initial amount of an account, whatever comes of it. -/
theorem HasAccount.perform_move (h : s.HasAccount id currency e) (amount : Decimal) :
    ∃ e', (s.perform ((AccountCall.moveToAwaitingPayment amount).operation id)).2.HasAccount id currency e' ∧
      e'.status = e.status ∧ e'.initialAmount = e.initialAmount := by
  rcases h.perform_call (.moveToAwaitingPayment amount) with ⟨o, -, hperform⟩ | ⟨e', s', happlied, hperform, haccount⟩
  all_goals rw [hperform]
  · exact ⟨e, h, rfl, rfl⟩
  · obtain ⟨a, b, rfl⟩ := Encumbrance.moveToAwaitingPayment_eq_ok happlied
    exact ⟨_, haccount, rfl, rfl⟩

/-- An accepted reservation keeps its sum along all calls, and what awaits payment grows by the rounded amounts that are
moved, exactly if it was handed in with an account in whole minor units or nothing is moved.  A reservation without an
account starts one with zeros.  No move touches the status or the initial amount of an account. -/
theorem accepted_keepsSum_iff (hkind : tx.kind = .encumbrance)
    (hcreated : (s.perform (.createTransaction tx)).1 = .ok created) (room : tx.account.HasRoomFor tx.currency calls) :
    ((∀ done, done <+: calls → (s.perform (.createTransaction tx)).2.KeepsSum tx done) ↔
        ((∃ amount, .moveToAwaitingPayment amount ∈ calls) → tx.account.IsWhole tx.currency)) ∧
      ∀ done s', (s.perform (.createTransaction tx)).2.perform (AccountCall.serial tx.id done) = (.ok (), s') →
        ∃ e, s'.HasAccount tx.id tx.currency e ∧ ∀ amount, ∃ e',
          (s'.perform ((AccountCall.moveToAwaitingPayment amount).operation tx.id)).2.HasAccount tx.id tx.currency e' ∧
            e'.status = e.status ∧ e'.initialAmount = e.initialAmount := by
  obtain ⟨hawaiting, hexpended⟩ := account_normalized tx
  constructor
  · have hwhole : tx.account.IsWhole tx.currency ↔ tx.normalized.account.IsWhole tx.currency := by
      unfold Encumbrance.IsWhole
      rw [hawaiting, hexpended]
    have hroom : tx.normalized.account.HasRoomFor tx.currency calls := by
      unfold Encumbrance.HasRoomFor
      rwa [hawaiting, hexpended]
    rw [hwhole, ← Encumbrance.sumKept_iff hroom]
    exact forall₂_congr fun done _ => keepsSum_iff hkind hcreated
  · intro done s' hdone
    rcases (hasAccount_of_created hkind hcreated).perform_serial done with
      ⟨o, -, hperform⟩ | ⟨e, s'', -, hperform, haccount⟩
    · rw [hdone] at hperform
      cases hperform
    · obtain rfl : s' = s'' := congrArg Prod.snd (hdone.symm.trans hperform)
      exact ⟨e, haccount, haccount.perform_move⟩

/-- Eighty dollars of the first of two funds that are reserved and spent, and some more that awaits payment. -/
def spentReservation (awaitingPayment : Decimal) : Transaction :=
  { Transaction.create 24 .encumbrance 80.00 .usd 9 ⟨0, 0⟩ with
    fromFund := some 1
    encumbrance := some ⟨80.00, awaitingPayment, 80.00, .unreleased⟩ }

/-- Half a cent that awaits payment is lost when thirty dollars are moved. -/
theorem not_keepsSum_halfCent :
    let tx := spentReservation 0.005
    tx.kind = .encumbrance ∧ (∃ created, (twoFunds.perform (.createTransaction tx)).1 = .ok created) ∧
      tx.account.HasRoomFor .usd [.moveToAwaitingPayment 30.00] ∧
      ¬∀ done, done <+: [.moveToAwaitingPayment 30.00] →
        (twoFunds.perform (.createTransaction tx)).2.KeepsSum tx done := by
  intro tx
  have hcreated : (twoFunds.perform (.createTransaction tx)).1 = .ok tx := by decide +kernel
  have room : tx.account.HasRoomFor .usd [.moveToAwaitingPayment 30.00] := by
    unfold Encumbrance.HasRoomFor
    decide
  have hhalf : tx.account.awaitingPayment.units = 5 * 10 ^ 25 := by decide
  have hunit : Decimal.minorUnit 2 = 10 ^ 26 := by decide
  refine ⟨rfl, ⟨tx, hcreated⟩, room, fun hkept => ?_⟩
  obtain ⟨⟨m, hm⟩, -⟩ := (accepted_keepsSum_iff rfl hcreated room).1.mp hkept ⟨30.00, List.mem_cons_self⟩
  change _ = m * Decimal.minorUnit 2 at hm
  rw [hhalf, hunit] at hm
  omega

example : ((spentReservation 0.005).account.moveToAwaitingPayment 30.00 .usd).map (fun e => (e.awaitingPayment, e.expended)) =
    .ok (30.00, 50.00) := by decide

end Store

end FundLedger
