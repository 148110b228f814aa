import FundLedger.Operation.Encumbrance
import FundLedger.Proofs.Recording
/-!
# Calls on the account of a reservation

What can be done with a recorded encumbrance: it is released, or an amount of it moves.  Either operation reads the
transaction, and then writes it once or not at all; what it writes depends on what it read alone.

* `AccountCall`, `AccountCall.operation`: the calls.
* `AccountCall.written`: what a call writes in place of the transaction that it read, if anything.
* `AccountCall.operation_eq`: both operations in one form.
* `AccountCall.serial`: calls one after the other.
* `Store.perform_accountCall`: a call on a store.
-/

namespace FundLedger

namespace Transaction

variable {tx tx' : Transaction}

theorem bare_release {outcome : ReleaseOutcome} (h : tx.release = .ok (outcome, tx')) : tx'.bare = tx.bare := by
  unfold release at h
  cases hrequire : tx.requireEncumbrance <;> rw [hrequire] at h <;> cases h
  rfl

theorem bare_moveToAwaitingPayment {amount : Decimal} (h : tx.moveToAwaitingPayment amount = .ok tx') :
    tx'.bare = tx.bare := by
  unfold moveToAwaitingPayment at h
  split at h
  · cases h
  · split at h <;> cases h
    rfl

end Transaction

/-- A call on the account of a recorded encumbrance. -/
inductive AccountCall
  | release
  | moveToAwaitingPayment (amount : Decimal)

namespace AccountCall

/-- The operation that a call performs, without its result. -/
def operation (id : TransactionId) : AccountCall → Operation Unit
  | release => discard (.releaseEncumbrance id)
  | moveToAwaitingPayment amount => discard (.moveToAwaitingPayment id amount)

/-- What a call writes in place of the transaction that it read, if anything. -/
def written (tx : Transaction) : AccountCall → Except Failure (Option Transaction)
  | release =>
    match tx.release with
    | .error e => .error (.finance e)
    | .ok (.alreadyReleased, _) => .ok none
    | .ok (.released, tx') => .ok (some tx')
  | moveToAwaitingPayment amount => (tx.moveToAwaitingPayment amount).map some

/-- A call changes the account only. -/
theorem bare_of_written {call : AccountCall} {tx tx' : Transaction} (h : call.written tx = .ok (some tx')) :
    tx'.bare = tx.bare := by
  cases call with
  | release =>
    cases hrelease : tx.release with
    | error e => simp [written, hrelease] at h
    | ok result =>
      obtain ⟨_ | _, released⟩ := result <;> simp only [written, hrelease] at h <;> cases h
      exact Transaction.bare_release hrelease
  | moveToAwaitingPayment amount =>
    cases hmove : tx.moveToAwaitingPayment amount with
    | error e => simp [written, hmove, Except.map] at h
    | ok moved =>
      simp only [written, hmove, Except.map] at h
      cases h
      exact Transaction.bare_moveToAwaitingPayment hmove

theorem id_of_written {call : AccountCall} {tx tx' : Transaction} (h : call.written tx = .ok (some tx')) :
    tx'.id = tx.id := Transaction.eq_of_bare_eq Transaction.id (fun _ => rfl) (bare_of_written h)

/-- Writes what there is to write. -/
def write : Option Transaction → Operation Unit
  | none => return ()
  | some tx => Operation.request (.updateTransaction tx)

/-- A call reads the transaction, and then writes it once or not at all. -/
theorem operation_eq (call : AccountCall) (id : TransactionId) :
    call.operation id =
      Operation.request (.getTransaction id) >>= fun tx => Operation.ofResult (call.written tx) >>= write := by
  have hdiscard : ∀ d : Operation Transaction, discard d = d >>= fun _ => pure () := fun d =>
    (bind_pure_comp (fun _ => ()) d).symm
  -- the outcome of the writing is the outcome of the call
  have hwrite : ∀ tx : Transaction,
      (Operation.request (.updateTransaction tx) >>= fun _ => pure tx : Operation Transaction) >>= (fun _ => pure ()) =
        write (some tx) := fun tx => by
    rw [bind_assoc]
    exact bind_pure (Operation.request (.updateTransaction tx))
  cases call with
  | release =>
    change discard (Operation.releaseEncumbrance id) = _
    unfold Operation.releaseEncumbrance
    rw [hdiscard, bind_assoc]
    refine bind_congr fun tx => ?_
    rcases hrelease : Transaction.release tx with e | ⟨_ | _, released⟩ <;> simp only [written, hrelease]
    · rfl
    · exact hwrite released
    · rfl
  | moveToAwaitingPayment amount =>
    change discard (Operation.moveToAwaitingPayment id amount) = _
    unfold Operation.moveToAwaitingPayment
    rw [hdiscard, bind_assoc]
    refine bind_congr fun tx => ?_
    rcases hmove : Transaction.moveToAwaitingPayment tx amount with failure | moved <;> simp only [written, hmove]
    · rfl
    · exact hwrite moved

/-- Calls one after the other, as long as none fails. -/
def serial (id : TransactionId) : List AccountCall → Operation Unit
  | [] => return ()
  | call :: rest => do
    call.operation id
    serial id rest

end AccountCall

/-! ## Calls on a store -/

namespace Store

variable {s : Store}

theorem updateTransaction_of_mem {tx tx' : Transaction} (htx : tx ∈ s.transactions) (hid : tx'.id = tx.id) :
    s.updateTransaction tx' = (.ok (), { s with transactions := s.transactions.put tx' }) := by
  have hfind : s.transactions.find? tx'.id = some tx := Table.find?_eq_some_iff.mpr ⟨htx, hid.symm⟩
  unfold updateTransaction
  rw [hfind]

theorem perform_updateTransaction {tx tx' : Transaction} (htx : tx ∈ s.transactions) (hid : tx'.id = tx.id) :
    s.perform (Operation.request (.updateTransaction tx')) =
      (.ok (), { s with transactions := s.transactions.put tx' }) := by
  change ((s.updateTransaction tx').1.mapError StoreError.toFailure, (s.updateTransaction tx').2) = _
  rw [updateTransaction_of_mem htx hid]
  rfl

/-- A call fails without a trace, or it leaves the transaction as it is, or it writes the transaction with another
account. -/
theorem perform_accountCall {tx : Transaction} {id : TransactionId} (hfind : s.transactions.find? id = some tx)
    (call : AccountCall) :
    s.perform (call.operation id) =
      match call.written tx with
      | .error failure => (.error failure, s)
      | .ok none => (.ok (), s)
      | .ok (some tx') => (.ok (), { s with transactions := s.transactions.put tx' }) := by
  have hread : s.perform (Operation.request (.getTransaction id)) = (.ok tx, s) := by
    change ((found .transactions id (s.transactions.find? id)).mapError StoreError.toFailure, s) = _
    rw [hfind]
    rfl
  rw [AccountCall.operation_eq, perform_bind, hread]
  simp only [perform_bind, perform_ofResult]
  rcases hwritten : call.written tx with failure | _ | tx'
  · rfl
  · rfl
  · exact perform_updateTransaction (Table.find?_eq_some_iff.mp hfind).1 (AccountCall.id_of_written hwritten)

/-- A call on a transaction that is not stored fails without a trace. -/
theorem perform_accountCall_of_none {id : TransactionId} (hnone : s.transactions.find? id = none) (call : AccountCall) :
    ∃ failure, s.perform (call.operation id) = (.error failure, s) := by
  have hread : s.perform (Operation.request (.getTransaction id)) =
      (.error (StoreError.notFound .transactions id.text).toFailure, s) := by
    change ((found .transactions id (s.transactions.find? id)).mapError StoreError.toFailure, s) = _
    rw [hnone]
    rfl
  exact ⟨_, by rw [AccountCall.operation_eq, perform_bind, hread]⟩

theorem perform_serial_append {id : TransactionId} {calls rest : List AccountCall} {s' : Store}
    (h : s.perform (AccountCall.serial id calls) = (.ok (), s')) :
    s.perform (AccountCall.serial id (calls ++ rest)) = s'.perform (AccountCall.serial id rest) := by
  induction calls generalizing s with
  | nil =>
    obtain rfl : s = s' := congrArg Prod.snd h
    rfl
  | cons call calls ih =>
    change s.perform (call.operation id >>= fun _ => AccountCall.serial id calls) = _ at h
    change s.perform (call.operation id >>= fun _ => AccountCall.serial id (calls ++ rest)) = _
    rw [perform_bind] at h ⊢
    rcases hcall : s.perform (call.operation id) with ⟨failure | _, s₁⟩ <;> rw [hcall] at h
    · cases h
    · exact ih h

end Store

end FundLedger
