import FundLedger.Dialogue
import FundLedger.Storage.Outage
/-!
# Operations on a ledger

An operation is a dialogue with a storage that may fail.  It reads and writes one record or list at a time and stops
at the first failure; what it wrote until then stays.

* `Operation`, `Operation.request`: operations, and the one that asks the storage once.
* `Store.perform`, `FailingStore.perform`: an operation with its requests answered by a store.
* `perform_bind`: what follows goes on with the result and the store of what came before.
-/

namespace FundLedger

/-- A dialogue with a storage that may fail. -/
abbrev Operation (α : Type) : Type := ExceptT Failure (Dialogue StorageRequest StorageRequest.Outcome) α

/-- An error of the storage, as the failure of the operation that asked. -/
def StoreError.toFailure (e : StoreError) : Failure := .finance e.toFinance

namespace Operation

variable {α : Type}

/-- Asks the storage once. -/
def request (r : StorageRequest) : Operation r.Answer :=
  ExceptT.mk (.ask r fun outcome => .done (outcome.mapError StoreError.toFailure))

/-- Goes on with the result of a computation, unless that overflowed. -/
def ofArithmetic (result : Except Overflow α) : Operation α :=
  ExceptT.mk (.done (result.mapError Failure.overflow))

/-- Goes on if a rule holds. -/
def ofRule (result : Except FinanceError α) : Operation α :=
  ExceptT.mk (.done (result.mapError Failure.finance))

/-- Goes on with a result, unless there is none. -/
def ofResult (result : Except Failure α) : Operation α := ExceptT.mk (.done result)

end Operation

/-- An operation on a store: its result, and the store after it. -/
def Store.perform {α : Type} (s : Store) (operation : Operation α) : Except Failure α × Store :=
  (operation.run.answeredBy (m := StateM Store) fun r s => s.answer r) s

/-- An operation on a store with outages. -/
def FailingStore.perform {α : Type} (s : FailingStore) (operation : Operation α) : Except Failure α × FailingStore :=
  (operation.run.answeredBy (m := StateM FailingStore) fun r s => s.answer r) s

section

variable {α β : Type}

namespace Store

variable (s : Store)

@[simp]
theorem perform_pure (a : α) : s.perform (pure a) = (.ok a, s) := rfl

@[simp]
theorem perform_request (r : StorageRequest) :
    s.perform (.request r) = ((s.answer r).1.mapError StoreError.toFailure, (s.answer r).2) := rfl

@[simp]
theorem perform_ofArithmetic (result : Except Overflow α) :
    s.perform (.ofArithmetic result) = (result.mapError Failure.overflow, s) := rfl

@[simp]
theorem perform_ofRule (result : Except FinanceError α) :
    s.perform (.ofRule result) = (result.mapError Failure.finance, s) := rfl

@[simp]
theorem perform_ofResult (result : Except Failure α) : s.perform (.ofResult result) = (result, s) := rfl

theorem perform_bind (a : Operation α) (f : α → Operation β) :
    s.perform (a >>= f) =
      match s.perform a with
      | (.ok x, s') => s'.perform (f x)
      | (.error e, s') => (.error e, s') := by
  unfold perform
  rw [Dialogue.answeredBy_run_bind]
  rcases a.run.answeredBy (m := StateM Store) (fun r s => s.answer r) s with ⟨_ | x, s'⟩ <;> rfl

end Store

namespace FailingStore

variable (s : FailingStore)

@[simp]
theorem perform_pure (a : α) : s.perform (pure a) = (.ok a, s) := rfl

@[simp]
theorem perform_request (r : StorageRequest) :
    s.perform (.request r) = ((s.answer r).1.mapError StoreError.toFailure, (s.answer r).2) := rfl

theorem perform_bind (a : Operation α) (f : α → Operation β) :
    s.perform (a >>= f) =
      match s.perform a with
      | (.ok x, s') => s'.perform (f x)
      | (.error e, s') => (.error e, s') := by
  unfold perform
  rw [Dialogue.answeredBy_run_bind]
  rcases a.run.answeredBy (m := StateM FailingStore) (fun r s => s.answer r) s with ⟨_ | x, s'⟩ <;> rfl

end FailingStore

end

end FundLedger
