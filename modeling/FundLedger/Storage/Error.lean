import FundLedger.Storage.Collection
/-!
# Errors of a storage

* `StoreError`: why a storage did not do what it was asked to.
* `StoreError.toFinance`: the error of the operation that asked.
-/

namespace FundLedger

/-- Why a storage did not do what it was asked to. -/
inductive StoreError
  | notFound (collection : Collection) (id : String)
  /-- The record was written since it was read. -/
  | versionConflict (collection : Collection) (id : String)
  /-- A clause that names no field. -/
  | invalidQuery (clause : String)
  /-- A server answered with a status that tells nothing more. -/
  | status (code : Nat) (url body : String)
  /-- A server could not be reached, or its answer could not be read. -/
  | transport (text : String)
  /-- A server answered with other records than were asked for. -/
  | decode (text : String)
  | unavailable (text : String)
deriving DecidableEq

namespace StoreError

/-- The text for readers. -/
def message : StoreError → String
  | notFound collection id => collection.key ++ " record not found: " ++ id
  | versionConflict collection id => collection.key ++ " record " ++ id ++ " was modified concurrently"
  | invalidQuery clause => "invalid query: " ++ clause
  | status code url body => "storage service returned " ++ toString code ++ " for " ++ url ++ ": " ++ body
  | transport text => "storage transport error: " ++ text
  | decode text => "malformed storage response: " ++ text
  | unavailable text => "storage unavailable: " ++ text

/-- The error of the operation that asked: a missing record and a stale write stay what they are, all else is a
failure of the storage. -/
def toFinance (e : StoreError) : FinanceError :=
  match e with
  | notFound collection id => .notFound collection.entity id
  | versionConflict .. => .conflict .version e.message
  | _ => .storageFailed e.message

end StoreError

end FundLedger
