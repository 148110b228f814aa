import FundLedger.Storage.Store
/-!
# Outages

A store may stop to answer some requests after a while.

* `Outage`: which requests fail, after how many of them, and how.
* `FailingStore`: a store with outages.
-/

namespace FundLedger

/-- Requests that fail, once some of them have been made. -/
structure Outage where
  affects : StorageRequest → Bool
  /-- How many of the requests are answered before. -/
  after : Nat
  error : StoreError

namespace Outage

/-- The outage after one more request. -/
def count (r : StorageRequest) (outage : Outage) : Outage :=
  if outage.affects r then { outage with after := outage.after - 1 } else outage

/-- Whether a request fails by now. -/
def stops (r : StorageRequest) (outage : Outage) : Bool := outage.affects r && outage.after == 0

end Outage

/-- A store, and outages of it. -/
structure FailingStore where
  store : Store
  outages : List Outage

namespace FailingStore

/-- The answer to a request, which is the first error among the outages that stop it. -/
def answer (s : FailingStore) (r : StorageRequest) : r.Outcome × FailingStore :=
  let outages := s.outages.map (Outage.count r)
  match s.outages.find? (Outage.stops r) with
  | some outage => (.error outage.error, { s with outages })
  | none =>
    let (outcome, store) := s.store.answer r
    (outcome, ⟨store, outages⟩)

end FailingStore

end FundLedger
