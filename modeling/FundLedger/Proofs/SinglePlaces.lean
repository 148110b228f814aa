import FundLedger.Proofs.ExactTotals
/-!
# One sum at a time

An effect adds to single sums of a budget.  What is known of an addition is known of the sums then, in whichever place it
happens, and all other sums stay related as they were.

* `Sums.Place`: the places of the sums; `Sums.get` and `Sums.put` for the amount in one of them.
* `Sums.Rel.put`: related amounts put into related sums.
* `Sums.addAt`, `Sums.Counts.addAt`: an amount added in one place.
-/

namespace FundLedger

namespace Sums

/-- The places of the sums. -/
inductive Place where
  | initialAllocation
  | allocationTo
  | allocationFrom
  | netTransfers
  | encumbered
  | awaitingPayment
  | expenditures
  | credits

/-! ## Places -/

section Place

variable {α β : Type}

/-- The amount in a place. -/
def get (s : Sums α) : Place → α
  | .initialAllocation => s.initialAllocation
  | .allocationTo => s.allocationTo
  | .allocationFrom => s.allocationFrom
  | .netTransfers => s.netTransfers
  | .encumbered => s.encumbered
  | .awaitingPayment => s.awaitingPayment
  | .expenditures => s.expenditures
  | .credits => s.credits

/-- The sums with another amount in a place. -/
def put (s : Sums α) (place : Place) (a : α) : Sums α :=
  match place with
  | .initialAllocation => { s with initialAllocation := a }
  | .allocationTo => { s with allocationTo := a }
  | .allocationFrom => { s with allocationFrom := a }
  | .netTransfers => { s with netTransfers := a }
  | .encumbered => { s with encumbered := a }
  | .awaitingPayment => { s with awaitingPayment := a }
  | .expenditures => { s with expenditures := a }
  | .credits => { s with credits := a }

@[simp] theorem put_get (s : Sums α) (place : Place) : s.put place (s.get place) = s := by cases place <;> rfl

@[simp] theorem get_put (s : Sums α) (place : Place) (a : α) : (s.put place a).get place = a := by cases place <;> rfl

@[simp] theorem get_replicate (a : α) (place : Place) : (replicate a).get place = a := by cases place <;> rfl

variable {r : α → β → Prop} {s : Sums α} {t : Sums β}

theorem Rel.get (h : s.Rel r t) : ∀ place, r (s.get place) (t.get place)
  | .initialAllocation => h.initialAllocation
  | .allocationTo => h.allocationTo
  | .allocationFrom => h.allocationFrom
  | .netTransfers => h.netTransfers
  | .encumbered => h.encumbered
  | .awaitingPayment => h.awaitingPayment
  | .expenditures => h.expenditures
  | .credits => h.credits

/-- Related amounts in one place of related sums. -/
theorem Rel.put {a : α} {b : β} (h : s.Rel r t) (hab : r a b) : ∀ place, (s.put place a).Rel r (t.put place b)
  | .initialAllocation => { h with initialAllocation := hab }
  | .allocationTo => { h with allocationTo := hab }
  | .allocationFrom => { h with allocationFrom := hab }
  | .netTransfers => { h with netTransfers := hab }
  | .encumbered => { h with encumbered := hab }
  | .awaitingPayment => { h with awaitingPayment := hab }
  | .expenditures => { h with expenditures := hab }
  | .credits => { h with credits := hab }

/-- Only the amount in the place differs, so the others need to be related as they were. -/
theorem Rel.put_left {a : α} {place : Place} (h : s.Rel r t) (ha : r a (t.get place)) : (s.put place a).Rel r t := by
  have hput := h.put ha place
  rwa [put_get] at hput

end Place

/-! ## Additions -/

/-- Whole sums with one amount only. -/
def single (place : Place) (n : Int) : Sums Int := (0 : Sums Int).put place n

theorem add_single (m : Sums Int) (place : Place) (n : Int) : m + single place n = m.put place (m.get place + n) := by
  cases place <;> ext <;> simp [single, put, get]

theorem natAbs_get_le_norm (m : Sums Int) (place : Place) : (m.get place).natAbs ≤ m.norm := by
  have h := m.rel_natAbs_le_norm.get place
  rwa [get_replicate] at h

/-- The sums with an amount added in a place. -/
def addAt (s : Sums Decimal) (place : Place) (a : Decimal) : Except Overflow (Sums Decimal) := do
  return s.put place (← (s.get place).add a)

theorem addAt_of_add {s : Sums Decimal} {place : Place} {a c : Decimal} (h : (s.get place).add a = .ok c) :
    s.addAt place a = .ok (s.put place c) := by
  unfold addAt
  rw [h]
  rfl

/-- An addition to sums that count whole ones. -/
theorem Counts.addAt {p : Nat} {s : Sums Decimal} {m : Sums Int} {a : Decimal} {n : Int} (h : s.Counts p m)
    (place : Place) (hp : p ≤ 28) (ha : a.Counts p n) (small : (m + single place n).norm < mantissaLimit) :
    ∃ s', s.addAt place a = .ok s' ∧ s'.Counts p (m + single place n) := by
  have hplace : (m.get place + n).natAbs < mantissaLimit :=
    calc (m.get place + n).natAbs
        = ((m + single place n).get place).natAbs := by rw [add_single, get_put]
      _ ≤ (m + single place n).norm := natAbs_get_le_norm _ place
      _ < mantissaLimit := small
  obtain ⟨c, hc, hcount⟩ := (h.get place).add hp ha hplace
  refine ⟨s.put place c, addAt_of_add hc, ?_⟩
  rw [add_single]
  exact h.put hcount place

end Sums

end FundLedger
