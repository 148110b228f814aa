/-!
# The distinct members of a list, ascending

* `ascending`: every member once, in ascending order.
* `mem_ascending`, `ascending_pairwise`: the same members, and strictly ascending where the order is linear.
-/

namespace FundLedger

variable {α : Type} [LT α] [DecidableLT α] [DecidableEq α]

/-- Puts a value into an ascending list, unless it is there. -/
def insertAscending (a : α) : List α → List α
  | [] => [a]
  | b :: rest =>
    if a < b then a :: b :: rest
    else if a = b then b :: rest
    else b :: insertAscending a rest

/-- The distinct members of a list, ascending. -/
def ascending (as : List α) : List α := as.foldr insertAscending []

theorem mem_insertAscending {a b : α} {as : List α} : b ∈ insertAscending a as ↔ b = a ∨ b ∈ as := by
  induction as with
  | nil => simp [insertAscending]
  | cons c rest ih =>
    unfold insertAscending
    split
    · simp
    · split
      · simp_all
      · simp only [List.mem_cons, ih]
        exact or_left_comm

theorem mem_ascending {a : α} {as : List α} : a ∈ ascending as ↔ a ∈ as := by
  induction as with
  | nil => simp [ascending]
  | cons b rest ih =>
    have : ascending (b :: rest) = insertAscending b (ascending rest) := rfl
    rw [this, mem_insertAscending, ih, List.mem_cons]

section Linear

variable (trans : ∀ {a b c : α}, a < b → b < c → a < c) (total : ∀ {a b : α}, ¬a < b → a ≠ b → b < a)

include trans total

theorem insertAscending_pairwise (a : α) {as : List α} (h : as.Pairwise (· < ·)) :
    (insertAscending a as).Pairwise (· < ·) := by
  induction as with
  | nil => simp [insertAscending]
  | cons b rest ih =>
    unfold insertAscending
    have hb := (List.pairwise_cons.1 h).1
    split
    · rename_i hab
      refine List.pairwise_cons.2 ⟨fun c hc => ?_, h⟩
      rcases List.mem_cons.1 hc with rfl | hc
      · exact hab
      · exact trans hab (hb c hc)
    · rename_i hab
      split
      · exact h
      · rename_i hne
        refine List.pairwise_cons.2 ⟨fun c hc => ?_, ih (List.pairwise_cons.1 h).2⟩
        rcases mem_insertAscending.1 hc with rfl | hc
        · exact total hab hne
        · exact hb c hc

theorem ascending_pairwise (as : List α) : (ascending as).Pairwise (· < ·) := by
  induction as with
  | nil => exact List.Pairwise.nil
  | cons a rest ih => exact insertAscending_pairwise trans total a ih

end Linear

end FundLedger
