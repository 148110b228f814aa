import FundLedger.Operation.Creation
import FundLedger.Proofs.Admission
import FundLedger.Proofs.Protocol
import FundLedger.Proofs.Queries
/-!
# Screening a transaction

Everything that the recording of a transaction does before it writes: budgets, funds, links and earlier allocations are
read, and the transaction is checked against them.

* `Operation.screen`, `Operation.createTransaction_eq`: recording is screening followed by writing.
* `Store.perform_screen`: screening leaves the store alone.
-/

namespace FundLedger

namespace Operation

/-- Reads what a transaction is checked against, and checks it: its budgets, and the allocations recorded before. -/
def screen (tx : Transaction) : Operation (List Budget × List Transaction) := do
  let budgets ← budgetsFor tx
  let (fromFund, toFund) ← linkedFunds tx
  let links ← classLinksFor tx budgets
  ofRule (tx.admission { budgets, fromFund, toFund, links })
  let recorded ← recordedAllocations tx
  return (budgets, recorded)

/-- Writes a screened transaction, and applies it to its budgets. -/
def record (tx : Transaction) (screened : List Budget × List Transaction) : Operation Transaction := do
  let created ← request (.createTransaction tx)
  applyToAll created screened.2 screened.1
  return created

theorem createTransaction_eq (tx : Transaction) :
    createTransaction tx = screen tx.normalized >>= record tx.normalized := by
  unfold createTransaction screen record
  simp only [bind_assoc, pure_bind]

open Protocol

theorem reads_linkedFunds (tx : Transaction) : (linkedFunds tx).Reads := by
  unfold linkedFunds
  split
  · have hread : ∀ id, (request (.getFund id)).Reads := fun _ => follows_request rfl fun _ => trivial
    exact (hread _).bind fun _ _ _ => (hread _).bind fun _ _ _ => follows_pure trivial
  · exact follows_pure trivial

theorem reads_classLinksFor (tx : Transaction) (budgets : List Budget) : (classLinksFor tx budgets).Reads := by
  unfold classLinksFor
  dsimp only
  split
  · exact follows_request rfl fun _ => trivial
  · exact follows_pure trivial

end Operation

/-- The transactions that an allocation is told of: the allocations that its receiver has a part in. -/
def Transaction.historyIn (tx : Transaction) (txs : List Transaction) : List Transaction :=
  match tx.kind, tx.toFund with
  | .allocation, some receiver => txs.filter fun t => t.isAmong [receiver] tx.fiscalYear [.allocation]
  | _, _ => []

namespace Store

variable {s : Store} {tx : Transaction}

/-- The budget of a fund in a fiscal year. -/
def budgetOf? (s : Store) (fund : FundId) (fiscalYear : FiscalYearId) : Option Budget :=
  s.budgets.records.find? fun b => decide (b.fund = fund) && decide (b.fiscalYear = fiscalYear)

/-- The budgets of the funds that a transaction names. -/
def budgetsOf (s : Store) (tx : Transaction) : List Budget := tx.funds.filterMap (s.budgetOf? · tx.fiscalYear)

/-- The allocations that an allocation is told of. -/
def historyFor (s : Store) (tx : Transaction) : List Transaction := tx.historyIn s.transactions.records

theorem perform_mapM {α β : Type} {f : α → Operation β} {g : α → β} {l : List α}
    (h : ∀ a ∈ l, s.perform (f a) = (.ok (g a), s)) : s.perform (l.mapM f) = (.ok (l.map g), s) := by
  induction l with
  | nil => rfl
  | cons a rest ih =>
    rw [List.mapM_cons, perform_bind, h a List.mem_cons_self]
    simp only [perform_bind, ih fun x hx => h x (List.mem_cons_of_mem a hx), perform_pure, List.map_cons]

theorem perform_budgetsFor : s.perform (Operation.budgetsFor tx) = (.ok (s.budgetsOf tx), s) := by
  unfold Operation.budgetsFor
  rw [perform_bind, perform_mapM (g := fun fund => (budgetOfFund fund tx.fiscalYear).filter s.budgets.records)
    fun fund _ => rfl]
  simp only [perform_pure, List.filterMap_map]
  unfold budgetsOf budgetOf?
  simp only [Function.comp_def, budgetOfFund_filter, List.head?_filter]

theorem perform_recordedAllocations : s.perform (Operation.recordedAllocations tx) = (.ok (s.historyFor tx), s) := by
  unfold Operation.recordedAllocations historyFor Transaction.historyIn
  cases tx.kind <;> cases tx.toFund <;> rfl

/-- Screening leaves the store alone.  What it lets pass has been admitted with the budgets of the store. -/
theorem perform_screen (s : Store) (tx : Transaction) :
    (∃ e, s.perform (Operation.screen tx) = (.error e, s)) ∨
      (s.perform (Operation.screen tx) = (.ok (s.budgetsOf tx, s.historyFor tx), s) ∧
        ∃ context, context.budgets = s.budgetsOf tx ∧ tx.admission context = .ok ()) := by
  obtain ⟨funds, hfunds⟩ := perform_of_reads (Operation.reads_linkedFunds tx) s
  obtain ⟨links, hlinks⟩ := perform_of_reads (Operation.reads_classLinksFor tx (s.budgetsOf tx)) s
  unfold Operation.screen
  simp only [perform_bind, perform_budgetsFor, hfunds]
  cases funds with
  | error e => exact .inl ⟨e, rfl⟩
  | ok funds =>
    simp only [hlinks]
    cases links with
    | error e => exact .inl ⟨e, rfl⟩
    | ok links =>
      simp only [perform_ofRule]
      cases hadmission : tx.admission ⟨s.budgetsOf tx, funds.1, funds.2, links⟩ with
      | error e => exact .inl ⟨.finance e, rfl⟩
      | ok _ =>
        refine .inr ⟨?_, _, rfl, hadmission⟩
        simp only [Except.mapError, perform_recordedAllocations, perform_pure]

end Store

end FundLedger
