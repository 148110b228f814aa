import FundLedger.Operation.Budget
import FundLedger.Proofs.Recording
/-!
# Stages of recording and recalculation

How far an operation on budgets has come, when others may act in between.  A stage says which budgets the operation has
read and will still write, and what it was told of the recorded transactions.

* `Stage`, `Stage.held`: the stages, and the budgets that are read but not written yet.
* `Protocol.recording`: what is asked in each stage.
* `follows_createTransaction`, `follows_recalculateBudget`: the operations follow this protocol.
-/

namespace FundLedger

/-- How far an operation on budgets has come. -/
inductive Stage
  /-- Reads the budgets of the funds that are left. -/
  | reading (tx : Transaction) (budgets : List Budget) (unread : List FundId)
  /-- Knows the recorded allocations. -/
  | told (tx : Transaction) (budgets : List Budget) (recorded : List Transaction)
  /-- Has recorded the transaction and applies it to the budgets that are left. -/
  | applying (tx : Transaction) (recorded : List Transaction) (todo : List Budget)
  /-- Has not read the budget to recalculate. -/
  | opening
  | opened (budget : Budget)
  /-- Knows the history of the budget to recalculate. -/
  | counted (budget : Budget) (history : List Transaction)
  | closed

namespace Stage

/-- The budgets that are read and not written yet. -/
def held : Stage → List Budget
  | reading _ budgets _ | told _ budgets _ | applying _ _ budgets => budgets
  | opened b | counted b _ => [b]
  | opening | closed => []

/-- The budgets that a recorded transaction is not applied to yet. -/
def todo : Stage → List Budget
  | applying _ _ budgets => budgets
  | _ => []

/-- The transaction of an operation that records one. -/
def transaction? : Stage → Option Transaction
  | reading tx _ _ | told tx _ _ | applying tx _ _ => some tx
  | _ => none

/-- The transaction that has been recorded. -/
def stored? : Stage → Option Transaction
  | applying tx _ _ => some tx
  | _ => none

/-- Nothing is left to write. -/
def IsLast (stage : Stage) : Prop := stage.held = [] ∧ stage.stored? = stage.transaction?

/-- Nothing is left to read before the transaction is recorded. -/
def IsScreened (tx : Transaction) (budgets : List Budget) (recorded : List Transaction) (stage : Stage) : Prop :=
  stage = told tx budgets recorded ∨
    stage = reading tx budgets [] ∧ recorded = [] ∧ ∀ fund, tx.isReceivedBy fund = false

section

variable {tx : Transaction} {budgets : List Budget} {recorded : List Transaction} {stage : Stage}

theorem IsScreened.held_eq (h : stage.IsScreened tx budgets recorded) : stage.held = budgets := by
  rcases h with rfl | ⟨rfl, -, -⟩ <;> rfl

theorem IsScreened.todo_eq (h : stage.IsScreened tx budgets recorded) : stage.todo = [] := by
  rcases h with rfl | ⟨rfl, -, -⟩ <;> rfl

theorem IsScreened.transaction?_eq (h : stage.IsScreened tx budgets recorded) : stage.transaction? = some tx := by
  rcases h with rfl | ⟨rfl, -, -⟩ <;> rfl

theorem IsScreened.stored?_eq (h : stage.IsScreened tx budgets recorded) : stage.stored? = none := by
  rcases h with rfl | ⟨rfl, -, -⟩ <;> rfl

end

theorem mem_held_of_mem_todo {stage : Stage} {b : Budget} (h : b ∈ stage.todo) : b ∈ stage.held := by
  cases stage <;> first | exact h | cases h

end Stage

/-- The budgets have one of the transaction's currency for each of its funds. -/
def Transaction.IsAdmittedWith (tx : Transaction) (budgets : List Budget) : Prop :=
  ∀ fund ∈ tx.funds, ∃ b ∈ budgets, b.fund = fund ∧ tx.currency = b.currency

namespace Protocol

/-- What operations on budgets ask, and what they learn from it. -/
def recording : Protocol Stage where
  asks
    | .reading tx _ (fund :: _), .queryBudgets query => query = budgetOfFund fund tx.fiscalYear
    | .reading .., .getFund _ | .reading .., .queryBudgetExpenseClasses _ => True
    | .reading tx _ [], .transactionsByFunds funds fiscalYear kinds =>
      tx.kind = .allocation ∧ fiscalYear = tx.fiscalYear ∧ kinds = [.allocation] ∧
        ∃ receiver, tx.toFund = some receiver ∧ funds = [receiver]
    | .reading tx budgets [], .createTransaction created =>
      created = tx ∧ tx.IsAdmittedWith budgets ∧ ∀ fund, tx.isReceivedBy fund = false
    | .told tx budgets _, .createTransaction created => created = tx ∧ tx.IsAdmittedWith budgets
    | .applying tx recorded (b :: _), .updateBudget b' => b.applyWithHistory tx recorded = .ok b'
    | .opening, .getBudget _ => True
    | .opened b, .transactionsByFunds funds fiscalYear kinds =>
      funds = [b.fund] ∧ fiscalYear = b.fiscalYear ∧ kinds = []
    | .counted b history, .updateBudget b' => ∃ totals, b.recompute history = .ok totals ∧ b' = { b with totals }
    | _, _ => False
  next
    | .reading tx budgets (_ :: rest), .queryBudgets _, answer => .reading tx (budgets ++ answer.head?.toList) rest
    | .reading tx budgets [], .transactionsByFunds .., answer => .told tx budgets answer
    | .reading _ budgets [], .createTransaction _, created => .applying created [] budgets
    | .told _ budgets recorded, .createTransaction _, created => .applying created recorded budgets
    | .applying tx recorded (_ :: rest), .updateBudget _, _ => .applying tx recorded rest
    | .opening, .getBudget _, b => .opened b
    | .opened b, .transactionsByFunds .., answer => .counted b answer
    | .counted .., .updateBudget _, _ => .closed
    | stage, _, _ => stage

/-! ## The operations -/

section Follows

variable {tx : Transaction} {budgets : List Budget} {recorded : List Transaction}

/-- Budgets are read fund by fund. -/
theorem follows_budgetsOfFunds (unread : List FundId) :
    recording.Follows (fun stage found => stage = .reading tx (budgets ++ found.filterMap List.head?) [])
      (.reading tx budgets unread)
      (unread.mapM fun fund => Operation.request (.queryBudgets (budgetOfFund fund tx.fiscalYear))).run := by
  induction unread generalizing budgets with
  | nil =>
    refine follows_pure ?_
    simp
  | cons fund rest ih =>
    rw [List.mapM_cons]
    have hread : recording.Follows (fun stage answer => stage = .reading tx (budgets ++ answer.head?.toList) rest)
        (.reading tx budgets (fund :: rest))
        (Operation.request (.queryBudgets (budgetOfFund fund tx.fiscalYear))).run :=
      follows_request rfl fun _ => rfl
    refine hread.bind ?_
    rintro _ answer rfl
    refine ih.bind ?_
    rintro _ found rfl
    refine follows_pure ?_
    cases hhead : answer.head? <;> simp [hhead]

theorem follows_budgetsFor :
    recording.Follows (fun stage found => stage = .reading tx found []) (.reading tx [] tx.funds)
      (Operation.budgetsFor tx).run := by
  unfold Operation.budgetsFor
  refine (follows_budgetsOfFunds tx.funds).bind ?_
  rintro _ found rfl
  exact follows_pure rfl

theorem follows_linkedFunds :
    recording.Follows (fun stage _ => stage = .reading tx budgets []) (.reading tx budgets [])
      (Operation.linkedFunds tx).run := by
  have hread : ∀ id, recording.Follows (fun stage _ => stage = .reading tx budgets []) (.reading tx budgets [])
      (Operation.request (.getFund id)).run := fun _ => follows_request trivial fun _ => rfl
  unfold Operation.linkedFunds
  split
  · refine (hread _).bind ?_
    rintro _ _ rfl
    refine (hread _).bind ?_
    rintro _ _ rfl
    exact follows_pure rfl
  · exact follows_pure rfl

theorem follows_classLinksFor :
    recording.Follows (fun stage _ => stage = .reading tx budgets []) (.reading tx budgets [])
      (Operation.classLinksFor tx budgets).run := by
  unfold Operation.classLinksFor
  dsimp only
  split
  · exact follows_request trivial fun _ => rfl
  · exact follows_pure rfl

/-- An allocation asks for what is recorded, other transactions go on at once. -/
theorem follows_recordedAllocations :
    recording.Follows
      (fun stage answer => stage.IsScreened tx budgets answer)
      (.reading tx budgets []) (Operation.recordedAllocations tx).run := by
  unfold Operation.recordedAllocations
  split
  · rename_i receiver hkind hreceiver
    exact follows_request ⟨hkind, rfl, rfl, receiver, hreceiver, rfl⟩ fun _ => .inl rfl
  · rename_i hother
    refine follows_pure (.inr ⟨rfl, rfl, fun fund => ?_⟩)
    rw [← Bool.not_eq_true]
    intro hreceived
    obtain ⟨hkind, hrole⟩ : tx.kind = .allocation ∧ tx.toFund = some fund := by
      simpa [Transaction.isReceivedBy, Transaction.hasRole] using hreceived
    exact hother fund hkind hrole

/-- The budgets are written one after the other. -/
theorem follows_applyToAll (todo : List Budget) :
    recording.Follows (fun stage _ => stage = .applying tx recorded []) (.applying tx recorded todo)
      (Operation.applyToAll tx recorded todo).run := by
  induction todo with
  | nil => exact follows_pure rfl
  | cons b rest ih =>
    have hwrite : ∀ b', b.applyWithHistory tx recorded = .ok b' →
        recording.Follows (fun stage _ => stage = .applying tx recorded rest) (.applying tx recorded (b :: rest))
          (Operation.request (.updateBudget b')).run := fun _ happly => follows_request happly fun _ => rfl
    have happly : recording.Follows (fun stage _ => stage = .applying tx recorded rest)
        (.applying tx recorded (b :: rest)) (Operation.applyTo tx recorded b).run := by
      have hsum : recording.Follows
          (fun stage b' => stage = .applying tx recorded (b :: rest) ∧ b.applyWithHistory tx recorded = .ok b')
          (.applying tx recorded (b :: rest)) (Operation.ofArithmetic (b.applyWithHistory tx recorded)).run :=
        follows_ofArithmetic fun b' hb' => ⟨rfl, hb'⟩
      unfold Operation.applyTo
      refine hsum.bind ?_
      rintro _ b' ⟨rfl, hb'⟩
      exact (hwrite b' hb').discard
    unfold Operation.applyToAll
    refine happly.bind ?_
    rintro _ _ rfl
    exact ih

/-- A transaction that has been admitted, and is told what it asked for. -/
theorem follows_screen :
    recording.Follows
      (fun stage screened => tx.IsAdmittedWith screened.1 ∧ stage.IsScreened tx screened.1 screened.2)
      (.reading tx [] tx.funds) (Operation.screen tx).run := by
  unfold Operation.screen
  refine follows_budgetsFor.bind ?_
  rintro _ budgets rfl
  refine follows_linkedFunds.bind ?_
  rintro _ funds rfl
  refine follows_classLinksFor.bind ?_
  rintro _ links rfl
  have hrule : recording.Follows (fun stage _ => stage = .reading tx budgets [] ∧ tx.IsAdmittedWith budgets)
      (.reading tx budgets []) (Operation.ofRule (tx.admission ⟨budgets, funds.1, funds.2, links⟩)).run := by
    refine follows_ofRule fun _ hadmission => ⟨rfl, fun fund hfund => ?_⟩
    obtain ⟨b, hb, hcurrency⟩ := Transaction.admission_currency hadmission fund hfund
    have hfund : (b.fund == fund) = true := List.find?_some (p := fun c : Budget => c.fund == fund) hb
    exact ⟨b, List.mem_of_find?_eq_some hb, eq_of_beq hfund, hcurrency⟩
  refine hrule.bind ?_
  rintro _ _ ⟨rfl, hadmitted⟩
  refine follows_recordedAllocations.bind fun stage recorded hstage => ?_
  exact follows_pure ⟨hadmitted, hstage⟩

theorem follows_record {stage : Stage} (hadmitted : tx.IsAdmittedWith budgets)
    (hstage : stage.IsScreened tx budgets recorded) :
    recording.Follows (fun stage _ => stage.IsLast) stage (Operation.record tx (budgets, recorded)).run := by
  have hcreate : recording.Follows (fun stage created => stage = .applying created recorded budgets) stage
      (Operation.request (.createTransaction tx)).run := by
    rcases hstage with rfl | ⟨rfl, rfl, hother⟩
    · exact follows_request ⟨rfl, hadmitted⟩ fun _ => rfl
    · exact follows_request ⟨rfl, hadmitted, hother⟩ fun _ => rfl
  unfold Operation.record
  refine hcreate.bind ?_
  rintro _ created rfl
  refine (follows_applyToAll budgets).bind ?_
  rintro _ _ rfl
  exact follows_pure ⟨rfl, rfl⟩

/-- Recording a transaction. -/
theorem follows_createTransaction (tx : Transaction) :
    recording.Follows (fun stage _ => stage.IsLast) (.reading tx.normalized [] tx.normalized.funds)
      (Operation.createTransaction tx).run := by
  rw [Operation.createTransaction_eq]
  refine follows_screen.bind ?_
  rintro stage ⟨budgets, recorded⟩ ⟨hadmitted, hstage⟩
  exact follows_record hadmitted hstage

theorem follows_recalculateBudget (id : BudgetId) :
    recording.Follows (fun stage _ => stage.IsLast) .opening (Operation.recalculateBudget id).run := by
  unfold Operation.recalculateBudget
  have hopen : recording.Follows (fun stage b => stage = .opened b) .opening
      (Operation.request (.getBudget id)).run := follows_request trivial fun _ => rfl
  refine hopen.bind ?_
  rintro _ b rfl
  have hread : recording.Follows (fun stage history => stage = .counted b history) (.opened b)
      (Operation.historyOf b).run := follows_request ⟨rfl, rfl, rfl⟩ fun _ => rfl
  refine hread.bind ?_
  rintro _ history rfl
  have hreconcile : recording.Follows (fun stage (r : Reconciliation) => stage = .counted b history ∧
      ∃ totals, b.recompute history = .ok totals ∧ r.budget = { b with totals }) (.counted b history)
      (Operation.ofArithmetic (b.reconcile history)).run :=
    follows_ofArithmetic fun _ hr => ⟨rfl, Budget.reconcile_eq_ok hr⟩
  refine hreconcile.bind ?_
  rintro _ r ⟨rfl, hr⟩
  have hwrite : recording.Follows (fun stage _ => stage = .closed) (.counted b history)
      (Operation.request (.updateBudget r.budget)).run := follows_request hr fun _ => rfl
  refine hwrite.bind ?_
  rintro _ written rfl
  exact follows_pure ⟨rfl, rfl⟩

end Follows

end Protocol

end FundLedger
