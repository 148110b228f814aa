import FundLedger.Proofs.Legality
import FundLedger.Proofs.Places
/-!
# References

The funds that transactions name have their budgets, the classes that money is reserved for are linked to these, and the
links lead to budgets.  No call breaks this: what it refers to is checked before a record is written, and a budget or a
link is deleted only when nothing refers to it.

* `Store.Referential`: all references of a ledger are kept.
* `Store.Leaves`: what a call leaves of a store, also if it stops half-way.
* `Store.Course.keeps_references`: references along any course of calls.
-/

namespace FundLedger

namespace Store

/-- Whatever the records of a ledger refer to is there. -/
structure Referential (s : Store) : Prop where
  /-- The funds of a transaction have budgets for its year. -/
  budgets : ∀ tx ∈ s.transactions, ∀ fund, tx.fromFund = some fund ∨ tx.toFund = some fund →
    ∃ b ∈ s.budgets, b.fund = fund ∧ b.fiscalYear = tx.fiscalYear
  /-- Money is reserved for a class only if the sender's budget is linked to it. -/
  classes : ∀ tx ∈ s.transactions, tx.kind = .encumbrance → ∀ fund expenseClass,
    tx.fromFund = some fund → tx.expenseClass = some expenseClass →
      ∃ b ∈ s.budgets, b.fund = fund ∧ b.fiscalYear = tx.fiscalYear ∧
        ∃ l ∈ s.budgetExpenseClasses, l.budget = b.id ∧ l.expenseClass = expenseClass
  /-- Links lead to budgets. -/
  links : ∀ l ∈ s.budgetExpenseClasses, ∃ b ∈ s.budgets, b.id = l.budget

variable {s s' : Store} {b : Budget}

/-! ## What a call leaves -/

/-- What a call leaves of a store, whatever comes of it. -/
inductive Leaves (s : Store) : Store → Prop
  /-- Budgets are written in their places, if any. -/
  | rewritten {s' : Store} (h : s.Rewritten s') : Leaves s s'
  /-- A legal transaction is recorded, and written to as many of its budgets as it gets to. -/
  | recorded {tx : Transaction} {s' : Store} (hlegal : s.Legal tx)
      (h : { s with transactions := s.transactions.put tx.normalized }.Rewritten s') : Leaves s s'
  /-- The account of a reservation is another one. -/
  | accounted {tx tx' : Transaction} (htx : tx ∈ s.transactions) (hbare : tx'.bare = tx.bare) :
      Leaves s { s with transactions := s.transactions.put tx' }
  /-- A budget without transactions is deleted, and its links are. -/
  | deleted {b : Budget} {budgetExpenseClasses : Table BudgetExpenseClass} (hb : b ∈ s.budgets)
      (hscope : b.scope s.transactions.records = [])
      (hlinks : ∀ l, l ∈ budgetExpenseClasses ↔ l ∈ s.budgetExpenseClasses ∧ l.budget ≠ b.id) :
      Leaves s { s with budgetExpenseClasses, budgets := s.budgets.erase b.id }
  /-- A link is deleted whose class no transaction of the budget has. -/
  | unlinked {b : Budget} {l : BudgetExpenseClass} (hb : b ∈ s.budgets) (hl : l ∈ s.budgetExpenseClasses)
      (hbudget : l.budget = b.id)
      (hunused : ∀ tx ∈ b.scope s.transactions.records, tx.expenseClass ≠ some l.expenseClass) :
      Leaves s { s with budgetExpenseClasses := s.budgetExpenseClasses.erase l.id }

theorem leaves_createTransaction (hone : s.OneBudget) (tx : Transaction) :
    s.Leaves (s.perform (.createTransaction tx)).2 := by
  rw [Operation.createTransaction_eq, perform_bind]
  rcases perform_screen_cases hone tx with ⟨hlegal, hscreen⟩ | ⟨-, e, hscreen⟩
  · rw [hscreen]
    exact .recorded hlegal (s.rewritten_record tx.normalized _)
  · rw [hscreen]
    exact .rewritten (.refl s)

theorem leaves_accountCall (s : Store) (id : TransactionId) (call : AccountCall) :
    s.Leaves (s.perform (call.operation id)).2 := by
  cases hfind : s.transactions.find? id with
  | none =>
    obtain ⟨failure, he⟩ := perform_accountCall_of_none hfind call
    rw [he]
    exact .rewritten (.refl s)
  | some tx =>
    rw [perform_accountCall hfind call]
    rcases hwritten : call.written tx with failure | _ | tx'
    · exact .rewritten (.refl s)
    · exact .rewritten (.refl s)
    · exact .accounted (Table.find?_eq_some_iff.mp hfind).1 (AccountCall.bare_of_written hwritten)

theorem leaves_call (hone : s.OneBudget) (call : Call) : s.Leaves (s.perform call.operation).2 := by
  cases call with
  | create tx =>
    change s.Leaves (s.perform (discard (.createTransaction tx))).2
    rw [perform_discard_snd]
    exact leaves_createTransaction hone tx
  | release id => exact leaves_accountCall s id .release
  | moveToAwaitingPayment id amount => exact leaves_accountCall s id (.moveToAwaitingPayment amount)
  | recalculateBudget id =>
    refine .rewritten (Rewritten.discard ?_)
    unfold Operation.recalculateBudget
    rw [perform_bind]
    rcases s.perform_getBudget id with ⟨failure, he⟩ | ⟨b, hb, -, hok⟩
    · rw [he]
      exact .refl s
    · rw [hok]
      exact rewritten_recalculate (inPlace_of_mem hb)
  | recalculateFiscalYear fiscalYear =>
    have hread : s.perform (Operation.request (.queryBudgets (byFiscalYear fiscalYear))) =
        (.ok ((byFiscalYear fiscalYear).filter s.budgets.records), s) := rfl
    refine .rewritten (Rewritten.discard ?_)
    unfold Operation.recalculateFiscalYear
    rw [perform_bind, hread]
    exact rewritten_recalculateAll fun b hb => inPlace_of_mem (List.mem_of_mem_filter hb)
  | deleteBudget id =>
    rcases s.perform_deleteBudget id with ⟨failure, he⟩ | ⟨b, hb, rfl, hscope, budgetExpenseClasses, hok, hlinks⟩
    · rw [Call.operation, he]
      exact .rewritten (.refl s)
    · rw [Call.operation, hok]
      exact .deleted hb hscope hlinks
  | removeExpenseClass id expenseClass =>
    rcases s.perform_removeExpenseClass id expenseClass with
      ⟨failure, he⟩ | ⟨b, hb, l, hl, rfl, hbudget, rfl, hunused, hok⟩
    · rw [Call.operation, he]
      exact .rewritten (.refl s)
    · rw [Call.operation, hok]
      exact .unlinked hb hl hbudget hunused

/-! ## References are kept -/

theorem Rewritten.oneBudget (h : s.Rewritten s') (hone : s.OneBudget) : s'.OneBudget := by
  intro c hc c' hc' hfund hyear
  obtain ⟨b, hb, hplace⟩ := h.symm.mem hc
  obtain ⟨b', hb', hplace'⟩ := h.symm.mem hc'
  simp only [Budget.place, Prod.mk.injEq] at hplace hplace'
  obtain ⟨hid, hof, hin⟩ := hplace
  obtain ⟨hid', hof', hin'⟩ := hplace'
  obtain rfl := hone b hb b' hb' (by rw [hof, hfund, hof']) (by rw [hin, hyear, hin'])
  exact Table.eq_of_id_eq hc hc' (hid.symm.trans hid')

theorem Rewritten.referential (h : s.Rewritten s') (href : s.Referential) : s'.Referential where
  budgets := by
    rw [h.transactions]
    intro tx htx fund hfund
    obtain ⟨b, hb, rfl, hyear⟩ := href.budgets tx htx fund hfund
    obtain ⟨c, hc, hplace⟩ := h.mem hb
    simp only [Budget.place, Prod.mk.injEq] at hplace
    exact ⟨c, hc, hplace.2.1, hplace.2.2.trans hyear⟩
  classes := by
    rw [h.transactions, h.links]
    intro tx htx hkind fund expenseClass hfund hclass
    obtain ⟨b, hb, rfl, hyear, l, hl, hbudget, hof⟩ := href.classes tx htx hkind fund expenseClass hfund hclass
    obtain ⟨c, hc, hplace⟩ := h.mem hb
    simp only [Budget.place, Prod.mk.injEq] at hplace
    exact ⟨c, hc, hplace.2.1, hplace.2.2.trans hyear, l, hl, hbudget.trans hplace.1.symm, hof⟩
  links := by
    rw [h.links]
    intro l hl
    obtain ⟨b, hb, hid⟩ := href.links l hl
    obtain ⟨c, hc, hplace⟩ := h.mem hb
    exact ⟨c, hc, (congrArg Prod.fst hplace).trans hid⟩

/-- A transaction put in whose funds, year and class are those of a legal or a stored one. -/
theorem Referential.putTransaction {tx : Transaction} (href : s.Referential)
    (hbudgets : ∀ fund, tx.fromFund = some fund ∨ tx.toFund = some fund →
      ∃ b ∈ s.budgets, b.fund = fund ∧ b.fiscalYear = tx.fiscalYear)
    (hclasses : tx.kind = .encumbrance → ∀ fund expenseClass, tx.fromFund = some fund →
      tx.expenseClass = some expenseClass → ∃ b ∈ s.budgets, b.fund = fund ∧ b.fiscalYear = tx.fiscalYear ∧
        ∃ l ∈ s.budgetExpenseClasses, l.budget = b.id ∧ l.expenseClass = expenseClass) :
    { s with transactions := s.transactions.put tx }.Referential where
  budgets := by
    intro t ht
    rcases Table.mem_put.mp ht with rfl | ⟨ht, -⟩
    · exact hbudgets
    · exact href.budgets t ht
  classes := by
    intro t ht
    rcases Table.mem_put.mp ht with rfl | ⟨ht, -⟩
    · exact hclasses
    · exact href.classes t ht
  links := href.links

/-- The transactions of a budget are in its scope. -/
theorem mem_scope {tx : Transaction} (htx : tx ∈ s.transactions) {fund : FundId}
    (hfund : tx.fromFund = some fund ∨ tx.toFund = some fund) (hof : b.fund = fund)
    (hyear : b.fiscalYear = tx.fiscalYear) : tx ∈ b.scope s.transactions.records := by
  refine List.mem_filter.mpr ⟨htx, ?_⟩
  rw [hyear, beq_self_eq_true, Bool.true_and, hof]
  exact Transaction.touches_iff.mpr hfund

/-- A deleted budget has no transaction, and nothing else is deleted but its links. -/
theorem Referential.deleteBudget (href : s.Referential) {budgetExpenseClasses : Table BudgetExpenseClass}
    (hb : b ∈ s.budgets) (hscope : b.scope s.transactions.records = [])
    (hlinks : ∀ l, l ∈ budgetExpenseClasses ↔ l ∈ s.budgetExpenseClasses ∧ l.budget ≠ b.id) :
    { s with budgetExpenseClasses, budgets := s.budgets.erase b.id }.Referential := by
  -- the budget of a transaction is another one
  have hother : ∀ tx ∈ s.transactions, ∀ fund, tx.fromFund = some fund ∨ tx.toFund = some fund →
      ∀ c ∈ s.budgets, c.fund = fund → c.fiscalYear = tx.fiscalYear → c.id ≠ b.id := by
    intro tx htx fund hfund c hc hof hyear hid
    obtain rfl := Table.eq_of_id_eq hc hb hid
    have hmem := mem_scope htx hfund hof hyear
    rw [hscope] at hmem
    cases hmem
  constructor
  · intro tx htx fund hfund
    obtain ⟨c, hc, hof, hyear⟩ := href.budgets tx htx fund hfund
    exact ⟨c, Table.mem_erase.mpr ⟨hc, hother tx htx fund hfund c hc hof hyear⟩, hof, hyear⟩
  · intro tx htx hkind fund expenseClass hfund hclass
    obtain ⟨c, hc, hof, hyear, l, hl, hbudget, hto⟩ := href.classes tx htx hkind fund expenseClass hfund hclass
    have hne := hother tx htx fund (.inl hfund) c hc hof hyear
    have hkept : l ∈ budgetExpenseClasses := (hlinks l).mpr ⟨hl, hbudget ▸ hne⟩
    exact ⟨c, Table.mem_erase.mpr ⟨hc, hne⟩, hof, hyear, l, hkept, hbudget, hto⟩
  · intro l hl
    obtain ⟨hl, hne⟩ := (hlinks l).mp hl
    obtain ⟨c, hc, hid⟩ := href.links l hl
    exact ⟨c, Table.mem_erase.mpr ⟨hc, fun heq => hne (hid.symm.trans heq)⟩, hid⟩

/-- A deleted link is none that a transaction needs. -/
theorem Referential.deleteLink (href : s.Referential) {l : BudgetExpenseClass} (hb : b ∈ s.budgets)
    (hl : l ∈ s.budgetExpenseClasses) (hbudget : l.budget = b.id)
    (hunused : ∀ tx ∈ b.scope s.transactions.records, tx.expenseClass ≠ some l.expenseClass) :
    { s with budgetExpenseClasses := s.budgetExpenseClasses.erase l.id }.Referential where
  budgets := href.budgets
  classes := by
    intro tx htx hkind fund expenseClass hfund hclass
    obtain ⟨c, hc, hof, hyear, k, hk, hto, hkclass⟩ := href.classes tx htx hkind fund expenseClass hfund hclass
    refine ⟨c, hc, hof, hyear, k, Table.mem_erase.mpr ⟨hk, fun hid => ?_⟩, hto, hkclass⟩
    -- were it the deleted one, the transaction would use its class
    obtain rfl := Table.eq_of_id_eq hk hl hid
    obtain rfl := Table.eq_of_id_eq hc hb (hto.symm.trans hbudget)
    exact hunused tx (mem_scope htx (.inl hfund) hof hyear) (hkclass ▸ hclass)
  links := fun k hk => href.links k (Table.mem_erase.mp hk).1

theorem Leaves.oneBudget (h : s.Leaves s') (hone : s.OneBudget) : s'.OneBudget := by
  cases h with
  | rewritten h => exact h.oneBudget hone
  | recorded hlegal h => exact h.oneBudget hone
  | accounted htx hbare => exact hone
  | deleted hb hscope hlinks =>
    exact fun c hc c' hc' => hone c (Table.mem_erase.mp hc).1 c' (Table.mem_erase.mp hc').1
  | unlinked hb hl hbudget hunused => exact hone

/-- Whatever a call leaves, references are kept. -/
theorem Leaves.referential (h : s.Leaves s') (href : s.Referential) : s'.Referential := by
  cases h with
  | rewritten h => exact h.referential href
  | @recorded tx s' hlegal h =>
    refine h.referential (href.putTransaction (fun fund hfund => ?_) fun hkind fund expenseClass hfund hclass => ?_)
    · obtain ⟨b, hb, hof, hyear, -⟩ := hlegal.budgets fund hfund
      exact ⟨b, hb, hof, hyear⟩
    · obtain ⟨b, hb, hsender, hyear, l, hl, hbudget, hto, -⟩ := hlegal.expenseClass hkind expenseClass hclass
      exact ⟨b, hb, Option.some.inj (hsender.symm.trans hfund), hyear, l, hl, hbudget, hto⟩
  | @accounted tx tx' htx hbare =>
    have hsame : ∀ {γ : Type} (g : Transaction → γ), (∀ t, g t.bare = g t) → g tx' = g tx := fun g hg =>
      Transaction.eq_of_bare_eq g hg hbare
    refine href.putTransaction ?_ ?_
    · rw [hsame Transaction.fromFund fun _ => rfl, hsame Transaction.toFund fun _ => rfl,
        hsame Transaction.fiscalYear fun _ => rfl]
      exact href.budgets tx htx
    · rw [hsame Transaction.fromFund fun _ => rfl, hsame Transaction.expenseClass fun _ => rfl,
        hsame Transaction.fiscalYear fun _ => rfl, hsame Transaction.kind fun _ => rfl]
      exact href.classes tx htx
  | deleted hb hscope hlinks => exact href.deleteBudget hb hscope hlinks
  | unlinked hb hl hbudget hunused => exact href.deleteLink hb hl hbudget hunused

end Store

/-! ## Courses of calls -/

/-- A call on a ledger: one that follows its own rules, or a budget handed in with new contents. -/
inductive Action
  | own (call : Call)
  | updateBudget (budget : Budget)

namespace Action

/-- The operation that is performed, without its result. -/
def operation : Action → Operation Unit
  | own call => call.operation
  | updateBudget budget => discard (.updateBudget budget)

/-- A budget that is handed in is the budget of the fund and year that it is stored for. -/
def KeepsPlace (s : Store) : Action → Prop
  | own _ => True
  | updateBudget budget => s.InPlace budget

end Action

namespace Store

variable {s s' : Store} {actions : List Action} {action : Action}

/-- Calls one after the other, whatever comes of each, to the store after the last one. -/
inductive Course (s : Store) : List Action → Store → Prop
  | nil : Course s [] s
  | snoc {actions : List Action} {s' : Store} {action : Action} (hcourse : Course s actions s')
      (hplace : action.KeepsPlace s') : Course s (actions ++ [action]) (s'.perform action.operation).2

theorem leaves_action (hone : s.OneBudget) (hplace : action.KeepsPlace s) :
    s.Leaves (s.perform action.operation).2 := by
  cases action with
  | own call => exact leaves_call hone call
  | updateBudget budget => exact .rewritten (rewritten_updateBudget hplace).discard

/-- After any course of calls, successful or not, each fund still has one budget for a year at most, and all references
are kept. -/
theorem Course.keeps_references (hcourse : s.Course actions s') (hone : s.OneBudget) (href : s.Referential) :
    s'.OneBudget ∧ s'.Referential := by
  induction hcourse with
  | nil => exact ⟨hone, href⟩
  | snoc hcourse hplace ih =>
    obtain ⟨hone, href⟩ := ih
    have hleaves := leaves_action hone hplace
    exact ⟨hleaves.oneBudget hone, hleaves.referential href⟩

/-! ## A ledger with a class -/

/-- Two funds, the first of which is linked to a class. -/
def twoFundsAndClass : Store := { twoFunds with budgetExpenseClasses := .ofList [.create 31 11 41] }

/-- Twenty dollars of the first fund that are reserved for the class. -/
def reservationForClass : Transaction :=
  { Transaction.create 23 .encumbrance 20.00 .usd 9 ⟨0, 0⟩ with fromFund := some 1, expenseClass := some 41 }

/-- The budget of the first fund under another name. -/
def renamedBooks : Budget := .create 11 "all books" 1 9 .usd

/-- A budget is renamed, money is reserved for the class, its link is asked to be deleted, and so is the other budget. -/
theorem referential_after_reservation :
    let s₁ := (twoFundsAndClass.perform (Action.updateBudget renamedBooks).operation).2
    let s₂ := (s₁.perform (Action.own (.create reservationForClass)).operation).2
    let s₃ := (s₂.perform (Action.own (.removeExpenseClass 11 41)).operation).2
    let s₄ := (s₃.perform (Action.own (.deleteBudget 12)).operation).2
    (twoFundsAndClass.OneBudget ∧ twoFundsAndClass.Referential) ∧ s₄.OneBudget ∧ s₄.Referential := by
  intro s₁ s₂ s₃ s₄
  have hone : twoFundsAndClass.OneBudget := consistent_twoFunds.oneBudget
  have href : twoFundsAndClass.Referential := by
    refine ⟨fun tx htx => absurd htx List.not_mem_nil, fun tx htx => absurd htx List.not_mem_nil, ?_⟩
    change ∀ l ∈ twoFundsAndClass.budgetExpenseClasses.records, ∃ b ∈ twoFundsAndClass.budgets.records, b.id = l.budget
    decide
  have hplace : (Action.updateBudget renamedBooks).KeepsPlace twoFundsAndClass := by
    change ∀ c ∈ twoFundsAndClass.budgets.records, c.id = renamedBooks.id → c.place = renamedBooks.place
    decide
  have hown : ∀ (s : Store) (call : Call), (Action.own call).KeepsPlace s := fun _ _ => trivial
  have h₁ := Course.snoc (.nil : twoFundsAndClass.Course [] _) hplace
  have h₂ := h₁.snoc (hown s₁ (.create reservationForClass))
  have h₃ := h₂.snoc (hown s₂ (.removeExpenseClass 11 41))
  have h₄ := h₃.snoc (hown s₃ (.deleteBudget 12))
  exact ⟨⟨hone, href⟩, h₄.keeps_references hone href⟩

example :
    let s := (twoFundsAndClass.perform (.createTransaction reservationForClass)).2
    (s.perform (.removeExpenseClass 11 41)).1 = .error (.finance (Operation.expenseClassInUse 11 41)) ∧
      (s.perform (.deleteBudget 12)).1 = .ok () := by decide +kernel

end Store

end FundLedger
