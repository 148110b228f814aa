import FundLedger.Proofs.Headroom
import FundLedger.Proofs.Runs
/-!
# Legal transactions

Which transactions are admitted, said of the ledger alone: of the funds that a transaction names, of its amount, of the
links between its funds, of their budgets, and of the class that money is reserved for.

* `Store.Legal`: the legal transactions of a ledger.
* `Store.perform_screen_cases`: screening lets the legal transactions pass, and no others.
* `Store.accepts_iff_legal`: a transaction is recorded exactly if it is legal, unless totals overflow.
-/

namespace FundLedger

/-- The record that comes first among those with some property. -/
theorem Table.find?_records_eq_some_iff {ρ : Type} {kind : IdKind} [Keyed ρ kind] {t : Table ρ} {q : ρ → Bool} {r : ρ} :
    t.records.find? q = some r ↔ r ∈ t ∧ q r = true ∧ ∀ a ∈ t, q a = true → ¬Keyed.id a < Keyed.id r := by
  obtain ⟨rs, h⟩ := t
  show rs.find? q = some r ↔ r ∈ rs ∧ q r = true ∧ ∀ a ∈ rs, q a = true → ¬Keyed.id a < Keyed.id r
  induction rs with
  | nil => simp
  | cons b rest ih =>
    obtain ⟨hb, hrest⟩ := List.pairwise_cons.mp h
    cases hq : q b with
    | true =>
      rw [List.find?_cons_of_pos hq]
      constructor
      · rintro ⟨⟩
        refine ⟨List.mem_cons_self, hq, fun a ha _ => ?_⟩
        rcases List.mem_cons.mp ha with rfl | ha
        · exact RecordId.lt_irrefl _
        · exact fun hlt => RecordId.lt_irrefl _ (RecordId.lt_trans hlt (hb a ha))
      · rintro ⟨hr, -, hfirst⟩
        rcases List.mem_cons.mp hr with rfl | hr
        · rfl
        · exact absurd (hb r hr) (hfirst b List.mem_cons_self hq)
    | false =>
      rw [List.find?_cons_of_neg (by simp [hq]), ih hrest]
      simp only [List.mem_cons]
      constructor
      · rintro ⟨hr, hqr, hfirst⟩
        refine ⟨.inr hr, hqr, ?_⟩
        rintro a (rfl | ha) hqa
        · rw [hq] at hqa
          cases hqa
        · exact hfirst a ha hqa
      · rintro ⟨rfl | hr, hqr, hfirst⟩
        · rw [hq] at hqr
          cases hqr
        · exact ⟨hr, hqr, fun a ha => hfirst a (.inr ha)⟩

/-! ## The rules -/

namespace Transaction

variable (tx : Transaction)

/-- The funds that its kind asks for are named. -/
def NamesItsFunds : Prop :=
  match tx.kind with
  | .allocation => tx.fromFund ≠ none ∨ tx.toFund ≠ none
  | .transfer | .rolloverTransfer => tx.fromFund ≠ none ∧ tx.toFund ≠ none
  | .encumbrance | .pendingPayment | .payment => tx.fromFund ≠ none
  | .credit => tx.toFund ≠ none

/-- The budget of a fund can only decrease: the fund just sends a transfer, or takes back a pending payment. -/
def OnlyDecreases (fund : FundId) : Prop :=
  (tx.kind = .transfer ∨ tx.kind = .rolloverTransfer) ∧ tx.fromFund = some fund ∧ tx.toFund ≠ some fund ∨
    tx.kind = .pendingPayment ∧ tx.roundedAmount < .zero

end Transaction

namespace Store

/-- Money may move from one fund to another: both are stored, and neither excludes the other. -/
def Links (s : Store) (sender receiver : FundId) : Prop :=
  ∃ a ∈ s.funds, ∃ b ∈ s.funds, a.id = sender ∧ b.id = receiver ∧
    (b.allocatedFrom = [] ∨ sender ∈ b.allocatedFrom) ∧ (a.allocatedTo = [] ∨ receiver ∈ a.allocatedTo)

/-- Money may move between the two funds of an allocation or transfer. -/
def LinksFundsOf (s : Store) (tx : Transaction) : Prop :=
  tx.kind = .allocation ∨ tx.kind = .transfer ∨ tx.kind = .rolloverTransfer →
    ∀ sender receiver, tx.fromFund = some sender → tx.toFund = some receiver → s.Links sender receiver

/-- The first link between a budget and a class is active. -/
def HasActiveClass (s : Store) (budget : BudgetId) (expenseClass : ExpenseClassId) : Prop :=
  ∃ link ∈ s.budgetExpenseClasses, link.budget = budget ∧ link.expenseClass = expenseClass ∧ link.status = .active ∧
    ∀ other ∈ s.budgetExpenseClasses, other.budget = budget → other.expenseClass = expenseClass → ¬other.id < link.id

/-- Money is reserved for a class only if the sender's budget has an active link to it. -/
def HasActiveClassOf (s : Store) (tx : Transaction) : Prop :=
  tx.kind = .encumbrance → ∀ expenseClass, tx.expenseClass = some expenseClass →
    ∃ b ∈ s.budgets, tx.fromFund = some b.fund ∧ b.fiscalYear = tx.fiscalYear ∧ s.HasActiveClass b.id expenseClass

/-- The legal transactions of a ledger. -/
structure Legal (s : Store) (tx : Transaction) : Prop where
  funds : tx.NamesItsFunds
  amount : .zero ≤ tx.roundedAmount ∨ tx.kind = .pendingPayment
  linked : s.LinksFundsOf tx
  budgets : ∀ fund, tx.fromFund = some fund ∨ tx.toFund = some fund →
    ∃ b ∈ s.budgets, b.fund = fund ∧ b.fiscalYear = tx.fiscalYear ∧ b.currency = tx.currency ∧
      (b.status = .inactive → tx.OnlyDecreases fund)
  expenseClass : s.HasActiveClassOf tx

end Store

/-! ## What the checks find -/

namespace Transaction

variable {tx : Transaction} {b : Budget}

theorem fundIssue?_eq_none_iff : tx.fundIssue? = none ↔ tx.NamesItsFunds := by
  unfold fundIssue? NamesItsFunds
  cases tx.kind <;> cases tx.fromFund <;> cases tx.toFund <;> simp

theorem amountIssue?_eq_none_iff : tx.amountIssue? = none ↔ .zero ≤ tx.amount ∨ tx.kind = .pendingPayment := by
  have hle : Decimal.zero ≤ tx.amount ↔ ¬tx.amount < Decimal.zero := Int.not_lt.symm
  unfold amountIssue?
  rw [hle]
  by_cases hkind : tx.kind = .pendingPayment
  · simp [hkind]
  · simp [hkind]

theorem currencyIssue?_eq_none_iff : tx.currencyIssue? b = none ↔ b.currency = tx.currency := by
  unfold currencyIssue?
  by_cases h : tx.currency = b.currency
  · simp [h]
  · simp [h, Ne.symm h]

theorem onlyDecreases_iff : tx.normalized.onlyDecreases b = true ↔ tx.OnlyDecreases b.fund := by
  have hkind : tx.normalized.kind = tx.kind := rfl
  unfold onlyDecreases OnlyDecreases hasRole
  rw [hkind]
  cases htx : tx.kind
  case pendingPayment =>
    simp only [reduceCtorEq, or_self, false_and, true_and, false_or]
    exact decide_eq_true_iff
  all_goals simp [normalized]

theorem inactiveIssue?_eq_none_iff :
    tx.normalized.inactiveIssue? b = none ↔ (b.status = .inactive → tx.OnlyDecreases b.fund) := by
  unfold inactiveIssue?
  rw [← onlyDecreases_iff]
  cases tx.normalized.onlyDecreases b <;> cases b.status <;> simp

end Transaction

namespace Store

variable {s : Store} {tx : Transaction} {b : Budget}

theorem budgetOf?_eq_some_iff (h : s.OneBudget) {fund : FundId} {fiscalYear : FiscalYearId} :
    s.budgetOf? fund fiscalYear = some b ↔ b ∈ s.budgets ∧ b.fund = fund ∧ b.fiscalYear = fiscalYear := by
  constructor
  · exact mem_of_budgetOf?
  · rintro ⟨hb, rfl, rfl⟩
    exact budgetOf?_eq_some h hb

/-- Among the budgets of a transaction, that of one of its funds. -/
theorem find?_budgetsOf {fund : FundId} (hfund : fund ∈ tx.funds) :
    (s.budgetsOf tx).find? (fun b => b.fund == fund) = s.budgetOf? fund tx.fiscalYear := by
  have hof : ∀ c ∈ s.budgetsOf tx, c.fund = fund → s.budgetOf? fund tx.fiscalYear = some c := by
    intro c hc hcfund
    obtain ⟨fund', -, hc⟩ := List.mem_filterMap.mp hc
    rwa [← (mem_of_budgetOf? hc).2.1, hcfund] at hc
  cases hfind : (s.budgetsOf tx).find? fun b => b.fund == fund with
  | some c =>
    have hcfund : (c.fund == fund) = true := List.find?_some (p := fun b : Budget => b.fund == fund) hfind
    exact (hof c (List.mem_of_find?_eq_some hfind) (eq_of_beq hcfund)).symm
  | none =>
    cases hbudget : s.budgetOf? fund tx.fiscalYear with
    | none => rfl
    | some b =>
      have hb : b ∈ s.budgetsOf tx := List.mem_filterMap.mpr ⟨fund, hfund, hbudget⟩
      exact absurd (beq_iff_eq.mpr (mem_of_budgetOf? hbudget).2.1) (List.find?_eq_none.mp hfind b hb)

/-- No budget of the transaction raises an issue. -/
theorem budgetIssues_eq_nil_iff (h : s.OneBudget) (context : AdmissionContext)
    (hcontext : context.budgets = s.budgetsOf tx) :
    tx.normalized.budgetIssues context tx.funds = .ok [] ↔
      ∀ fund, tx.fromFund = some fund ∨ tx.toFund = some fund →
        ∃ b ∈ s.budgets, b.fund = fund ∧ b.fiscalYear = tx.fiscalYear ∧ b.currency = tx.currency ∧
          (b.status = .inactive → tx.OnlyDecreases fund) := by
  rw [Transaction.budgetIssues_eq_nil_iff]
  simp only [Transaction.inactiveIssue?_eq_none_iff, Transaction.currencyIssue?_eq_none_iff]
  refine forall_congr' fun fund => ?_
  rw [tx.mem_funds, ← Transaction.touches_iff]
  refine imp_congr_right fun htouches => ?_
  have hfind : context.budgetOf? fund = s.budgetOf? fund tx.fiscalYear := by
    unfold AdmissionContext.budgetOf?
    rw [hcontext]
    exact find?_budgetsOf (tx.mem_funds.mpr htouches)
  rw [hfind]
  simp only [budgetOf?_eq_some_iff h]
  constructor
  · rintro ⟨b, ⟨hb, rfl, hyear⟩, hinactive, hcurrency⟩
    exact ⟨b, hb, rfl, hyear, hcurrency, hinactive⟩
  · rintro ⟨b, hb, rfl, hyear, hcurrency, hinactive⟩
    exact ⟨b, ⟨hb, rfl, hyear⟩, hinactive, hcurrency⟩

/-! ## Reading the funds and the links -/

theorem linked_iff {a b : Fund} :
    a.linked b = true ↔ (b.allocatedFrom = [] ∨ a.id ∈ b.allocatedFrom) ∧ (a.allocatedTo = [] ∨ b.id ∈ a.allocatedTo) := by
  simp [Fund.linked, Fund.acceptsFrom, Fund.sendsTo]

theorem perform_getFund (s : Store) (id : FundId) :
    (s.perform (Operation.request (.getFund id)) = (.error (.finance (.notFound .fund id.text)), s) ∧
        ∀ a ∈ s.funds, a.id ≠ id) ∨
      ∃ a ∈ s.funds, a.id = id ∧ s.perform (Operation.request (.getFund id)) = (.ok a, s) := by
  have hanswer : s.perform (Operation.request (.getFund id)) =
      ((found .funds id (s.funds.find? id)).mapError StoreError.toFailure, s) := rfl
  rw [hanswer]
  cases hfind : s.funds.find? id with
  | none => exact .inl ⟨rfl, Table.find?_eq_none_iff.mp hfind⟩
  | some a =>
    obtain ⟨ha, hid⟩ := Table.find?_eq_some_iff.mp hfind
    exact .inr ⟨a, ha, hid, rfl⟩

/-- Both funds of a movement are read, and checked, exactly if money may move between them. -/
theorem perform_linkedFunds (s : Store) (tx : Transaction) :
    (∃ funds, s.perform (Operation.linkedFunds tx) = (.ok funds, s) ∧
        (tx.linkageIssue? funds.1 funds.2 = none ↔ s.LinksFundsOf tx)) ∨
      ∃ e, s.perform (Operation.linkedFunds tx) = (.error (.finance e), s) ∧ ¬s.LinksFundsOf tx := by
  have hmovement : tx.kind = .allocation ∨ tx.kind = .transfer ∨ tx.kind = .rolloverTransfer ↔
      tx.kind.isFundingMovement = true := by cases tx.kind <;> decide
  unfold Operation.linkedFunds LinksFundsOf Transaction.linkageIssue? Transaction.isInternal
  rw [hmovement]
  cases hmoves : tx.kind.isFundingMovement with
  | false => exact .inl ⟨_, rfl, by simp⟩
  | true =>
    cases hsender : tx.fromFund with
    | none => exact .inl ⟨_, rfl, by simp⟩
    | some sender =>
      cases hreceiver : tx.toFund with
      | none => exact .inl ⟨_, rfl, by simp⟩
      | some receiver =>
        simp only [perform_bind, Option.some.injEq, true_imp_iff]
        rcases s.perform_getFund sender with ⟨he, hnone⟩ | ⟨a, ha, rfl, hok⟩
        · refine .inr ⟨.notFound .fund sender.text, by rw [he], fun hlinks => ?_⟩
          obtain ⟨a, ha, -, -, hid, -⟩ := hlinks sender receiver rfl rfl
          exact hnone a ha hid
        rw [hok]
        rcases s.perform_getFund receiver with ⟨he, hnone⟩ | ⟨b, hb, rfl, hok'⟩
        · refine .inr ⟨.notFound .fund receiver.text, by simp only [he], fun hlinks => ?_⟩
          obtain ⟨-, -, b, hb, -, hid, -⟩ := hlinks a.id receiver rfl rfl
          exact hnone b hb hid
        refine .inl ⟨(some a, some b), by simp only [hok', perform_pure], ?_⟩
        have hlinks : s.Links a.id b.id ↔ a.linked b = true := by
          rw [linked_iff]
          constructor
          · rintro ⟨a', ha', b', hb', hida, hidb, hlinked⟩
            obtain rfl := Table.eq_of_id_eq ha' ha hida
            obtain rfl := Table.eq_of_id_eq hb' hb hidb
            exact hlinked
          · intro hlinked
            exact ⟨a, ha, b, hb, rfl, rfl, hlinked⟩
        cases hlinked : a.linked b <;> simp [hlinks, hlinked]

/-- The first link between a budget and a class, among the links of the budget. -/
theorem find?_byBudget_eq_some_iff {budget : BudgetId} {expenseClass : ExpenseClassId} {link : BudgetExpenseClass} :
    ((byBudget budget).filter s.budgetExpenseClasses.records).find? (fun l => l.expenseClass == expenseClass) = some link ↔
      link ∈ s.budgetExpenseClasses ∧ link.budget = budget ∧ link.expenseClass = expenseClass ∧
        ∀ other ∈ s.budgetExpenseClasses, other.budget = budget → other.expenseClass = expenseClass →
          ¬other.id < link.id := by
  rw [byBudget_filter, List.find?_filter, Table.find?_records_eq_some_iff]
  simp only [decide_eq_true_eq, beq_iff_eq, and_imp, and_assoc]
  rfl

/-- With a budget's links at hand a class passes exactly if the first link to it is active. -/
theorem expenseClassIssue?_byBudget (hkind : tx.kind = .encumbrance) {expenseClass : ExpenseClassId}
    (hclass : tx.expenseClass = some expenseClass) (budget : BudgetId) :
    tx.expenseClassIssue? ((byBudget budget).filter s.budgetExpenseClasses.records) = .ok none ↔
      s.HasActiveClass budget expenseClass := by
  unfold Transaction.expenseClassIssue?
  rw [hclass]
  simp only [hkind, ne_eq, not_true, if_false]
  cases hfind : ((byBudget budget).filter s.budgetExpenseClasses.records).find? fun l => l.expenseClass == expenseClass with
  | none =>
    simp only [reduceCtorEq, false_iff]
    rintro ⟨link, hlink, hbudget, hof, -, hfirst⟩
    rw [find?_byBudget_eq_some_iff.mpr ⟨hlink, hbudget, hof, hfirst⟩] at hfind
    cases hfind
  | some link =>
    obtain ⟨hlink, hbudget, hof, hfirst⟩ := find?_byBudget_eq_some_iff.mp hfind
    have hactive : s.HasActiveClass budget expenseClass ↔ link.status = .active := by
      constructor
      · rintro ⟨link', hlink', hbudget', hof', hstatus, hfirst'⟩
        have hsame := hfind.symm.trans (find?_byBudget_eq_some_iff.mpr ⟨hlink', hbudget', hof', hfirst'⟩)
        rw [Option.some.inj hsame]
        exact hstatus
      · exact fun hstatus => ⟨link, hlink, hbudget, hof, hstatus, hfirst⟩
    rw [hactive]
    cases hstatus : link.status <;> simp [hstatus]

/-- The links that a reservation needs are read, and checked, exactly if its budget has an active one to the class. -/
theorem perform_classLinksFor (h : s.OneBudget) (tx : Transaction) :
    ∃ links, s.perform (Operation.classLinksFor tx (s.budgetsOf tx)) = (.ok links, s) ∧
      (tx.expenseClassIssue? links = .ok none ↔ s.HasActiveClassOf tx) := by
  by_cases hkind : tx.kind = .encumbrance
  swap
  · refine ⟨[], ?_, ?_⟩
    · unfold Operation.classLinksFor
      cases hk : tx.kind <;> first | exact absurd hk hkind | rfl
    · unfold Transaction.expenseClassIssue? HasActiveClassOf
      cases tx.expenseClass <;> simp [hkind]
  cases hclass : tx.expenseClass with
  | none =>
    refine ⟨[], ?_, ?_⟩
    · unfold Operation.classLinksFor
      rw [hkind, hclass]
      rfl
    · unfold Transaction.expenseClassIssue? HasActiveClassOf
      simp [hclass]
  | some expenseClass =>
    have hof : s.HasActiveClassOf tx ↔ ∃ b ∈ s.budgets, tx.fromFund = some b.fund ∧ b.fiscalYear = tx.fiscalYear ∧
        s.HasActiveClass b.id expenseClass := by
      unfold HasActiveClassOf
      simp [hkind, hclass]
    -- without a budget there is no link to read
    have hnothing : tx.expenseClassIssue? [] ≠ .ok none := by
      unfold Transaction.expenseClassIssue?
      simp [hclass, hkind]
    have hfind : (tx.fromFund.bind fun fund => (s.budgetsOf tx).find? fun b => b.fund == fund) =
        tx.fromFund.bind (s.budgetOf? · tx.fiscalYear) := by
      cases hfrom : tx.fromFund with
      | none => rfl
      | some sender => exact find?_budgetsOf (tx.mem_funds.mpr (Transaction.touches_iff.mpr (.inl hfrom)))
    unfold Operation.classLinksFor
    simp only [hfind, hkind, hclass]
    cases hsending : tx.fromFund.bind (s.budgetOf? · tx.fiscalYear) with
    | none =>
      refine ⟨[], rfl, iff_of_false hnothing ?_⟩
      rw [hof]
      rintro ⟨b, hb, hfrom, hyear, -⟩
      rw [hfrom, Option.bind_some, (budgetOf?_eq_some_iff h).mpr ⟨hb, rfl, hyear⟩] at hsending
      cases hsending
    | some b =>
      obtain ⟨sender, hfrom, hb⟩ := Option.bind_eq_some_iff.mp hsending
      obtain ⟨hmem, rfl, hyear⟩ := mem_of_budgetOf? hb
      refine ⟨_, rfl, ?_⟩
      rw [hof, expenseClassIssue?_byBudget hkind hclass]
      constructor
      · exact fun hactive => ⟨b, hmem, hfrom, hyear, hactive⟩
      · rintro ⟨b', hb', hfrom', hyear', hactive⟩
        have hfund : b'.fund = b.fund := Option.some.inj (hfrom'.symm.trans hfrom)
        obtain rfl := h b' hb' b hmem hfund (hyear'.trans hyear.symm)
        exact hactive

/-! ## Screening -/

/-- Screening lets the legal transactions pass, and refuses all others. -/
theorem perform_screen_cases (h : s.OneBudget) (tx : Transaction) :
    s.Legal tx ∧ s.perform (Operation.screen tx.normalized) =
        (.ok (s.budgetsOf tx.normalized, s.historyFor tx.normalized), s) ∨
      ¬s.Legal tx ∧ ∃ e, s.perform (Operation.screen tx.normalized) = (.error (.finance e), s) := by
  obtain ⟨links, hclasses, hclass⟩ := perform_classLinksFor h tx.normalized
  unfold Operation.screen
  simp only [perform_bind, perform_budgetsFor]
  rcases s.perform_linkedFunds tx.normalized with ⟨funds, hfunds, hlinked⟩ | ⟨e, he, hlinked⟩
  · have hlegal : tx.normalized.admission ⟨s.budgetsOf tx.normalized, funds.1, funds.2, links⟩ = .ok () ↔ s.Legal tx := by
      have hbudgets : tx.normalized.budgetIssues ⟨s.budgetsOf tx.normalized, funds.1, funds.2, links⟩ tx.normalized.funds =
          .ok [] ↔ _ := budgetIssues_eq_nil_iff h _ rfl
      rw [Transaction.admission_eq_ok_iff, Transaction.fundIssue?_eq_none_iff, Transaction.amountIssue?_eq_none_iff,
        hbudgets, hlinked, hclass]
      constructor
      · rintro ⟨hnamed, hamount, hbudgets, hclass, hlinked⟩
        exact ⟨hnamed, hamount, hlinked, hbudgets, hclass⟩
      · rintro ⟨hnamed, hamount, hlinked, hbudgets, hclass⟩
        exact ⟨hnamed, hamount, hbudgets, hclass, hlinked⟩
    rw [hfunds]
    simp only [hclasses, perform_ofRule]
    cases hadmission : tx.normalized.admission ⟨s.budgetsOf tx.normalized, funds.1, funds.2, links⟩ with
    | error e =>
      refine .inr ⟨fun hl => ?_, e, rfl⟩
      rw [hlegal.mpr hl] at hadmission
      cases hadmission
    | ok _ =>
      refine .inl ⟨hlegal.mp hadmission, ?_⟩
      simp only [Except.mapError, perform_recordedAllocations, perform_pure]
  · rw [he]
    exact .inr ⟨fun hl => hlinked hl.linked, e, rfl⟩

/-! ## Recording -/

/-- The transaction can be added to each of its budgets without an overflow. -/
def HasRoomFor (s : Store) (tx : Transaction) : Prop :=
  ∀ b ∈ s.budgetsOf tx, ∃ b', b.applyWithHistory tx (s.historyFor tx) = .ok b'

theorem HasRoomFor.apply (h : s.HasRoomFor tx) :
    ∀ b ∈ s.budgetsOf tx, ∃ totals, b.applyWithHistory tx (s.historyFor tx) = .ok { b with totals } := by
  intro b hb
  obtain ⟨b', happly⟩ := h b hb
  obtain ⟨totals, rfl⟩ := Budget.applyWithHistory_eq_ok happly
  exact ⟨totals, happly⟩

/-- A transaction can be added to the first `k` of some budgets, and overflows at the next one. -/
structure OverflowsAt (tx : Transaction) (recorded : List Transaction) (budgets : List Budget) (k : Nat) (o : Overflow) :
    Prop where
  before : ∀ b ∈ budgets.take k, ∃ b', b.applyWithHistory tx recorded = .ok b'
  here : ∃ b, budgets[k]? = some b ∧ b.applyWithHistory tx recorded = .error o

/-- Budgets as they are stored fail to take a transaction only by an overflow.  Those before the overflow are written. -/
theorem perform_applyToAll_cases {recorded : List Transaction} {todo : List Budget} (hstored : ∀ b ∈ todo, b ∈ s.budgets)
    (hids : (todo.map (·.id)).Nodup) :
    (∀ b ∈ todo, ∃ b', b.applyWithHistory tx recorded = .ok b') ∨
      ∃ k o, OverflowsAt tx recorded todo k o ∧ s.perform (Operation.applyToAll tx recorded todo) =
        (.error (.overflow o), s.writeAll ((todo.take k).map (·.applied tx recorded))) := by
  induction todo generalizing s with
  | nil => exact .inl (by simp)
  | cons b rest ih =>
    unfold Operation.applyToAll
    rw [perform_bind]
    cases happly : b.applyWithHistory tx recorded with
    | error o =>
      refine .inr ⟨0, o, ⟨fun c hc => absurd hc List.not_mem_nil, b, rfl, happly⟩, ?_⟩
      unfold Operation.applyTo
      simp only [perform_bind, perform_ofArithmetic, happly, Except.mapError]
      rfl
    | ok b' =>
      obtain ⟨totals, rfl⟩ := Budget.applyWithHistory_eq_ok happly
      rw [perform_applyTo (hstored b List.mem_cons_self) happly]
      rcases ih (mem_write_of_nodup totals hids hstored) (List.nodup_cons.mp hids).2 with
        hrest | ⟨k, o, ⟨hbefore, hhere⟩, hperform⟩
      · exact .inl (List.forall_mem_cons.mpr ⟨⟨_, happly⟩, hrest⟩)
      · refine .inr ⟨k + 1, o, ⟨List.forall_mem_cons.mpr ⟨⟨_, happly⟩, hbefore⟩, hhere⟩, ?_⟩
        simp only [hperform, List.take_succ_cons, List.map_cons, Budget.applied_eq happly]
        rfl

/-- What was screened and has no room is stored, and applied to the budgets before the one that overflows. -/
theorem perform_record_of_not_hasRoomFor (hroom : ¬s.HasRoomFor tx) :
    ∃ k o, OverflowsAt tx (s.historyFor tx) (s.budgetsOf tx) k o ∧
      s.perform (Operation.record tx (s.budgetsOf tx, s.historyFor tx)) = (.error (.overflow o),
        { s with transactions := s.transactions.put tx }.writeAll
          (((s.budgetsOf tx).take k).map fun b : Budget => b.applied tx (s.historyFor tx))) := by
  have hstored : ∀ b ∈ s.budgetsOf tx, b ∈ { s with transactions := s.transactions.put tx }.budgets := fun b hb =>
    (mem_of_mem_budgetsOf hb).1
  rcases perform_applyToAll_cases hstored (nodup_budgetsOf s tx) with hall | ⟨k, o, hover, hperform⟩
  · exact absurd hall hroom
  refine ⟨k, o, hover, ?_⟩
  unfold Operation.record
  rw [perform_bind, perform_request_createTransaction]
  simp only [perform_bind, hperform]

/-- What was screened is recorded if there is room for it, and fails by an overflow otherwise. -/
theorem perform_record_cases (s : Store) (tx : Transaction) :
    (s.HasRoomFor tx ∧ s.perform (Operation.record tx (s.budgetsOf tx, s.historyFor tx)) = (.ok tx, s.recorded tx)) ∨
      ¬s.HasRoomFor tx ∧ ∃ o, (s.perform (Operation.record tx (s.budgetsOf tx, s.historyFor tx))).1 = .error (.overflow o) := by
  by_cases hroom : s.HasRoomFor tx
  · exact .inl ⟨hroom, perform_record hroom.apply⟩
  · obtain ⟨k, o, -, hperform⟩ := perform_record_of_not_hasRoomFor hroom
    exact .inr ⟨hroom, o, congrArg Prod.fst hperform⟩

/-- All amounts are far from the largest decimal. -/
structure Moderate (s : Store) (tx : Transaction) : Prop where
  amount : tx.amount.Within (2 ^ 90)
  transactions : ∀ t ∈ s.transactions, t.amount.Within (2 ^ 90)
  budgets : ∀ b ∈ s.budgets, b.totals.toSums.Within (2 ^ 90)

theorem Moderate.hasRoomFor (h : s.Moderate tx) : s.HasRoomFor tx.normalized := by
  intro b hb
  have hhistory : ∀ t ∈ s.historyFor tx.normalized, t.amount.Within (2 ^ 90) := fun t ht =>
    h.transactions t ((tx.normalized.historyIn_sublist _).mem ht)
  exact Budget.applyWithHistory_of_within (h.budgets b (mem_of_mem_budgetsOf hb).1)
    (Transaction.within_roundedAmount h.amount) hhistory (by decide)

/-- A transaction is recorded exactly if it is legal and its budgets have room for it, which they have unless amounts
are huge.  It is refused with an error of its own exactly if it is not legal. -/
theorem accepts_iff_legal (hone : s.OneBudget) (tx : Transaction) :
    ((∃ created, (s.perform (.createTransaction tx)).1 = .ok created) ↔ s.Legal tx ∧ s.HasRoomFor tx.normalized) ∧
      ((∃ e, (s.perform (.createTransaction tx)).1 = .error (.finance e)) ↔ ¬s.Legal tx) ∧
      (s.Moderate tx → s.HasRoomFor tx.normalized) := by
  refine ⟨?_, ?_, Moderate.hasRoomFor⟩
  all_goals
    rw [Operation.createTransaction_eq, perform_bind]
    rcases perform_screen_cases hone tx with ⟨hlegal, hscreen⟩ | ⟨hillegal, e, hscreen⟩
    all_goals rw [hscreen]
  · rcases s.perform_record_cases tx.normalized with ⟨hroom, hok⟩ | ⟨hroom, o, ho⟩
    · simp [hok, hlegal, hroom]
    · simp [ho, hroom]
  · simp [hillegal]
  · rcases s.perform_record_cases tx.normalized with ⟨hroom, hok⟩ | ⟨hroom, o, ho⟩
    · simp [hok, hlegal]
    · simp [ho, hlegal]
  · simp [hillegal]

/-- Twenty dollars from the first of two funds to the second are legal. -/
theorem accepts_transferToJournals :
    ∃ created, (twoFunds.perform (.createTransaction transferToJournals)).1 = .ok created := by
  have hbudgets : ∀ fund, transferToJournals.fromFund = some fund ∨ transferToJournals.toFund = some fund →
      ∃ b ∈ twoFunds.budgets, b.fund = fund ∧ b.fiscalYear = transferToJournals.fiscalYear ∧
        b.currency = transferToJournals.currency ∧ (b.status = .inactive → transferToJournals.OnlyDecreases fund) := by
    rintro fund (hfund | hfund)
    · obtain rfl : 1 = fund := Option.some.inj hfund
      exact ⟨.create 11 "books" 1 9 .usd, by decide, rfl, rfl, rfl, nofun⟩
    · obtain rfl : 2 = fund := Option.some.inj hfund
      exact ⟨.create 12 "journals" 2 9 .usd, by decide, rfl, rfl, rfl, nofun⟩
  have hlinked : twoFunds.LinksFundsOf transferToJournals := by
    intro _ sender receiver hsender hreceiver
    obtain rfl : 1 = sender := Option.some.inj hsender
    obtain rfl : 2 = receiver := Option.some.inj hreceiver
    exact ⟨.create 1 "BOOKS" 8, by decide, .create 2 "JOURNALS" 8, by decide, rfl, rfl, .inl rfl, .inl rfl⟩
  have hlegal : twoFunds.Legal transferToJournals :=
    ⟨⟨nofun, nofun⟩, .inl (by decide), hlinked, hbudgets, nofun⟩
  have hmoderate : twoFunds.Moderate transferToJournals := by
    refine ⟨by decide, fun t ht => absurd ht List.not_mem_nil, fun b hb => ?_⟩
    have h := Decimal.within_zero (2 ^ 90)
    have hzero : b.totals.toSums = .replicate .zero := by
      have hall : ∀ b ∈ twoFunds.budgets.records, b.totals.toSums = .replicate .zero := by decide
      exact hall b hb
    rw [hzero]
    exact ⟨h, h, h, h, h, h, h, h⟩
  obtain ⟨hiff, -, hroom⟩ := accepts_iff_legal consistent_twoFunds.oneBudget transferToJournals
  exact hiff.mpr ⟨hlegal, hroom hmoderate⟩

/-- A legal payment overflows when the largest decimal is awaiting payment already. -/
theorem overflows_pendingAfterLargest :
    let largest := pendingFrom 21 1 79228162514264337593543950335e0
    let small := pendingFrom 22 1 1.00
    let s := (twoFunds.perform (.createTransaction largest)).2
    s.OneBudget ∧ s.Legal small ∧ (s.perform (.createTransaction small)).1 = .error (.overflow .addition) ∧
      ¬∃ created, (s.perform (.createTransaction small)).1 = .ok created := by
  intro largest small s
  have hone : ∀ b ∈ s.budgets.records, ∀ b' ∈ s.budgets.records,
      b.fund = b'.fund → b.fiscalYear = b'.fiscalYear → b = b' := by decide +kernel
  have hbooks : ∃ b ∈ s.budgets.records, b.fund = 1 ∧ b.fiscalYear = 9 ∧ b.currency = .usd ∧ b.status = .active := by
    decide +kernel
  have hoverflow : (s.perform (.createTransaction small)).1 = .error (.overflow .addition) := by decide +kernel
  refine ⟨hone, ⟨nofun, .inr rfl, ?_, ?_, nofun⟩, hoverflow, ?_⟩
  · rintro (hkind | hkind | hkind) <;> cases hkind
  · rintro fund (hfund | hfund)
    · obtain rfl : 1 = fund := Option.some.inj hfund
      obtain ⟨b, hb, hof, hyear, hcurrency, hstatus⟩ := hbooks
      exact ⟨b, hb, hof, hyear, hcurrency, fun hinactive => nomatch hstatus.symm.trans hinactive⟩
    · cases hfund
  · rw [hoverflow]
    rintro ⟨created, hcreated⟩
    cases hcreated

end Store

end FundLedger
