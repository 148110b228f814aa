import FundLedger.Proofs.Identifiers
import FundLedger.Storage.Store
/-!
# What queries select

Queries by identifiers compare written forms, and these belong to one identifier each.  So they select exactly the
records with the identifiers, in the order of the table.

* `Query.filter_whereEq`: one more clause, with the written form of an identifier.
* `budgetOfFund_filter`, `byFiscalYear_filter`, `byBudget_filter`, `linksOfClass_filter`, `linksOfGroup_filter`: the
  records selected.
* `Table.IsSelection`: the records of a table that have a property.
* `Store.answer_queries`: what a store answers to the queries by identifiers.
-/

namespace FundLedger

open JsonForm (encode)

namespace Query

/-- A clause with the written form of an identifier, on a field that holds an identifier. -/
theorem agrees_text {kind : IdKind} {record : Json} {field : String} {id : RecordId kind}
    (hfield : record.field? field = some (encode id)) (id' : RecordId kind) :
    agrees record (field, id'.text) = decide (id = id') := by
  unfold agrees
  rw [hfield]
  change (id.text == id'.text) = decide (id = id')
  by_cases h : id = id'
  · rw [h]
    simp
  · rw [beq_false_of_ne fun ht => h (RecordId.text_injective ht), decide_eq_false h]

theorem selects_and {q q' : Query} {record : Json} :
    (q.and q').selects record = (q.selects record && q'.selects record) := List.all_append

section Filter

variable {α : Type} [JsonForm α] {kind : IdKind} {field : String} {get : α → RecordId kind}

theorem filter_all (records : List α) : all.filter records = records :=
  List.filter_eq_self.mpr fun _ _ => rfl

/-- Both queries, one after the other. -/
theorem filter_and (q q' : Query) (records : List α) : (q.and q').filter records = q'.filter (q.filter records) := by
  unfold filter
  rw [List.filter_filter]
  refine List.filter_congr fun a _ => ?_
  rw [selects_and, Bool.and_comm]

/-- One more clause with an identifier selects among the records by it. -/
theorem filter_whereEq (hfield : ∀ a : α, (encode a).field? field = some (encode (get a))) (q : Query)
    (id : RecordId kind) (records : List α) :
    (q.whereEq field id.text).filter records = (q.filter records).filter fun a => decide (get a = id) := by
  refine (filter_and q ⟨[(field, id.text)]⟩ records).trans (List.filter_congr fun a _ => ?_)
  exact (Bool.and_true _).trans (agrees_text (hfield a) id)

end Filter

end Query

/-! ## The queries by identifiers -/

theorem budgetOfFund_filter (fund : FundId) (fiscalYear : FiscalYearId) (budgets : List Budget) :
    (budgetOfFund fund fiscalYear).filter budgets =
      budgets.filter fun b => decide (b.fund = fund) && decide (b.fiscalYear = fiscalYear) := by
  have hfund : ∀ b : Budget, (encode b).field? "fundId" = some (encode b.fund) := fun _ => rfl
  have hyear : ∀ b : Budget, (encode b).field? "fiscalYearId" = some (encode b.fiscalYear) := fun _ => rfl
  unfold budgetOfFund byFiscalYear
  rw [Query.filter_and, Query.filter_whereEq hyear, Query.filter_all, Query.filter_whereEq hfund, Query.filter_all,
    List.filter_filter]
  simp only [Bool.and_comm]

theorem byFiscalYear_filter (fiscalYear : FiscalYearId) (budgets : List Budget) :
    (byFiscalYear fiscalYear).filter budgets = budgets.filter fun b => decide (b.fiscalYear = fiscalYear) := by
  have hyear : ∀ b : Budget, (encode b).field? "fiscalYearId" = some (encode b.fiscalYear) := fun _ => rfl
  unfold byFiscalYear
  rw [Query.filter_whereEq hyear, Query.filter_all]

theorem byBudget_filter (budget : BudgetId) (links : List BudgetExpenseClass) :
    (byBudget budget).filter links = links.filter fun l => decide (l.budget = budget) := by
  have hbudget : ∀ l : BudgetExpenseClass, (encode l).field? "budgetId" = some (encode l.budget) := fun _ => rfl
  unfold byBudget
  rw [Query.filter_whereEq hbudget, Query.filter_all]

theorem linksOfClass_filter (budget : BudgetId) (expenseClass : ExpenseClassId) (links : List BudgetExpenseClass) :
    (linksOfClass budget expenseClass).filter links =
      links.filter fun l => decide (l.budget = budget) && decide (l.expenseClass = expenseClass) := by
  have hclass : ∀ l : BudgetExpenseClass, (encode l).field? "expenseClassId" = some (encode l.expenseClass) :=
    fun _ => rfl
  unfold linksOfClass
  rw [Query.filter_whereEq hclass, byBudget_filter, List.filter_filter]
  simp only [Bool.and_comm]

theorem linksOfGroup_filter (group : GroupId) (fiscalYear : FiscalYearId) (links : List GroupFundFiscalYear) :
    (linksOfGroup group fiscalYear).filter links =
      links.filter fun l => decide (l.group = group) && decide (l.fiscalYear = fiscalYear) := by
  have hgroup : ∀ l : GroupFundFiscalYear, (encode l).field? "groupId" = some (encode l.group) := fun _ => rfl
  have hyear : ∀ l : GroupFundFiscalYear, (encode l).field? "fiscalYearId" = some (encode l.fiscalYear) := fun _ => rfl
  unfold linksOfGroup byFiscalYear
  rw [Query.filter_and, Query.filter_whereEq hyear, Query.filter_all, Query.filter_whereEq hgroup, Query.filter_all,
    List.filter_filter]
  simp only [Bool.and_comm]

/-! ## The answers of a store -/

namespace Table

variable {ρ : Type} {kind : IdKind} [Keyed ρ kind]

theorem nodup_ids (t : Table ρ) : (t.records.map Keyed.id).Nodup := by
  refine List.pairwise_map.mpr (t.ascending.imp fun hlt heq => ?_)
  exact RecordId.lt_irrefl _ (heq ▸ hlt)

/-- Exactly the records of a table that have a property, in ascending order of their identifiers, each of them once. -/
structure IsSelection (t : Table ρ) (p : ρ → Prop) (found : List ρ) : Prop where
  mem_iff : ∀ r, r ∈ found ↔ r ∈ t ∧ p r
  ascending : found.Pairwise fun a b => Keyed.id a < Keyed.id b
  nodup : (found.map Keyed.id).Nodup

/-- Filtered records keep the order of the table. -/
theorem isSelection_filter (t : Table ρ) {p : ρ → Prop} {select : ρ → Bool} (h : ∀ r, select r = true ↔ p r) :
    t.IsSelection p (t.records.filter select) where
  mem_iff r := by rw [List.mem_filter, mem_def, h]
  ascending := t.ascending.filter select
  nodup := t.nodup_ids.sublist (List.filter_sublist.map _)

end Table

/-- Queries by identifiers are answered with exactly the records that have these identifiers, in ascending order and
without repetitions, and they change nothing. -/
theorem Store.answer_queries (s : Store) :
    (∀ fund fiscalYear, ∃ budgets, s.answer (.queryBudgets (budgetOfFund fund fiscalYear)) = (.ok budgets, s) ∧
      s.budgets.IsSelection (fun b => b.fund = fund ∧ b.fiscalYear = fiscalYear) budgets) ∧
    (∀ fiscalYear, ∃ budgets, s.answer (.queryBudgets (byFiscalYear fiscalYear)) = (.ok budgets, s) ∧
      s.budgets.IsSelection (fun b => b.fiscalYear = fiscalYear) budgets) ∧
    (∀ budget, ∃ links, s.answer (.queryBudgetExpenseClasses (byBudget budget)) = (.ok links, s) ∧
      s.budgetExpenseClasses.IsSelection (fun l => l.budget = budget) links) ∧
    (∀ budget expenseClass, ∃ links,
      s.answer (.queryBudgetExpenseClasses (linksOfClass budget expenseClass)) = (.ok links, s) ∧
      s.budgetExpenseClasses.IsSelection (fun l => l.budget = budget ∧ l.expenseClass = expenseClass) links) ∧
    (∀ group fiscalYear, ∃ links,
      s.answer (.queryGroupFundFiscalYears (linksOfGroup group fiscalYear)) = (.ok links, s) ∧
      s.groupFundFiscalYears.IsSelection (fun l => l.group = group ∧ l.fiscalYear = fiscalYear) links) := by
  refine ⟨fun fund fiscalYear => ⟨_, rfl, ?_⟩, fun fiscalYear => ⟨_, rfl, ?_⟩, fun budget => ⟨_, rfl, ?_⟩,
    fun budget expenseClass => ⟨_, rfl, ?_⟩, fun group fiscalYear => ⟨_, rfl, ?_⟩⟩
  · rw [budgetOfFund_filter]
    exact s.budgets.isSelection_filter fun b => by rw [Bool.and_eq_true, decide_eq_true_iff, decide_eq_true_iff]
  · rw [byFiscalYear_filter]
    exact s.budgets.isSelection_filter fun b => decide_eq_true_iff
  · rw [byBudget_filter]
    exact s.budgetExpenseClasses.isSelection_filter fun l => decide_eq_true_iff
  · rw [linksOfClass_filter]
    exact s.budgetExpenseClasses.isSelection_filter fun l => by
      rw [Bool.and_eq_true, decide_eq_true_iff, decide_eq_true_iff]
  · rw [linksOfGroup_filter]
    exact s.groupFundFiscalYears.isSelection_filter fun l => by
      rw [Bool.and_eq_true, decide_eq_true_iff, decide_eq_true_iff]

end FundLedger
