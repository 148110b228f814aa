import FundLedger.Operation.Summary
import FundLedger.Proofs.Backing
import FundLedger.Proofs.GroupTotals
/-!
# Summaries of groups

A summary gives what the budgets of its members hold together.  The members are found by links; as long as a link names
no other budget than that of its fund and year, every member is found, and once only.

* `exists_summarize`: one summary for each group and year.
* `GroupFundFiscalYear.standsFor`, `Store.membersOf`: the budgets of a group in a fiscal year.
* `Store.mem_memberBudgets`: the budgets that are added up are these.
* `Store.perform_groupSummaries`: what is read, and what is summarized.
* `Store.SummariesAddUp`, `Store.Run.summariesAddUp`: after any run on an empty ledger.
-/

namespace FundLedger

/-! ## Lists -/

section Lists

/-- Among lists for different keys, the members with one key are the list of that key. -/
theorem filter_flatMap_of_nodup {κ α : Type} [DecidableEq κ] {keys : List κ} (hkeys : keys.Nodup) {f : κ → List α}
    {key : α → κ} (hf : ∀ k ∈ keys, ∀ a ∈ f k, key a = k) {k : κ} (hk : k ∈ keys) :
    (keys.flatMap f).filter (fun a => key a == k) = f k := by
  induction keys with
  | nil => cases hk
  | cons k' rest ih =>
    obtain ⟨hnot, hrest⟩ := List.nodup_cons.mp hkeys
    have hsame : (f k').filter (fun a => key a == k) = if k' = k then f k' else [] := by
      split
      · rename_i hkk
        exact List.filter_eq_self.mpr fun a ha => beq_iff_eq.mpr ((hf k' List.mem_cons_self a ha).trans hkk)
      · rename_i hkk
        refine List.filter_eq_nil_iff.mpr fun a ha hak => hkk ?_
        exact (hf k' List.mem_cons_self a ha).symm.trans (eq_of_beq hak)
    rw [List.flatMap_cons, List.filter_append, hsame]
    by_cases hkk : k' = k
    · subst hkk
      have hother : (rest.flatMap f).filter (fun a => key a == k') = [] := by
        refine List.filter_eq_nil_iff.mpr fun a ha hak => ?_
        obtain ⟨j, hj, haj⟩ := List.mem_flatMap.mp ha
        have hjk : j = k' := (hf j (List.mem_cons_of_mem _ hj) a haj).symm.trans (eq_of_beq hak)
        exact hnot (hjk ▸ hj)
      rw [if_pos rfl, hother, List.append_nil]
    · rw [if_neg hkk, List.nil_append]
      exact ih hrest (fun j hj => hf j (List.mem_cons_of_mem _ hj)) ((List.mem_cons.mp hk).resolve_left (Ne.symm hkk))

/-- Results that are all good, each for its own argument. -/
theorem exists_mapM_ok {α β ε : Type} {f : α → Except ε β} {key : β → α} {P : β → Prop} {l : List α}
    (h : ∀ a ∈ l, ∃ b, f a = .ok b ∧ key b = a ∧ P b) : ∃ bs, l.mapM f = .ok bs ∧ bs.map key = l ∧ ∀ b ∈ bs, P b := by
  induction l with
  | nil => exact ⟨[], rfl, rfl, fun b hb => absurd hb List.not_mem_nil⟩
  | cons a rest ih =>
    obtain ⟨b, hb, hkey, hP⟩ := h a List.mem_cons_self
    obtain ⟨bs, hbs, hkeys, hPs⟩ := ih fun x hx => h x (List.mem_cons_of_mem a hx)
    refine ⟨b :: bs, ?_, by rw [List.map_cons, hkey, hkeys], List.forall_mem_cons.mpr ⟨hP, hPs⟩⟩
    rw [List.mapM_cons, hb]
    simp only [bind, Except.bind, hbs]
    rfl

/-- Either all results are good, or the first error is that of the whole. -/
theorem mapM_ok_or_error {α β ε : Type} (f : α → Except ε β) (l : List α) :
    (∃ bs, l.mapM f = .ok bs ∧ List.Forall₂ (fun a b => f a = .ok b) l bs) ∨
      ∃ a ∈ l, ∃ e, f a = .error e ∧ l.mapM f = .error e := by
  induction l with
  | nil => exact .inl ⟨[], rfl, .nil⟩
  | cons a rest ih =>
    rw [List.mapM_cons]
    cases ha : f a with
    | error e => exact .inr ⟨a, List.mem_cons_self, e, ha, rfl⟩
    | ok b =>
      rcases ih with ⟨bs, hbs, hall⟩ | ⟨x, hx, e, he, hrest⟩
      · exact .inl ⟨b :: bs, by rw [hbs]; rfl, .cons ha hall⟩
      · exact .inr ⟨x, List.mem_cons_of_mem a hx, e, he, by rw [hrest]; rfl⟩

end Lists

namespace GroupYear

variable {a b c : GroupYear}

theorem lt_trans (h : a < b) (h' : b < c) : a < c := by
  rcases h with h | ⟨hg, hy⟩
  · rcases h' with h' | ⟨hg', -⟩
    · exact .inl (RecordId.lt_trans h h')
    · exact .inl (hg' ▸ h)
  · rcases h' with h' | ⟨hg', hy'⟩
    · exact .inl (hg ▸ h')
    · exact .inr ⟨hg.trans hg', RecordId.lt_trans hy hy'⟩

theorem lt_of_not_lt_of_ne (h : ¬a < b) (hne : a ≠ b) : b < a := by
  obtain ⟨hgroup, hyear⟩ := not_or.mp h
  by_cases hg : a.group = b.group
  · refine .inr ⟨hg.symm, RecordId.lt_of_not_lt_of_ne (fun hy => hyear ⟨hg, hy⟩) fun hy => hne ?_⟩
    cases a
    cases b
    cases hg
    cases hy
    rfl
  · exact .inl (RecordId.lt_of_not_lt_of_ne hgroup hg)

end GroupYear

/-! ## One summary for each group and year -/

/-- The group and year of a summary. -/
def GroupFiscalYearSummary.groupYear (x : GroupFiscalYearSummary) : GroupYear := ⟨x.group, x.fiscalYear⟩

/-- When the totals of all groups are good, there is one good summary for each group and year. -/
theorem exists_summarize {links : List GroupFundFiscalYear} {budgets : List Budget} {funding : List Transaction}
    {P : GroupFiscalYearSummary → Prop}
    (h : ∀ key, (∃ link ∈ links, link.groupYear = key) →
      ∃ totals,
        groupTotals (links.filter fun link => link.groupYear == key) budgets funding key.fiscalYear = .ok totals ∧
          P ⟨key.group, key.fiscalYear, totals⟩) :
    ∃ summaries, summarize links budgets funding = .ok summaries ∧
      (summaries.map (·.groupYear)).Pairwise (· < ·) ∧
      (∀ key, key ∈ summaries.map (·.groupYear) ↔ ∃ link ∈ links, link.groupYear = key) ∧ ∀ x ∈ summaries, P x := by
  have hkeys : ∀ key, key ∈ ascending (links.map (·.groupYear)) ↔ ∃ link ∈ links, link.groupYear = key := by
    intro key
    rw [mem_ascending, List.mem_map]
  have hgroup : ∀ key ∈ ascending (links.map (·.groupYear)), ∃ x : GroupFiscalYearSummary,
      (do
        let totals ← groupTotals (links.filter fun link => link.groupYear == key) budgets funding key.fiscalYear
        return (⟨key.group, key.fiscalYear, totals⟩ : GroupFiscalYearSummary)) = .ok x ∧ x.groupYear = key ∧ P x := by
    intro key hkey
    obtain ⟨totals, htotals, hP⟩ := h key ((hkeys key).mp hkey)
    refine ⟨_, ?_, rfl, hP⟩
    rw [htotals]
    rfl
  obtain ⟨summaries, hmapM, hsummaries, hP⟩ := exists_mapM_ok hgroup
  refine ⟨summaries, hmapM, ?_, fun key => ?_, hP⟩
  · rw [hsummaries]
    exact ascending_pairwise GroupYear.lt_trans GroupYear.lt_of_not_lt_of_ne _
  · rw [hsummaries]
    exact hkeys key

/-! ## Distinct budgets -/

section Distinct

variable {seen : List BudgetId} {bs : List Budget} {b : Budget}

theorem mem_of_mem_distinctBudgets (h : b ∈ distinctBudgets seen bs) : b ∈ bs ∧ b.id ∉ seen := by
  induction bs generalizing seen with
  | nil => cases h
  | cons c rest ih =>
    unfold distinctBudgets at h
    split at h
    · obtain ⟨hmem, hseen⟩ := ih h
      exact ⟨List.mem_cons_of_mem c hmem, hseen⟩
    · rename_i hc
      rcases List.mem_cons.mp h with rfl | h
      · exact ⟨List.mem_cons_self, hc⟩
      · obtain ⟨hmem, hseen⟩ := ih h
        exact ⟨List.mem_cons_of_mem c hmem, fun hb => hseen (List.mem_cons_of_mem _ hb)⟩

theorem exists_mem_distinctBudgets (h : b ∈ bs) (hseen : b.id ∉ seen) : ∃ c ∈ distinctBudgets seen bs, c.id = b.id := by
  induction bs generalizing seen with
  | nil => cases h
  | cons c rest ih =>
    unfold distinctBudgets
    by_cases hc : c.id ∈ seen
    · rw [if_pos hc]
      rcases List.mem_cons.mp h with rfl | h
      · exact absurd hc hseen
      · exact ih h hseen
    · rw [if_neg hc]
      by_cases hid : b.id = c.id
      · exact ⟨c, List.mem_cons_self, hid.symm⟩
      · rcases List.mem_cons.mp h with rfl | h
        · exact absurd rfl hid
        · obtain ⟨d, hd, hdid⟩ := ih h (List.not_mem_cons_of_ne_of_not_mem hid hseen)
          exact ⟨d, List.mem_cons_of_mem c hd, hdid⟩

theorem nodup_distinctBudgets (seen : List BudgetId) (bs : List Budget) : (distinctBudgets seen bs).Nodup := by
  induction bs generalizing seen with
  | nil => exact List.nodup_nil
  | cons c rest ih =>
    unfold distinctBudgets
    split
    · exact ih seen
    · refine List.nodup_cons.mpr ⟨fun hc => ?_, ih _⟩
      exact (mem_of_mem_distinctBudgets hc).2 List.mem_cons_self

end Distinct

/-! ## Members -/

namespace GroupFundFiscalYear

/-- Whether a link stands for a budget: the one that it names, or else that of its fund and year. -/
def standsFor (link : GroupFundFiscalYear) (b : Budget) : Bool :=
  match link.budget with
  | some id => b.id == id
  | none => b.fund == link.fund && b.fiscalYear == link.fiscalYear

theorem budgetIn?_eq_find? (link : GroupFundFiscalYear) (bs : List Budget) :
    link.budgetIn? bs = bs.find? link.standsFor := by
  unfold budgetIn? standsFor
  cases link.budget <;> rfl

end GroupFundFiscalYear

namespace Store

variable {s s' : Store} {calls : List Call} {links : List GroupFundFiscalYear} {link : GroupFundFiscalYear}
  {key : GroupYear} {b : Budget}

/-- Every budget that a link names is stored, and is that of the link's fund and year. -/
def LinksAgree (s : Store) (links : List GroupFundFiscalYear) : Prop :=
  ∀ link ∈ links, ∀ id ∈ link.budget, ∃ b ∈ s.budgets, b.id = id ∧ b.fund = link.fund ∧ b.fiscalYear = link.fiscalYear

/-- The stored budgets that the links of a group and year stand for. -/
def membersOf (s : Store) (links : List GroupFundFiscalYear) (key : GroupYear) : List Budget :=
  s.budgets.records.filter fun b => links.any fun link => link.groupYear == key && link.standsFor b

theorem mem_membersOf :
    b ∈ s.membersOf links key ↔ b ∈ s.budgets ∧ ∃ link ∈ links, link.groupYear = key ∧ link.standsFor b = true := by
  unfold membersOf
  simp only [List.mem_filter, List.any_eq_true, Bool.and_eq_true, beq_iff_eq]
  rfl

/-- A link stands for the budget of its fund and year. -/
theorem OneBudget.standsFor_iff (hone : s.OneBudget) (hagree : s.LinksAgree links) (hlink : link ∈ links)
    (hb : b ∈ s.budgets) : link.standsFor b = true ↔ b.fund = link.fund ∧ b.fiscalYear = link.fiscalYear := by
  unfold GroupFundFiscalYear.standsFor
  cases hbudget : link.budget with
  | none => simp only [Bool.and_eq_true, beq_iff_eq]
  | some id =>
    obtain ⟨c, hc, hid, hfund, hyear⟩ := hagree link hlink id hbudget
    rw [beq_iff_eq]
    constructor
    · intro hbid
      obtain rfl : b = c := Table.eq_of_id_eq hb hc (hbid.trans hid.symm)
      exact ⟨hfund, hyear⟩
    · rintro ⟨hbfund, hbyear⟩
      obtain rfl := hone b hb c hc (hbfund.trans hfund.symm) (hbyear.trans hyear.symm)
      exact hid

/-- A budget of the group is in the group's year. -/
theorem fiscalYear_of_mem_membersOf (hone : s.OneBudget) (hagree : s.LinksAgree links) (h : b ∈ s.membersOf links key) :
    b.fiscalYear = key.fiscalYear := by
  obtain ⟨hb, link, hlink, rfl, hstands⟩ := mem_membersOf.mp h
  exact ((hone.standsFor_iff hagree hlink hb).mp hstands).2

section Members

variable {bs : List Budget} (hone : s.OneBudget) (hagree : s.LinksAgree links) (hstored : ∀ c ∈ bs, c ∈ s.budgets)
  (hall : ∀ c ∈ s.budgets, ∀ link ∈ links, c.fund = link.fund → c.fiscalYear = link.fiscalYear → c ∈ bs)

include hone hagree hstored hall

/-- A link finds the budget that it stands for. -/
theorem budgetIn?_eq_some_iff (hlink : link ∈ links) :
    link.budgetIn? bs = some b ↔ b ∈ s.budgets ∧ link.standsFor b = true := by
  rw [link.budgetIn?_eq_find?]
  constructor
  · intro hb
    exact ⟨hstored b (List.mem_of_find?_eq_some hb), List.find?_some hb⟩
  · rintro ⟨hb, hstands⟩
    obtain ⟨hfund, hyear⟩ := (hone.standsFor_iff hagree hlink hb).mp hstands
    cases hfind : bs.find? link.standsFor with
    | none => exact absurd hstands (List.find?_eq_none.mp hfind b (hall b hb link hlink hfund hyear))
    | some c =>
      have hc := hstored c (List.mem_of_find?_eq_some hfind)
      obtain ⟨hcfund, hcyear⟩ := (hone.standsFor_iff hagree hlink hc).mp (List.find?_some hfind)
      rw [hone c hc b hb (hcfund.trans hfund.symm) (hcyear.trans hyear.symm)]

/-- The budgets that are added up for a group are its members. -/
theorem mem_memberBudgets :
    b ∈ memberBudgets (links.filter fun link => link.groupYear == key) bs ↔ b ∈ s.membersOf links key := by
  have hmem : ∀ c, c ∈ (links.filter fun link => link.groupYear == key).filterMap (fun link => link.budgetIn? bs) ↔
      c ∈ s.membersOf links key := by
    intro c
    rw [List.mem_filterMap, mem_membersOf]
    constructor
    · rintro ⟨link, hlink, hc⟩
      obtain ⟨hlinks, hkey⟩ := List.mem_filter.mp hlink
      obtain ⟨hc, hstands⟩ := (budgetIn?_eq_some_iff hone hagree hstored hall hlinks).mp hc
      exact ⟨hc, link, hlinks, eq_of_beq hkey, hstands⟩
    · rintro ⟨hc, link, hlink, hkey, hstands⟩
      exact ⟨link, List.mem_filter.mpr ⟨hlink, beq_iff_eq.mpr hkey⟩,
        (budgetIn?_eq_some_iff hone hagree hstored hall hlink).mpr ⟨hc, hstands⟩⟩
  unfold memberBudgets
  constructor
  · intro h
    exact (hmem b).mp (mem_of_mem_distinctBudgets h).1
  · intro h
    obtain ⟨c, hc, hid⟩ := exists_mem_distinctBudgets ((hmem b).mpr h) List.not_mem_nil
    have hcmem := (hmem c).mp (mem_of_mem_distinctBudgets hc).1
    obtain rfl : c = b := Table.eq_of_id_eq (mem_membersOf.mp hcmem).1 (mem_membersOf.mp h).1 hid
    exact hc

theorem memberBudgets_perm (key : GroupYear) :
    (memberBudgets (links.filter fun link => link.groupYear == key) bs).Perm (s.membersOf links key) :=
  (List.perm_ext_iff_of_nodup (nodup_distinctBudgets _ _) (s.budgets.nodup_records.filter _)).mpr fun _ =>
    mem_memberBudgets hone hagree hstored hall

end Members

/-! ## Inputs -/

/-- The funds of the links in a fiscal year. -/
def fundsOf (links : List GroupFundFiscalYear) (fiscalYear : FiscalYearId) : List FundId :=
  (links.filter fun link => link.fiscalYear == fiscalYear).map (·.fund)

/-- The budgets of the links' funds in a fiscal year. -/
def budgetsOfYear (s : Store) (links : List GroupFundFiscalYear) (fiscalYear : FiscalYearId) : List Budget :=
  ((byFiscalYear fiscalYear).filter s.budgets.records).filter fun b => (fundsOf links fiscalYear).contains b.fund

/-- The allocations and transfers of the links' funds in a fiscal year. -/
def fundingOfYear (s : Store) (links : List GroupFundFiscalYear) (fiscalYear : FiscalYearId) : List Transaction :=
  (s.transactions.records.filter fun t => t.isAmong (fundsOf links fiscalYear) fiscalYear [.allocation]) ++
    s.transactions.records.filter fun t =>
      t.isAmong (fundsOf links fiscalYear) fiscalYear [.transfer, .rolloverTransfer]

/-- The years of the links. -/
def yearsOf (links : List GroupFundFiscalYear) : List FiscalYearId := ascending (links.map (·.fiscalYear))

/-- All budgets that are read. -/
def budgetsRead (s : Store) (links : List GroupFundFiscalYear) : List Budget :=
  (yearsOf links).flatMap (s.budgetsOfYear links)

/-- All transactions that are read. -/
def fundingRead (s : Store) (links : List GroupFundFiscalYear) : List Transaction :=
  (yearsOf links).flatMap (s.fundingOfYear links)

/-- The summaries are those of what is read year by year. -/
theorem perform_groupSummaries (s : Store) (query : Query) :
    let links := query.filter s.groupFundFiscalYears.records
    s.perform (.groupSummaries query) =
      ((summarize links (s.budgetsRead links) (s.fundingRead links)).mapError Failure.overflow, s) := by
  intro links
  have hyear : ∀ fiscalYear ∈ yearsOf links, s.perform (Operation.groupInputs (fundsOf links fiscalYear) fiscalYear) =
      (.ok (s.budgetsOfYear links fiscalYear, s.fundingOfYear links fiscalYear), s) := fun _ _ => rfl
  have hinputs := perform_mapM hyear
  unfold yearsOf fundsOf at hinputs
  have hlinks : s.perform (Operation.request (.queryGroupFundFiscalYears query)) = (.ok links, s) := rfl
  unfold Operation.groupSummaries
  rw [perform_bind, hlinks]
  dsimp only
  rw [perform_bind, hinputs]
  simp only [perform_ofArithmetic, List.flatMap_map]
  rfl

theorem mem_budgetsOfYear {fiscalYear : FiscalYearId} :
    b ∈ s.budgetsOfYear links fiscalYear ↔
      b ∈ s.budgets ∧ b.fiscalYear = fiscalYear ∧ b.fund ∈ fundsOf links fiscalYear := by
  unfold budgetsOfYear
  rw [byFiscalYear_filter, List.mem_filter, List.mem_filter, List.contains_iff_mem, decide_eq_true_eq, and_assoc]
  rfl

theorem mem_fundsOf (hlink : link ∈ links) : link.fund ∈ fundsOf links link.fiscalYear :=
  List.mem_map_of_mem (List.mem_filter.mpr ⟨hlink, beq_self_eq_true _⟩)

/-- The fund of a member is among those of the links. -/
theorem fund_of_mem_membersOf (hone : s.OneBudget) (hagree : s.LinksAgree links) (h : b ∈ s.membersOf links key) :
    b.fund ∈ fundsOf links key.fiscalYear := by
  obtain ⟨hb, link, hlink, rfl, hstands⟩ := mem_membersOf.mp h
  rw [((hone.standsFor_iff hagree hlink hb).mp hstands).1]
  exact mem_fundsOf hlink

theorem mem_yearsOf (hlink : link ∈ links) : link.fiscalYear ∈ yearsOf links :=
  mem_ascending.mpr (List.mem_map_of_mem hlink)

theorem stored_of_mem_budgetsRead (h : b ∈ s.budgetsRead links) : b ∈ s.budgets := by
  obtain ⟨fiscalYear, -, hb⟩ := List.mem_flatMap.mp h
  exact (mem_budgetsOfYear.mp hb).1

/-- Every budget of a link's fund and year is read. -/
theorem mem_budgetsRead (hb : b ∈ s.budgets) (hlink : link ∈ links) (hfund : b.fund = link.fund)
    (hyear : b.fiscalYear = link.fiscalYear) : b ∈ s.budgetsRead links := by
  refine List.mem_flatMap.mpr ⟨link.fiscalYear, mem_yearsOf hlink, mem_budgetsOfYear.mpr ⟨hb, hyear, ?_⟩⟩
  rw [hfund]
  exact mem_fundsOf hlink

theorem fiscalYear_of_mem_fundingOfYear {t : Transaction} {fiscalYear : FiscalYearId}
    (h : t ∈ s.fundingOfYear links fiscalYear) : t.fiscalYear = fiscalYear := by
  have hamong : ∀ kinds, t.isAmong (fundsOf links fiscalYear) fiscalYear kinds = true → t.fiscalYear = fiscalYear := by
    intro kinds h
    unfold Transaction.isAmong at h
    rw [Bool.and_eq_true, Bool.and_eq_true] at h
    exact eq_of_beq h.1.1
  rcases List.mem_append.mp h with h | h
  · exact hamong _ (List.mem_filter.mp h).2
  · exact hamong _ (List.mem_filter.mp h).2

/-- The allocations and the transfers are the funding transactions. -/
theorem fundingOfYear_perm (s : Store) (links : List GroupFundFiscalYear) (fiscalYear : FiscalYearId) :
    (s.fundingOfYear links fiscalYear).Perm
      (Members.fundingOf (fundsOf links fiscalYear) fiscalYear s.transactions.records) := by
  have hsplit := List.filter_append_perm (fun t : Transaction => t.kind == .allocation)
    (Members.fundingOf (fundsOf links fiscalYear) fiscalYear s.transactions.records)
  rw [List.filter_filter, List.filter_filter] at hsplit
  refine List.Perm.trans (List.Perm.of_eq ?_) hsplit
  unfold fundingOfYear
  congr 1 <;> refine List.filter_congr fun t _ => ?_
  all_goals
    unfold Transaction.isAmong
    cases t.fiscalYear == fiscalYear <;> cases (fundsOf links fiscalYear).any t.touches <;> cases t.kind <;> rfl

/-- What is read for one of the years. -/
theorem fundingRead_perm (s : Store) (hlink : link ∈ links) :
    ((s.fundingRead links).filter fun t => t.fiscalYear == link.fiscalYear).Perm
      (Members.fundingOf (fundsOf links link.fiscalYear) link.fiscalYear s.transactions.records) := by
  have hyears : (yearsOf links).Nodup := nodup_ascending _
  have hyear : ∀ fiscalYear ∈ yearsOf links, ∀ t ∈ s.fundingOfYear links fiscalYear, t.fiscalYear = fiscalYear :=
    fun _ _ _ ht => fiscalYear_of_mem_fundingOfYear ht
  unfold fundingRead
  rw [filter_flatMap_of_nodup hyears hyear (mem_yearsOf hlink)]
  exact s.fundingOfYear_perm links link.fiscalYear

/-! ## Summaries -/

/-- What comes to the members of a group from elsewhere by some transactions of the year, less what goes elsewhere. -/
def inflow (s : Store) (links : List GroupFundFiscalYear) (key : GroupYear) (q : Transaction → Bool) : Int :=
  let funds := (s.membersOf links key).map (·.fund)
  let txs := s.transactions.records.filter fun t => t.fiscalYear == key.fiscalYear && q t
  unitsInto funds txs - unitsOutOf funds txs

/-- A summary gives what the members of its group hold together; what moves between two of them is neither allocated nor
transferred to the group. -/
structure IsSummary (s : Store) (links : List GroupFundFiscalYear) (x : GroupFiscalYearSummary) : Prop where
  totals : x.totals.values = .together ((s.membersOf links x.groupYear).map (·.totals.values))
  no_members : s.membersOf links x.groupYear = [] → x.totals = .zero
  allocated : x.totals.allocated.units = s.inflow links x.groupYear (·.kind == .allocation)
  netTransfers : x.totals.netTransfers.units = s.inflow links x.groupYear (·.isTransfer)

theorem IsSummary.awaitingPayment {x : GroupFiscalYearSummary} (h : s.IsSummary links x) :
    x.totals.awaitingPayment.units = ((s.membersOf links x.groupYear).map (·.totals.awaitingPayment.units)).sum := by
  have hsums := congrArg Totals.toSums h.totals
  exact (congrArg Sums.awaitingPayment hsums).trans (congrArg List.sum (List.map_map ..))

/-- The summaries of the links that a query asks for: one for each group and year, in ascending order. -/
def SummariesAddUp (s : Store) (query : Query) : Prop :=
  let links := query.filter s.groupFundFiscalYears.records
  ∃ summaries, s.perform (.groupSummaries query) = (.ok summaries, s) ∧
    (summaries.map (·.groupYear)).Pairwise (· < ·) ∧
    (∀ key, key ∈ summaries.map (·.groupYear) ↔ ∃ link ∈ links, link.groupYear = key) ∧
    ∀ x ∈ summaries, s.IsSummary links x

/-- Totals that count what the members keep together are a summary. -/
theorem isSummary_of_counts {c : Currency} {totals : Totals Decimal}
    (hmembers : Members (s.membersOf links key) key.fiscalYear c s.transactions.records)
    (hcounts : totals.Counts c.minorUnits
      ((s.membersOf links key).map (Budget.tally · s.transactions.records)).sum.derived)
    (hnone : s.membersOf links key = [] → totals = .zero) : s.IsSummary links ⟨key.group, key.fiscalYear, totals⟩ where
  totals := by
    change totals.values = .together ((s.membersOf links key).map (·.totals.values))
    rw [Totals.counts_iff.mp hcounts, ← Totals.together_derived (Decimal.minorUnit_pos _).le, List.map_map]
    refine congrArg Totals.together (List.map_congr_left fun b hb => ?_)
    exact (Totals.counts_iff.mp (hmembers.counts_totals hb)).symm
  no_members := hnone
  allocated := hcounts.allocated.trans hmembers.units_allocated
  netTransfers := hcounts.sums.netTransfers.trans hmembers.units_netTransfers

section Summaries

variable {c : Currency} (h : s.Consistent) (hbacked : s.Backed) (small : s.volume < 2 ^ 94)
  (hagree : s.LinksAgree links)

include h hbacked small hagree

/-- The members of a group can be added up. -/
theorem members_membersOf (hcurrency : ∀ b ∈ s.membersOf links key, b.currency = c) :
    Members (s.membersOf links key) key.fiscalYear c s.transactions.records where
  year := fun b hb => fiscalYear_of_mem_membersOf h.oneBudget hagree hb
  currency := hcurrency
  nodup_funds := OneBudget.nodup_funds h.oneBudget (s.budgets.nodup_records.filter _)
    (fun b hb => (mem_membersOf.mp hb).1) fun b hb => fiscalYear_of_mem_membersOf h.oneBudget hagree hb
  holds := fun b hb => h.holds small (mem_membersOf.mp hb).1
  rounded := by
    intro b hb t ht
    obtain ⟨hmem, hcovers⟩ := List.mem_filter.mp ht
    have ht' : t.currency = c := (h.currency b (mem_membersOf.mp hb).1 t hmem hcovers).trans (hcurrency b hb)
    rw [← ht']
    exact hbacked.rounded t hmem
  ids := s.transactions.nodup_ids
  small := small

/-- What is computed for a group is its summary. -/
theorem exists_summary
    (hcurrency : ∀ key, ∀ b ∈ s.membersOf links key, ∀ b' ∈ s.membersOf links key, b.currency = b'.currency)
    (hkey : ∃ link ∈ links, link.groupYear = key) :
    ∃ totals, groupTotals (links.filter fun link => link.groupYear == key) (s.budgetsRead links) (s.fundingRead links)
        key.fiscalYear = .ok totals ∧
      s.IsSummary links ⟨key.group, key.fiscalYear, totals⟩ := by
  obtain ⟨link, hlink, rfl⟩ := hkey
  obtain ⟨c, hc⟩ : ∃ c, ∀ b ∈ s.membersOf links link.groupYear, b.currency = c := by
    cases hmembers : s.membersOf links link.groupYear with
    | nil => exact ⟨default, fun b hb => absurd hb List.not_mem_nil⟩
    | cons first rest =>
      refine ⟨first.currency, fun b hb => ?_⟩
      rw [← hmembers] at hb
      exact hcurrency _ b hb first (hmembers ▸ List.mem_cons_self)
  have hmembers := members_membersOf h hbacked small hagree hc
  have hperm := memberBudgets_perm h.oneBudget hagree (fun _ => stored_of_mem_budgetsRead)
    (fun _ hb _ hlink => mem_budgetsRead hb hlink) link.groupYear
  have hfunds : ∀ b ∈ memberBudgets (links.filter fun l => l.groupYear == link.groupYear) (s.budgetsRead links),
      b.fund ∈ fundsOf links link.fiscalYear :=
    fun b hb => fund_of_mem_membersOf h.oneBudget hagree (hperm.mem_iff.mp hb)
  obtain ⟨totals, htotals, hcounts, hnone⟩ :=
    (hmembers.perm hperm.symm).groupTotals_counts rfl hfunds (s.fundingRead_perm hlink)
  rw [(hperm.map _).sum_eq] at hcounts
  exact ⟨totals, htotals, isSummary_of_counts hmembers hcounts fun hempty => hnone (List.perm_nil.mp (hempty ▸ hperm))⟩

end Summaries

/-- The summaries of a consistent store. -/
theorem Consistent.summaries (h : s.Consistent) (hbacked : s.Backed) (small : s.volume < 2 ^ 94) (query : Query)
    (hagree : s.LinksAgree (query.filter s.groupFundFiscalYears.records))
    (hcurrency : ∀ key, ∀ b ∈ s.membersOf (query.filter s.groupFundFiscalYears.records) key,
      ∀ b' ∈ s.membersOf (query.filter s.groupFundFiscalYears.records) key, b.currency = b'.currency) :
    s.SummariesAddUp query := by
  obtain ⟨summaries, hsummarize, hascending, hkeys, hright⟩ := exists_summarize fun key hkey =>
    exists_summary h hbacked small hagree hcurrency hkey
  refine ⟨summaries, ?_, hascending, hkeys, hright⟩
  rw [perform_groupSummaries, hsummarize]
  rfl

/-- After any run of calls on a ledger without transactions whose budgets are empty, the summaries that a query asks for
give what the members of each group hold together, if the links name no other budgets than those of their funds and
years, and the members of a group share a currency. -/
theorem Run.summariesAddUp (hrun : s.Run calls s') (hnone : s.transactions.records = []) (hone : s.OneBudget)
    (hzero : ∀ b ∈ s.budgets, b.totals ≈ Totals.zero) (small : (calls.map Call.volume).sum < 2 ^ 94) (query : Query)
    (hagree : s'.LinksAgree (query.filter s'.groupFundFiscalYears.records))
    (hcurrency : ∀ key, ∀ b ∈ s'.membersOf (query.filter s'.groupFundFiscalYears.records) key,
      ∀ b' ∈ s'.membersOf (query.filter s'.groupFundFiscalYears.records) key, b.currency = b'.currency) :
    s'.SummariesAddUp query := by
  obtain ⟨hconsistent, hbacked, hvolume⟩ := hrun.of_no_transactions hnone hone hzero small
  exact hconsistent.summaries hbacked hvolume query hagree hcurrency

/-- The two funds in one group, the first of them linked twice, and another group without a budget. -/
def twoGroups : Store :=
  { twoFunds with
    groupFundFiscalYears :=
      .ofList [⟨31, 5, 1, 9, some 11⟩, ⟨32, 5, 2, 9, none⟩, ⟨33, 5, 1, 9, none⟩, ⟨34, 6, 3, 9, none⟩] }

theorem summariesAddUp_twoGroups :
    let s' := ((twoGroups.perform (Call.create allocationToBooks).operation).2.perform
      (Call.create transferToJournals).operation).2
    s'.SummariesAddUp .all := by
  intro s'
  have hnew : Call.IsNew twoGroups (.create allocationToBooks) := by
    change twoGroups.transactions.find? allocationToBooks.id = none
    decide
  have hnew' : Call.IsNew (twoGroups.perform (Call.create allocationToBooks).operation).2
      (.create transferToJournals) := by
    change (twoGroups.perform (Call.create allocationToBooks).operation).2.transactions.find? 22 = none
    decide +kernel
  have hzero : ∀ b ∈ twoGroups.budgets.records, b.totals ≈ Totals.zero := by decide
  have hdollars : ∀ b ∈ s'.budgets.records, b.currency = .usd := by decide +kernel
  have hagree : ∀ link ∈ Query.all.filter s'.groupFundFiscalYears.records, ∀ id ∈ link.budget,
      ∃ b ∈ s'.budgets.records, b.id = id ∧ b.fund = link.fund ∧ b.fiscalYear = link.fiscalYear := by decide +kernel
  have hrun : twoGroups.Run [.create allocationToBooks, .create transferToJournals] s' :=
    .snoc (.snoc .nil hnew) hnew'
  exact hrun.summariesAddUp rfl consistent_twoFunds.oneBudget hzero (by decide) .all hagree
    fun _ b hb b' hb' => (hdollars b (mem_membersOf.mp hb).1).trans (hdollars b' (mem_membersOf.mp hb').1).symm

/-- Three funds with an empty budget each, in one group. -/
def threeFunds : Store where
  budgets := .ofList [.create 11 "books" 1 9 .usd, .create 12 "journals" 2 9 .usd, .create 13 "maps" 3 9 .usd]
  groupFundFiscalYears := .ofList [⟨31, 5, 1, 9, none⟩, ⟨32, 5, 2, 9, none⟩, ⟨33, 5, 3, 9, none⟩]

/-- Amounts without room for their sum lose a cent on the way, although the whole sum would have room again. -/
theorem summaries_round_hugePayments :
    let first := Call.create (pendingFrom 21 1 500000000000000000000000000.01)
    let second := Call.create (pendingFrom 22 2 500000000000000000000000000.00)
    let third := Call.create (pendingFrom 23 3 (-500000000000000000000000000.00))
    let s' := (((threeFunds.perform first.operation).2.perform second.operation).2.perform third.operation).2
    let links := Query.all.filter s'.groupFundFiscalYears.records
    threeFunds.Run [first, second, third] s' ∧ threeFunds.transactions.records = [] ∧ threeFunds.OneBudget ∧
      (∀ b ∈ threeFunds.budgets, b.totals ≈ Totals.zero) ∧ s'.LinksAgree links ∧
      (∀ key, ∀ b ∈ s'.membersOf links key, ∀ b' ∈ s'.membersOf links key, b.currency = b'.currency) ∧
      (∃ x, (s'.perform (.groupSummaries .all)).1 = .ok [x] ∧ x.totals.awaitingPayment.units ≠
        ((s'.membersOf links x.groupYear).map (·.totals.awaitingPayment.units)).sum) ∧
      ¬s'.SummariesAddUp .all := by
  intro first second third s' links
  have hnew : first.IsNew threeFunds := by
    change threeFunds.transactions.find? 21 = none
    decide
  have hnew' : second.IsNew (threeFunds.perform first.operation).2 := by
    change (threeFunds.perform first.operation).2.transactions.find? 22 = none
    decide +kernel
  have hnew'' : third.IsNew ((threeFunds.perform first.operation).2.perform second.operation).2 := by
    change ((threeFunds.perform first.operation).2.perform second.operation).2.transactions.find? 23 = none
    decide +kernel
  have hone : ∀ b ∈ threeFunds.budgets.records, ∀ b' ∈ threeFunds.budgets.records,
      b.fund = b'.fund → b.fiscalYear = b'.fiscalYear → b = b' := by decide
  have hzero : ∀ b ∈ threeFunds.budgets.records, b.totals ≈ Totals.zero := by decide
  have hdollars : ∀ b ∈ s'.budgets.records, b.currency = .usd := by decide +kernel
  have hagree : ∀ link ∈ links, ∀ id ∈ link.budget,
      ∃ b ∈ s'.budgets.records, b.id = id ∧ b.fund = link.fund ∧ b.fiscalYear = link.fiscalYear := by decide +kernel
  let totals : Totals Decimal :=
    { Totals.zero with
      awaitingPayment := 500000000000000000000000000.00
      unavailable := 500000000000000000000000000.00
      available := -500000000000000000000000000.00
      overExpended := 500000000000000000000000000.00 }
  have hresult : (s'.perform (.groupSummaries .all)).1 = .ok [⟨5, 9, totals⟩] := by decide +kernel
  have hwrong : totals.awaitingPayment.units ≠
      ((s'.membersOf links ⟨5, 9⟩).map (·.totals.awaitingPayment.units)).sum := by decide +kernel
  refine ⟨.snoc (.snoc (.snoc .nil hnew) hnew') hnew'', rfl, hone, hzero, hagree, fun _ b hb b' hb' =>
    (hdollars b (mem_membersOf.mp hb).1).trans (hdollars b' (mem_membersOf.mp hb').1).symm, ⟨_, hresult, hwrong⟩, ?_⟩
  rintro ⟨summaries, hperform, -, -, hright⟩
  obtain rfl : summaries = [⟨5, 9, totals⟩] := Except.ok.inj ((congrArg Prod.fst hperform).symm.trans hresult)
  exact hwrong (hright _ List.mem_cons_self).awaitingPayment

end Store

end FundLedger
