import FundLedger.Proofs.GroupSummaries
/-!
# Summaries apart from each other

A query for summaries reads the budgets and the funding of all links that it selects into one pool, and every group is
summarized from this pool.  Still the summary of a group in a fiscal year depends on the links of that group and year
alone.  The pool holds all budgets that one of these links can stand for, and all funding that touches the funds of the
members, in the order of the store; and what else it holds, no member is found by and nothing is added up from.

* `groupTotals_congr`: what the totals of a group depend on.
* `Store.NamesOwnBudgets`: links that name no budgets of others.
* `Store.budgetIn?_budgetsRead`, `Store.fundingRead_filter`: what the pool holds for a group.
* `Store.groupSummaries_isolated`: two queries that select the same links of a group and year.
-/

namespace FundLedger

/-! ## Lists -/

section Lists

variable {α β σ ε : Type}

/-- Steps that change nothing can be left out. -/
theorem foldlM_filter_of_idle {f : σ → α → Except ε σ} {p : α → Bool} {l : List α}
    (h : ∀ a ∈ l, p a = false → ∀ s, f s a = .ok s) (s : σ) : (l.filter p).foldlM f s = l.foldlM f s := by
  induction l generalizing s with
  | nil => rfl
  | cons a rest ih =>
    have hrest := ih fun b hb => h b (List.mem_cons_of_mem a hb)
    cases ha : p a with
    | false =>
      rw [List.filter_cons_of_neg (by simp [ha]), hrest, List.foldlM_cons, h a List.mem_cons_self ha s]
      rfl
    | true =>
      rw [List.filter_cons_of_pos ha, List.foldlM_cons, List.foldlM_cons]
      cases f s a with
      | error e => rfl
      | ok s' => exact hrest s'

/-- Results that are all good. -/
theorem eq_flatMap_of_mapM_ok {f : α → Except ε β} {l : List α} {bs : List β} (h : l.mapM f = .ok bs) :
    bs = l.flatMap (fun a => (f a).toOption.toList) ∧ ∀ a ∈ l, ∃ b, f a = .ok b := by
  rcases mapM_ok_or_error f l with ⟨bs', hok, hall⟩ | ⟨_, _, _, _, herror⟩
  · obtain rfl := Except.ok.inj (h.symm.trans hok)
    clear h hok
    induction hall with
    | nil => exact ⟨rfl, fun a ha => absurd ha List.not_mem_nil⟩
    | cons hb _ ih =>
      rw [List.flatMap_cons, hb, ← ih.1]
      exact ⟨rfl, List.forall_mem_cons.mpr ⟨⟨_, hb⟩, ih.2⟩⟩
  · cases h.symm.trans herror

end Lists

/-! ## Totals of a group -/

section Totals

variable {funds : List FundId} {fund : FundId} {initial : List TransactionId} {t : Transaction}

/-- Funding that touches none of the funds adds nothing. -/
theorem addFunding_of_not_touches (h : funds.any t.touches = false) (sums : Sums Decimal) :
    addFunding funds initial sums t = .ok sums := by
  have htouches : ∀ fund ∈ funds, t.touches fund = false := fun fund hfund => by
    simpa using List.any_eq_false.mp h fund hfund
  have hreceived : t.toFund.any (fun fund => funds.contains fund) = false := by
    rw [Bool.eq_false_iff]
    intro hany
    obtain ⟨fund, hfund, htrue⟩ := t.exists_touches_of_receiver hany
    rw [htouches fund hfund] at htrue
    cases htrue
  have hsent : t.fromFund.any (fun fund => funds.contains fund) = false := by
    rw [Bool.eq_false_iff]
    intro hany
    obtain ⟨fund, hfund, htrue⟩ := t.exists_touches_of_sender hany
    rw [htouches fund hfund] at htrue
    cases htrue
  unfold addFunding
  rw [hreceived, hsent]
  cases t.kind <;> rfl

/-- The initial allocation of a fund is among what touches it. -/
theorem initialAllocation?_filter_touches (hfund : fund ∈ funds) (txs : List Transaction) :
    initialAllocation? fund (txs.filter fun t => funds.any t.touches) = initialAllocation? fund txs := by
  have hreceived : receivedAllocations fund (txs.filter fun t => funds.any t.touches) =
      receivedAllocations fund txs := by
    unfold receivedAllocations
    rw [List.filter_filter]
    refine List.filter_congr fun t _ => ?_
    cases hrole : t.hasRole fund .receiver with
    | false => simp
    | true =>
      have htouches : t.touches fund = true := by
        unfold Transaction.touches
        rw [hrole, Bool.or_true]
      rw [List.any_eq_true.mpr ⟨fund, hfund, htouches⟩, Bool.and_true]
  unfold initialAllocation?
  rw [hreceived]

/-- The totals of a group depend on its members, and on the funding of the year that touches their funds. -/
theorem groupTotals_congr {links : List GroupFundFiscalYear} {budgets budgets' : List Budget}
    {funding funding' : List Transaction} {fiscalYear : FiscalYearId}
    (hmembers : memberBudgets links budgets = memberBudgets links budgets')
    (hfunding : ∀ funds : List FundId, funds = ascending ((memberBudgets links budgets').map (·.fund)) →
      (funding.filter fun t => t.fiscalYear == fiscalYear).filter (fun t => funds.any t.touches) =
        (funding'.filter fun t => t.fiscalYear == fiscalYear).filter (fun t => funds.any t.touches)) :
    groupTotals links budgets funding fiscalYear = groupTotals links budgets' funding' fiscalYear := by
  unfold groupTotals
  rw [hmembers]
  cases hlist : memberBudgets links budgets' with
  | nil => rfl
  | cons first rest =>
    have hsame := hfunding (ascending ((first :: rest).map (·.fund))) (by rw [hlist])
    dsimp only
    generalize ascending ((first :: rest).map (·.fund)) = funds at hsame
    generalize funding.filter (fun t => t.fiscalYear == fiscalYear) = inYear at hsame
    generalize funding'.filter (fun t => t.fiscalYear == fiscalYear) = inYear' at hsame
    have hinitial : funds.filterMap (initialAllocation? · inYear) = funds.filterMap (initialAllocation? · inYear') := by
      refine List.filterMap_congr fun fund hfund => ?_
      rw [← initialAllocation?_filter_touches hfund inYear, hsame, initialAllocation?_filter_touches hfund]
    have hadded : ∀ initial sums, inYear.foldlM (addFunding funds initial) sums =
        inYear'.foldlM (addFunding funds initial) sums := by
      intro initial sums
      have hidle : ∀ txs : List Transaction, ∀ t ∈ txs, funds.any t.touches = false → ∀ sums,
          addFunding funds initial sums t = .ok sums := fun _ _ _ h sums => addFunding_of_not_touches h sums
      rw [← foldlM_filter_of_idle (hidle inYear), hsame, foldlM_filter_of_idle (hidle inYear')]
    simp only [hinitial, hadded]

end Totals

theorem nodup_groupYears (links : List GroupFundFiscalYear) : (ascending (links.map (·.groupYear))).Nodup := by
  have hpairwise := ascending_pairwise GroupYear.lt_trans GroupYear.lt_of_not_lt_of_ne (links.map (·.groupYear))
  refine hpairwise.imp fun hlt heq => ?_
  rw [heq] at hlt
  rcases hlt with hlt | ⟨-, hlt⟩ <;> exact RecordId.lt_irrefl _ hlt

/-- The summary of a group and year. -/
def summaryOf (links : List GroupFundFiscalYear) (budgets : List Budget) (funding : List Transaction) (key : GroupYear) :
    Except Overflow GroupFiscalYearSummary :=
  (groupTotals (links.filter fun link => link.groupYear == key) budgets funding key.fiscalYear).map fun totals =>
    ⟨key.group, key.fiscalYear, totals⟩

theorem groupYear_of_summaryOf {links : List GroupFundFiscalYear} {budgets : List Budget} {funding : List Transaction}
    {key : GroupYear} {x : GroupFiscalYearSummary} (h : summaryOf links budgets funding key = .ok x) :
    x.groupYear = key := by
  unfold summaryOf at h
  cases htotals : groupTotals (links.filter fun link => link.groupYear == key) budgets funding key.fiscalYear with
  | error operation =>
    rw [htotals] at h
    cases h
  | ok totals =>
    rw [htotals] at h
    cases h
    rfl

theorem summarize_eq (links : List GroupFundFiscalYear) (budgets : List Budget) (funding : List Transaction) :
    summarize links budgets funding = (ascending (links.map (·.groupYear))).mapM (summaryOf links budgets funding) := rfl

section Summarize

variable {links : List GroupFundFiscalYear} {budgets : List Budget} {funding : List Transaction}
  {summaries : List GroupFiscalYearSummary} {key : GroupYear}

/-- Among all summaries there is one of a group and year that have links. -/
theorem summarize_filter (h : summarize links budgets funding = .ok summaries)
    (hkey : ∃ link ∈ links, link.groupYear = key) :
    ∃ x, summaryOf links budgets funding key = .ok x ∧ summaries.filter (fun y => y.groupYear == key) = [x] := by
  have hmem : key ∈ ascending (links.map (·.groupYear)) := mem_ascending.mpr (List.mem_map.mpr hkey)
  rw [summarize_eq] at h
  obtain ⟨hsummaries, hok⟩ := eq_flatMap_of_mapM_ok h
  obtain ⟨x, hx⟩ := hok key hmem
  have hgroupYear : ∀ k ∈ ascending (links.map (·.groupYear)),
      ∀ y ∈ (summaryOf links budgets funding k).toOption.toList, y.groupYear = k := by
    intro k hk y hy
    obtain ⟨z, hz⟩ := hok k hk
    rw [hz] at hy
    obtain rfl := List.mem_singleton.mp hy
    exact groupYear_of_summaryOf hz
  refine ⟨x, hx, ?_⟩
  rw [hsummaries, filter_flatMap_of_nodup (nodup_groupYears links) hgroupYear hmem, hx]
  rfl

/-- There is no summary of a group and year without links. -/
theorem summarize_filter_eq_nil (h : summarize links budgets funding = .ok summaries)
    (hkey : ¬∃ link ∈ links, link.groupYear = key) : summaries.filter (fun y => y.groupYear == key) = [] := by
  rw [summarize_eq] at h
  obtain ⟨hsummaries, hok⟩ := eq_flatMap_of_mapM_ok h
  refine List.filter_eq_nil_iff.mpr fun y hy hykey => hkey ?_
  rw [hsummaries] at hy
  obtain ⟨k, hk, hyk⟩ := List.mem_flatMap.mp hy
  obtain ⟨z, hz⟩ := hok k hk
  rw [hz] at hyk
  obtain rfl := List.mem_singleton.mp hyk
  obtain ⟨link, hlink, hlinkkey⟩ := List.mem_map.mp (mem_ascending.mp hk)
  exact ⟨link, hlink, hlinkkey.trans ((groupYear_of_summaryOf hz).symm.trans (eq_of_beq hykey))⟩

end Summarize

/-! ## The pool -/

namespace Store

variable {s : Store} {links links' : List GroupFundFiscalYear} {link : GroupFundFiscalYear} {key : GroupYear} {b : Budget}
  {funds : List FundId} {fiscalYear : FiscalYearId}

/-- A link that names a stored budget names one of its own fund and year. -/
def NamesOwnBudgets (s : Store) : Prop :=
  ∀ link ∈ s.groupFundFiscalYears, ∀ b ∈ s.budgets, link.budget = some b.id →
    b.fund = link.fund ∧ b.fiscalYear = link.fiscalYear

/-- A link stands for budgets of its own fund and year only. -/
theorem NamesOwnBudgets.of_standsFor (h : s.NamesOwnBudgets) (hlink : link ∈ s.groupFundFiscalYears) (hb : b ∈ s.budgets)
    (hstands : link.standsFor b = true) : b.fund = link.fund ∧ b.fiscalYear = link.fiscalYear := by
  unfold GroupFundFiscalYear.standsFor at hstands
  cases hbudget : link.budget with
  | none =>
    rw [hbudget] at hstands
    simpa only [Bool.and_eq_true, beq_iff_eq] using hstands
  | some id =>
    rw [hbudget] at hstands
    exact h link hlink b hb (hbudget.trans (congrArg some (eq_of_beq hstands).symm))

theorem nodup_yearsOf (links : List GroupFundFiscalYear) : (yearsOf links).Nodup := nodup_ascending _

/-- A link finds the same budget in the pool as in the store. -/
theorem budgetIn?_budgetsRead (hown : s.NamesOwnBudgets) (hstored : ∀ link ∈ links, link ∈ s.groupFundFiscalYears)
    (hlink : link ∈ links) : link.budgetIn? (s.budgetsRead links) = link.budgetIn? s.budgets.records := by
  have hown' : ∀ b ∈ s.budgets, link.standsFor b = true → b.fund = link.fund ∧ b.fiscalYear = link.fiscalYear :=
    fun b hb => hown.of_standsFor (hstored link hlink) hb
  have hyear : ∀ fiscalYear ∈ yearsOf links, ∀ b ∈ s.budgetsOfYear links fiscalYear, b.fiscalYear = fiscalYear :=
    fun _ _ _ hb => (mem_budgetsOfYear.mp hb).2.1
  -- the pool of the link's year is a part of the store that holds all that the link can stand for
  have hfilter : (s.budgetsRead links).filter link.standsFor = s.budgets.records.filter link.standsFor := by
    calc (s.budgetsRead links).filter link.standsFor
        = ((s.budgetsRead links).filter fun b => b.fiscalYear == link.fiscalYear).filter link.standsFor := by
          rw [List.filter_filter]
          refine List.filter_congr fun b hb => ?_
          cases hstands : link.standsFor b with
          | false => rfl
          | true => simp [(hown' b (stored_of_mem_budgetsRead hb) hstands).2]
      _ = (s.budgetsOfYear links link.fiscalYear).filter link.standsFor := by
          unfold budgetsRead
          rw [filter_flatMap_of_nodup (nodup_yearsOf links) hyear (mem_yearsOf hlink)]
      _ = s.budgets.records.filter link.standsFor := by
          unfold budgetsOfYear
          rw [byFiscalYear_filter, List.filter_filter, List.filter_filter]
          refine List.filter_congr fun b hb => ?_
          cases hstands : link.standsFor b with
          | false => rfl
          | true =>
            obtain ⟨hfund, hfiscalYear⟩ := hown' b hb hstands
            have hmem := mem_fundsOf hlink
            simp [hfund, hfiscalYear, hmem]
  rw [link.budgetIn?_eq_find?, link.budgetIn?_eq_find?, ← List.head?_filter, hfilter, List.head?_filter]

/-- The allocations of some funds in a fiscal year, and then the transfers. -/
def fundingOfFunds (s : Store) (funds : List FundId) (fiscalYear : FiscalYearId) : List Transaction :=
  (s.transactions.records.filter fun t => t.isAmong funds fiscalYear [.allocation]) ++
    s.transactions.records.filter fun t => t.isAmong funds fiscalYear [.transfer, .rolloverTransfer]

/-- The pool holds the funding of some of the links' funds as the store does. -/
theorem fundingRead_filter (s : Store) (hyear : fiscalYear ∈ yearsOf links)
    (hfunds : ∀ fund ∈ funds, fund ∈ fundsOf links fiscalYear) :
    ((s.fundingRead links).filter fun t => t.fiscalYear == fiscalYear).filter (fun t => funds.any t.touches) =
      s.fundingOfFunds funds fiscalYear := by
  have hof : ∀ year ∈ yearsOf links, ∀ t ∈ s.fundingOfYear links year, t.fiscalYear = year :=
    fun _ _ _ ht => fiscalYear_of_mem_fundingOfYear ht
  have hamong : ∀ (t : Transaction) (kinds : List TransactionKind),
      (funds.any t.touches && t.isAmong (fundsOf links fiscalYear) fiscalYear kinds) =
        t.isAmong funds fiscalYear kinds := by
    intro t kinds
    unfold Transaction.isAmong
    cases hany : funds.any t.touches with
    | false => simp
    | true =>
      obtain ⟨fund, hfund, htouches⟩ := List.any_eq_true.mp hany
      have hany' : (fundsOf links fiscalYear).any t.touches = true :=
        List.any_eq_true.mpr ⟨fund, hfunds fund hfund, htouches⟩
      rw [hany', Bool.true_and]
  unfold fundingRead
  rw [filter_flatMap_of_nodup (nodup_yearsOf links) hof hyear]
  unfold fundingOfYear fundingOfFunds
  rw [List.filter_append, List.filter_filter, List.filter_filter]
  simp only [hamong]

/-- The funds of a group's members are among those of its links. -/
theorem mem_fundsOf_of_member (hown : s.NamesOwnBudgets) (hstored : ∀ link ∈ links, link ∈ s.groupFundFiscalYears)
    (hb : b ∈ memberBudgets (links.filter fun link => link.groupYear == key) s.budgets.records) :
    b.fund ∈ fundsOf links key.fiscalYear := by
  obtain ⟨link, hlink, hfound⟩ := List.mem_filterMap.mp (mem_of_mem_distinctBudgets hb).1
  obtain ⟨hmem, hkey⟩ := List.mem_filter.mp hlink
  obtain rfl : link.groupYear = key := eq_of_beq hkey
  rw [link.budgetIn?_eq_find?] at hfound
  have hstands : link.standsFor b = true := List.find?_some hfound
  rw [(hown.of_standsFor (hstored link hmem) (List.mem_of_find?_eq_some hfound) hstands).1]
  exact mem_fundsOf hmem

/-- The members that are found in the pool are those that are found in the store. -/
theorem memberBudgets_budgetsRead (hown : s.NamesOwnBudgets) (hstored : ∀ link ∈ links, link ∈ s.groupFundFiscalYears)
    (key : GroupYear) :
    memberBudgets (links.filter fun link => link.groupYear == key) (s.budgetsRead links) =
      memberBudgets (links.filter fun link => link.groupYear == key) s.budgets.records := by
  unfold memberBudgets
  refine congrArg (distinctBudgets []) (List.filterMap_congr fun link hlink => ?_)
  exact budgetIn?_budgetsRead hown hstored (List.mem_of_mem_filter hlink)

/-- Of two pools that were read for the same links of a group and year, both give the same summary of it. -/
theorem summaryOf_congr (hown : s.NamesOwnBudgets) (hstored : ∀ link ∈ links, link ∈ s.groupFundFiscalYears)
    (hstored' : ∀ link ∈ links', link ∈ s.groupFundFiscalYears)
    (hsame : (links.filter fun link => link.groupYear == key) = links'.filter fun link => link.groupYear == key)
    (hkey : ∃ link ∈ links, link.groupYear = key) :
    summaryOf links (s.budgetsRead links) (s.fundingRead links) key =
      summaryOf links' (s.budgetsRead links') (s.fundingRead links') key := by
  have hmembers : memberBudgets (links'.filter fun link => link.groupYear == key) (s.budgetsRead links) =
      memberBudgets (links'.filter fun link => link.groupYear == key) s.budgets.records :=
    hsame ▸ memberBudgets_budgetsRead hown hstored key
  have hmembers' := memberBudgets_budgetsRead hown hstored' key
  have hyear : key.fiscalYear ∈ yearsOf links ∧ key.fiscalYear ∈ yearsOf links' := by
    obtain ⟨link, hlink, rfl⟩ := hkey
    have hboth : link ∈ links'.filter fun l => l.groupYear == link.groupYear :=
      hsame ▸ List.mem_filter.mpr ⟨hlink, beq_self_eq_true _⟩
    exact ⟨mem_yearsOf hlink, mem_yearsOf (List.mem_of_mem_filter hboth)⟩
  unfold summaryOf
  rw [hsame, groupTotals_congr (hmembers.trans hmembers'.symm)]
  intro funds hfunds
  rw [hmembers'] at hfunds
  have hin : ∀ fund ∈ funds, ∃ b ∈ memberBudgets (links'.filter fun link => link.groupYear == key) s.budgets.records,
      b.fund = fund := by
    intro fund hfund
    rw [hfunds] at hfund
    exact List.mem_map.mp (mem_ascending.mp hfund)
  rw [fundingRead_filter s hyear.1, fundingRead_filter s hyear.2]
  · intro fund hfund
    obtain ⟨b, hb, rfl⟩ := hin fund hfund
    exact mem_fundsOf_of_member hown hstored' hb
  · intro fund hfund
    obtain ⟨b, hb, rfl⟩ := hin fund hfund
    exact mem_fundsOf_of_member hown hstored (hsame ▸ hb)

/-- The summaries that a query asks for, unless a sum has no room. -/
theorem exists_groupSummaries {query : Query}
    (hroom : ∀ operation, (s.perform (.groupSummaries query)).1 ≠ .error (.overflow operation)) :
    let links := query.filter s.groupFundFiscalYears.records
    ∃ summaries, (s.perform (.groupSummaries query)).1 = .ok summaries ∧
      summarize links (s.budgetsRead links) (s.fundingRead links) = .ok summaries := by
  intro links
  rw [perform_groupSummaries] at hroom ⊢
  cases hsummarize : summarize links (s.budgetsRead links) (s.fundingRead links) with
  | error operation =>
    refine absurd ?_ (hroom operation)
    rw [hsummarize]
    rfl
  | ok summaries => exact ⟨summaries, rfl, rfl⟩

/-- Two queries that select the same links of a group and year give the same summary of it, whatever other links they
select; there is one exactly if there is such a link. -/
theorem groupSummaries_isolated (hown : s.NamesOwnBudgets) {query query' : Query} {key : GroupYear}
    (hsame : ∀ link, link.groupYear = key →
      (link ∈ query.filter s.groupFundFiscalYears.records ↔ link ∈ query'.filter s.groupFundFiscalYears.records))
    (hroom : ∀ operation, (s.perform (.groupSummaries query)).1 ≠ .error (.overflow operation))
    (hroom' : ∀ operation, (s.perform (.groupSummaries query')).1 ≠ .error (.overflow operation)) :
    ∃ summaries summaries', (s.perform (.groupSummaries query)).1 = .ok summaries ∧
      (s.perform (.groupSummaries query')).1 = .ok summaries' ∧
      ∃ found : Option GroupFiscalYearSummary,
        summaries.filter (fun x => x.groupYear == key) = found.toList ∧
        summaries'.filter (fun x => x.groupYear == key) = found.toList ∧
        (found.isSome = true ↔ ∃ link ∈ query.filter s.groupFundFiscalYears.records, link.groupYear = key) := by
  obtain ⟨summaries, hok, hsummarize⟩ := exists_groupSummaries hroom
  obtain ⟨summaries', hok', hsummarize'⟩ := exists_groupSummaries hroom'
  refine ⟨summaries, summaries', hok, hok', ?_⟩
  have hstored : ∀ q : Query, ∀ link ∈ q.filter s.groupFundFiscalYears.records, link ∈ s.groupFundFiscalYears :=
    fun _ _ hlink => List.mem_of_mem_filter hlink
  by_cases hkey : ∃ link ∈ query.filter s.groupFundFiscalYears.records, link.groupYear = key
  · have hkey' : ∃ link ∈ query'.filter s.groupFundFiscalYears.records, link.groupYear = key := by
      obtain ⟨link, hlink, hlinkkey⟩ := hkey
      exact ⟨link, (hsame link hlinkkey).mp hlink, hlinkkey⟩
    obtain ⟨x, hx, hfilter⟩ := summarize_filter hsummarize hkey
    obtain ⟨x', hx', hfilter'⟩ := summarize_filter hsummarize' hkey'
    have hlinks : (query.filter s.groupFundFiscalYears.records).filter (fun link => link.groupYear == key) =
        (query'.filter s.groupFundFiscalYears.records).filter fun link => link.groupYear == key := by
      unfold Query.filter
      rw [List.filter_filter, List.filter_filter]
      refine List.filter_congr fun link hlink => ?_
      by_cases hlinkkey : link.groupYear = key
      · have hiff := hsame link hlinkkey
        unfold Query.filter at hiff
        rw [List.mem_filter, List.mem_filter, and_iff_right hlink, and_iff_right hlink, ← Bool.eq_iff_iff] at hiff
        rw [hiff]
      · rw [beq_false_of_ne hlinkkey, Bool.false_and, Bool.false_and]
    rw [summaryOf_congr hown (hstored query) (hstored query') hlinks hkey] at hx
    obtain rfl : x = x' := Except.ok.inj (hx.symm.trans hx')
    exact ⟨some x, hfilter, hfilter', fun _ => hkey, fun _ => rfl⟩
  · have hkey' : ¬∃ link ∈ query'.filter s.groupFundFiscalYears.records, link.groupYear = key := by
      rintro ⟨link, hlink, hlinkkey⟩
      exact hkey ⟨link, (hsame link hlinkkey).mpr hlink, hlinkkey⟩
    exact ⟨none, summarize_filter_eq_nil hsummarize hkey, summarize_filter_eq_nil hsummarize' hkey',
      fun h => absurd h Bool.false_ne_true, fun h => absurd h hkey⟩

/-- Two groups that share a fund, one of them in two years. -/
def sharedFunds : Store :=
  { twoFunds with
    groupFundFiscalYears :=
      .ofList [⟨31, 5, 1, 9, some 11⟩, ⟨32, 6, 1, 9, none⟩, ⟨33, 6, 2, 9, none⟩, ⟨34, 5, 2, 8, some 13⟩] }

theorem groupSummaries_isolated_sharedFunds :
    let s' := ((sharedFunds.perform (Call.create allocationToBooks).operation).2.perform
      (Call.create transferToJournals).operation).2
    ∃ summaries summaries', (s'.perform (.groupSummaries .all)).1 = .ok summaries ∧
      (s'.perform (.groupSummaries (linksOfGroup 5 9))).1 = .ok summaries' ∧
      summaries.length = 3 ∧ summaries'.length = 1 ∧
      ∃ x : GroupFiscalYearSummary, summaries.filter (fun y => y.groupYear == ⟨5, 9⟩) = [x] ∧
        summaries'.filter (fun y => y.groupYear == ⟨5, 9⟩) = [x] := by
  intro s'
  have hown : ∀ link ∈ s'.groupFundFiscalYears.records, ∀ b ∈ s'.budgets.records, link.budget = some b.id →
      b.fund = link.fund ∧ b.fiscalYear = link.fiscalYear := by decide +kernel
  have hselected : ∀ link ∈ s'.groupFundFiscalYears.records, link.groupYear = ⟨5, 9⟩ →
      link ∈ (linksOfGroup 5 9).filter s'.groupFundFiscalYears.records := by decide +kernel
  have hlength : (s'.perform (.groupSummaries .all)).1.toOption.map List.length = some 3 := by decide +kernel
  have hlength' : (s'.perform (.groupSummaries (linksOfGroup 5 9))).1.toOption.map List.length = some 1 := by
    decide +kernel
  have hlink : ∃ link ∈ s'.groupFundFiscalYears.records, link.groupYear = ⟨5, 9⟩ := by decide +kernel
  clear_value s'
  have hall : Query.all.filter s'.groupFundFiscalYears.records = s'.groupFundFiscalYears.records :=
    List.filter_eq_self.mpr fun _ _ => rfl
  have hsame : ∀ link : GroupFundFiscalYear, link.groupYear = ⟨5, 9⟩ →
      (link ∈ Query.all.filter s'.groupFundFiscalYears.records ↔
        link ∈ (linksOfGroup 5 9).filter s'.groupFundFiscalYears.records) := by
    intro link hkey
    rw [hall]
    exact ⟨fun hmem => hselected link hmem hkey, fun hmem => List.mem_of_mem_filter hmem⟩
  have hroom : ∀ operation, (s'.perform (.groupSummaries .all)).1 ≠ .error (.overflow operation) := by
    intro operation h
    rw [h] at hlength
    cases hlength
  have hroom' : ∀ operation, (s'.perform (.groupSummaries (linksOfGroup 5 9))).1 ≠ .error (.overflow operation) := by
    intro operation h
    rw [h] at hlength'
    cases hlength'
  obtain ⟨summaries, summaries', hok, hok', found, hfilter, hfilter', hfound⟩ :=
    groupSummaries_isolated hown hsame hroom hroom'
  rw [hok] at hlength
  rw [hok'] at hlength'
  rw [hall] at hfound
  obtain ⟨x, rfl⟩ := Option.isSome_iff_exists.mp (hfound.mpr hlink)
  exact ⟨summaries, summaries', hok, hok', Option.some.inj hlength, Option.some.inj hlength', x, hfilter, hfilter'⟩

end Store

end FundLedger
