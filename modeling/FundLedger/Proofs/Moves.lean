import FundLedger.Proofs.Stages
/-!
# Moves

A move is a successful request of an operation on budgets: the operation comes to its next stage, and the store changes.
A budget is written only in the version that was read.

* `Stage.Move`, `Protocol.recording_move`: the moves are all that can happen.
* `Stage.Move.held_cases`: a move writes the first of the budgets that are held, or gives none of them up.
-/

namespace FundLedger

/-- A budget is stored in the version of another. -/
def Store.HasVersionOf (s : Store) (b : Budget) : Prop := ∃ c ∈ s.budgets, c.id = b.id ∧ c.version = b.version

theorem Store.updateBudget_eq_ok {s : Store} {b written : Budget} (h : (s.updateBudget b).1 = .ok written) :
    s.HasVersionOf b ∧ s.updateBudget b = (.ok { b with version := b.version + 1 }, s.write b) := by
  unfold updateBudget at h ⊢
  cases hfind : s.budgets.find? b.id with
  | none =>
    rw [hfind] at h
    cases h
  | some c =>
    obtain ⟨hc, hid⟩ := Table.find?_eq_some_iff.mp hfind
    rw [hfind] at h
    by_cases hversion : c.version = b.version
    · exact ⟨⟨c, hc, hid, hversion⟩, by simp only [if_pos hversion]; rfl⟩
    · simp only [if_neg hversion] at h
      cases h

/-- What a successful request does to a stage and to the store. -/
inductive Stage.Move (s : Store) : Stage → StorageRequest → Stage → Store → Prop
  | readBudget (tx : Transaction) (budgets : List Budget) (fund : FundId) (rest : List FundId) :
    Move s (.reading tx budgets (fund :: rest)) (.queryBudgets (budgetOfFund fund tx.fiscalYear))
      (.reading tx (budgets ++ (s.budgetOf? fund tx.fiscalYear).toList) rest) s
  | readOther (tx : Transaction) (budgets : List Budget) (unread : List FundId) {r : StorageRequest}
    (hread : r.isRead = true) : Move s (.reading tx budgets unread) r (.reading tx budgets unread) s
  | readHistory (tx : Transaction) (budgets : List Budget) {r : StorageRequest} (hread : r.isRead = true) :
    Move s (.reading tx budgets []) r (.told tx budgets (s.historyFor tx)) s
  | create {stage : Stage} {tx : Transaction} {budgets : List Budget} {recorded : List Transaction}
    (hstage : stage.IsScreened tx budgets recorded) (hadmitted : tx.IsAdmittedWith budgets) :
    Move s stage (.createTransaction tx) (.applying tx recorded budgets)
      { s with transactions := s.transactions.put tx }
  | apply {tx : Transaction} {recorded : List Transaction} {b : Budget} {totals : Totals Decimal}
    (rest : List Budget) (happly : b.applyWithHistory tx recorded = .ok { b with totals })
    (hstored : s.HasVersionOf b) :
    Move s (.applying tx recorded (b :: rest)) (.updateBudget { b with totals }) (.applying tx recorded rest)
      (s.write { b with totals })
  | readToRecalculate (id : BudgetId) {b : Budget} (hb : b ∈ s.budgets) : Move s .opening (.getBudget id) (.opened b) s
  | readWholeHistory (b : Budget) {r : StorageRequest} (hread : r.isRead = true) :
    Move s (.opened b) r (.counted b (s.transactions.records.filter fun t => t.isAmong [b.fund] b.fiscalYear [])) s
  | recalculate {b : Budget} {history : List Transaction} {totals : Totals Decimal}
    (hrecompute : b.recompute history = .ok totals) (hstored : s.HasVersionOf b) :
    Move s (.counted b history) (.updateBudget { b with totals }) .closed (s.write { b with totals })

/-- Every request that the protocol allows and the store answers is a move. -/
theorem Protocol.recording_move {s : Store} {stage : Stage} {r : StorageRequest} {a : r.Answer}
    (hasks : recording.asks stage r) (hanswer : (s.answer r).1 = .ok a) :
    stage.Move s r (recording.next stage r a) (s.answer r).2 := by
  cases stage with
  | reading tx budgets unread =>
    cases unread with
    | nil =>
      cases r <;> try exact hasks.elim
      case transactionsByFunds funds fiscalYear kinds =>
        obtain ⟨hkind, rfl, rfl, receiver, hreceiver, rfl⟩ := hasks
        obtain rfl := Except.ok.inj hanswer
        have hhistory : s.historyFor tx =
            s.transactions.records.filter fun t => t.isAmong [receiver] tx.fiscalYear [.allocation] := by
          unfold Store.historyFor Transaction.historyIn
          rw [hkind, hreceiver]
        change Stage.Move s _ _ (.told tx budgets _) s
        rw [← hhistory]
        exact .readHistory tx budgets rfl
      case createTransaction created =>
        obtain ⟨rfl, hadmitted, hother⟩ := hasks
        obtain rfl := Except.ok.inj hanswer
        exact .create (.inr ⟨rfl, rfl, hother⟩) hadmitted
      case getFund id => exact .readOther tx budgets [] rfl
      case queryBudgetExpenseClasses query => exact .readOther tx budgets [] rfl
    | cons fund rest =>
      cases r <;> try exact hasks.elim
      case queryBudgets query =>
        obtain rfl := hasks
        obtain rfl := Except.ok.inj hanswer
        have hhead : ((budgetOfFund fund tx.fiscalYear).filter s.budgets.records).head? =
            s.budgetOf? fund tx.fiscalYear := by
          rw [budgetOfFund_filter, List.head?_filter]
          rfl
        change Stage.Move s _ _ (.reading tx (budgets ++ (Option.toList (List.head? _))) rest) s
        rw [hhead]
        exact .readBudget tx budgets fund rest
      case getFund id => exact .readOther tx budgets _ rfl
      case queryBudgetExpenseClasses query => exact .readOther tx budgets _ rfl
  | told tx budgets recorded =>
    cases r <;> try exact hasks.elim
    obtain ⟨rfl, hadmitted⟩ := hasks
    obtain rfl := Except.ok.inj hanswer
    exact .create (.inl rfl) hadmitted
  | applying tx recorded todo =>
    cases todo with
    | nil => cases r <;> exact hasks.elim
    | cons b rest =>
      cases r <;> try exact hasks.elim
      obtain ⟨totals, rfl⟩ := Budget.applyWithHistory_eq_ok hasks
      obtain ⟨hstored, hwrite⟩ := Store.updateBudget_eq_ok hanswer
      change Stage.Move s _ _ (.applying tx recorded rest) (s.updateBudget { b with totals }).2
      rw [hwrite]
      exact .apply rest hasks hstored
  | opening =>
    cases r <;> try exact hasks.elim
    case getBudget id =>
      have hfind : Store.found .budgets id (s.budgets.find? id) = .ok a := hanswer
      cases hbudget : s.budgets.find? id with
      | none =>
        rw [hbudget] at hfind
        cases hfind
      | some b =>
        rw [hbudget] at hfind
        obtain rfl := Except.ok.inj hfind
        exact .readToRecalculate id (Table.find?_eq_some_iff.mp hbudget).1
  | opened b =>
    cases r <;> try exact hasks.elim
    obtain ⟨rfl, rfl, rfl⟩ := hasks
    obtain rfl := Except.ok.inj hanswer
    exact .readWholeHistory b rfl
  | counted b history =>
    cases r <;> try exact hasks.elim
    obtain ⟨totals, hrecompute, rfl⟩ := hasks
    obtain ⟨hstored, hwrite⟩ := Store.updateBudget_eq_ok hanswer
    change Stage.Move s _ _ .closed (s.updateBudget { b with totals }).2
    rw [hwrite]
    exact .recalculate hrecompute hstored
  | closed => cases r <;> exact hasks.elim

namespace Stage.Move

variable {s s' : Store} {stage stage' : Stage} {r : StorageRequest}

/-- A move writes the first of the budgets that are held, or it gives none of them up. -/
theorem held_cases (h : stage.Move s r stage' s') :
    (∃ b totals, stage.held = b :: stage'.held ∧ r = .updateBudget { b with totals } ∧ s.HasVersionOf b ∧
        s' = s.write { b with totals }) ∨
      (s'.budgets = s.budgets ∧ ∀ b ∈ stage.held, b ∈ stage'.held) := by
  cases h with
  | readBudget tx budgets fund rest => exact .inr ⟨rfl, fun b hb => List.mem_append_left _ hb⟩
  | readOther tx budgets unread hread => exact .inr ⟨rfl, fun _ hb => hb⟩
  | readHistory tx budgets hread => exact .inr ⟨rfl, fun _ hb => hb⟩
  | create hstage hadmitted =>
    refine .inr ⟨rfl, fun b hb => ?_⟩
    rwa [hstage.held_eq] at hb
  | apply rest happly hstored => exact .inl ⟨_, _, rfl, rfl, hstored, rfl⟩
  | readToRecalculate id hb => exact .inr ⟨rfl, fun _ hb => absurd hb List.not_mem_nil⟩
  | readWholeHistory b hread => exact .inr ⟨rfl, fun _ hb => hb⟩
  | recalculate hrecompute hstored => exact .inl ⟨_, _, rfl, rfl, hstored, rfl⟩

/-- A budget that is held stays so, or is written. -/
theorem mem_held {b : Budget} (h : stage.Move s r stage' s') (hb : b ∈ stage.held) :
    b ∈ stage'.held ∨
      ∃ totals, r = .updateBudget { b with totals } ∧ s.HasVersionOf b ∧ s' = s.write { b with totals } := by
  rcases h.held_cases with ⟨b', totals, hheld, hrequest, hstored, hwrite⟩ | ⟨-, hkeep⟩
  · rw [hheld] at hb
    rcases List.mem_cons.mp hb with rfl | hb
    · exact .inr ⟨totals, hrequest, hstored, hwrite⟩
    · exact .inl hb
  · exact .inl (hkeep b hb)

/-- The transaction of an operation stays the same. -/
theorem transaction?_eq (h : stage.Move s r stage' s') : stage'.transaction? = stage.transaction? := by
  cases h with
  | create hstage hadmitted => exact hstage.transaction?_eq.symm
  | _ => rfl

end Stage.Move

end FundLedger
