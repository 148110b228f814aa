import FundLedger.Operation.Basic
/-!
# Protocols of operations

A protocol says in stages what an operation may ask, and to which stage every answer leads.  An operation that follows
a protocol stops at the first error with that error.  Whoever answers then keeps an invariant of the stages as long as
every single answer keeps it.

* `Protocol`, `Protocol.Follows`.
* `Follows.bind`, `follows_request`, `follows_ofRule`, `follows_ofArithmetic`: operations by their parts.
* `Follows.answeredBy`: an invariant along a whole operation.
* `Protocol.reading`: operations that only read; they leave every store alone.
-/

namespace FundLedger

/-- What an operation may ask in each stage, and the stage after an answer. -/
structure Protocol (Stage : Type) where
  asks : Stage → StorageRequest → Prop
  next : Stage → (r : StorageRequest) → r.Answer → Stage

namespace Protocol

variable {Stage : Type} {α β : Type}

/-- The operation asks what the protocol allows, stops at every error, and ends in a stage that fits its result. -/
def Follows (P : Protocol Stage) (post : Stage → α → Prop) :
    Stage → Dialogue StorageRequest StorageRequest.Outcome (Except Failure α) → Prop
  | stage, .done (.ok a) => post stage a
  | _, .done (.error _) => True
  | stage, .ask r next => P.asks stage r ∧ (∀ e : StoreError, next (.error e) = .done (.error e.toFailure)) ∧
      ∀ a, P.Follows post (P.next stage r a) (next (.ok a))

section

variable {P : Protocol Stage} {post : Stage → α → Prop} {post' : Stage → β → Prop} {stage : Stage}

theorem follows_pure {a : α} (h : post stage a) : P.Follows post stage (pure a : Operation α).run := h

theorem follows_request {r : StorageRequest} {post : Stage → r.Answer → Prop} (hasks : P.asks stage r)
    (h : ∀ a, post (P.next stage r a) a) : P.Follows post stage (Operation.request r).run :=
  ⟨hasks, fun _ => rfl, h⟩

theorem follows_ofRule {result : Except FinanceError α} (h : ∀ a, result = .ok a → post stage a) :
    P.Follows post stage (Operation.ofRule result).run := by
  cases result with
  | error e => trivial
  | ok a => exact h a rfl

theorem follows_ofArithmetic {result : Except Overflow α} (h : ∀ a, result = .ok a → post stage a) :
    P.Follows post stage (Operation.ofArithmetic result).run := by
  cases result with
  | error e => trivial
  | ok a => exact h a rfl

theorem Follows.bind {d : Operation α} {f : α → Operation β} (h : P.Follows post stage d.run)
    (hf : ∀ stage a, post stage a → P.Follows post' stage (f a).run) : P.Follows post' stage (d >>= f).run := by
  rw [ExceptT.run_bind]
  generalize d.run = e at h ⊢
  induction e generalizing stage with
  | done result =>
    cases result with
    | error e => trivial
    | ok a => exact hf stage a h
  | ask r next ih =>
    obtain ⟨hasks, herror, hok⟩ := h
    refine ⟨hasks, fun e => ?_, fun a => ih (.ok a) (hok a)⟩
    simp only [herror e]
    rfl

theorem Follows.discard {Q : Stage → Prop} {d : Operation α} (h : P.Follows (fun stage _ => Q stage) stage d.run) :
    P.Follows (fun stage _ => Q stage) stage (Functor.discard d).run := by
  have hdiscard : Functor.discard d = d >>= fun _ => pure () := (bind_pure_comp (fun _ => ()) d).symm
  rw [hdiscard]
  exact h.bind fun _ _ hQ => follows_pure hQ

/-- An invariant of the stages that every answer keeps holds after the operation, in a stage that fits its result. -/
theorem Follows.answeredBy {σ : Type} (answer : (r : StorageRequest) → StateM σ r.Outcome) (I : Stage → σ → Prop)
    (hok : ∀ stage s r a, I stage s → P.asks stage r → (answer r s).1 = .ok a → I (P.next stage r a) (answer r s).2)
    (herror : ∀ stage s r e, I stage s → P.asks stage r → (answer r s).1 = .error e → I stage (answer r s).2)
    {d : Dialogue StorageRequest StorageRequest.Outcome (Except Failure α)} {s : σ} (h : P.Follows post stage d)
    (hI : I stage s) :
    ∃ last, I last (d.answeredBy answer s).2 ∧ ∀ a, (d.answeredBy answer s).1 = .ok a → post last a := by
  induction d generalizing stage s with
  | done result =>
    refine ⟨stage, hI, ?_⟩
    rintro a rfl
    exact h
  | ask r next ih =>
    obtain ⟨hasks, hstops, hnext⟩ := h
    cases hanswer : (answer r s).1 with
    | ok a =>
      have hstep := ih (.ok a) (hnext a) (hok stage s r a hI hasks hanswer)
      rw [← hanswer] at hstep
      exact hstep
    | error e =>
      have hlast : (Dialogue.ask r next).answeredBy answer s = (.error e.toFailure, (answer r s).2) := by
        rw [Dialogue.answeredBy_ask_apply, hanswer, hstops e]
        rfl
      rw [hlast]
      exact ⟨stage, herror stage s r e hI hasks hanswer, fun a ha => by cases ha⟩

end

end Protocol

/-! ## Operations that only read -/

/-- Whether a request leaves every record alone. -/
def StorageRequest.isRead : StorageRequest → Bool
  | .createTransaction _ | .updateTransaction _ | .updateBudget _ | .deleteBudget _ | .deleteBudgetExpenseClass _ =>
    false
  | _ => true

theorem Store.answer_of_isRead (s : Store) {r : StorageRequest} (h : r.isRead = true) : (s.answer r).2 = s := by
  cases r <;> first | rfl | cases h

/-- Only reading. -/
def Protocol.reading : Protocol Unit where
  asks _ r := r.isRead = true
  next _ _ _ := ()

/-- An operation that only reads. -/
def Operation.Reads {α : Type} (d : Operation α) : Prop := Protocol.reading.Follows (fun _ _ => True) () d.run

theorem Store.perform_of_reads {α : Type} {d : Operation α} (h : d.Reads) (s : Store) :
    ∃ result, s.perform d = (result, s) := by
  obtain ⟨_, hs, -⟩ := h.answeredBy (fun r s => Store.answer s r) (fun _ t => t = s)
    (fun _ t r _ ht hr _ => (t.answer_of_isRead hr).trans ht) (fun _ t r _ ht hr _ => (t.answer_of_isRead hr).trans ht) rfl
  exact ⟨_, Prod.ext rfl hs⟩

end FundLedger
