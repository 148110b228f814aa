/-!
# Dialogues

A dialogue asks questions, one after the other, each of which may depend on the answers so far, and ends with a
value.  Nothing is said about who answers: a store in memory, a server, or several dialogues taking turns.

* `Dialogue`, a monad.
* `Dialogue.answeredBy`: the dialogue with its questions answered in some monad.
* `answeredBy_bind`, `answeredBy_bind_apply`, `answeredBy_run_bind`: a sequence of dialogues is answered in sequence.
-/

namespace FundLedger

/-- Questions with a continuation for every answer, and a value at the end. -/
inductive Dialogue (Question : Type) (Answer : Question → Type) (α : Type)
  | done (value : α)
  | ask (question : Question) (next : Answer question → Dialogue Question Answer α)

namespace Dialogue

variable {Question : Type} {Answer : Question → Type} {α β γ : Type}

/-- The second dialogue follows the first one and knows its value. -/
def andThen : Dialogue Question Answer α → (α → Dialogue Question Answer β) → Dialogue Question Answer β
  | done a, f => f a
  | ask q next, f => ask q fun answer => (next answer).andThen f

instance : Monad (Dialogue Question Answer) where
  pure := done
  bind := andThen

@[simp]
theorem done_bind (a : α) (f : α → Dialogue Question Answer β) : done a >>= f = f a := rfl

@[simp]
theorem ask_bind (q : Question) (next : Answer q → Dialogue Question Answer α) (f : α → Dialogue Question Answer β) :
    ask q next >>= f = ask q fun answer => next answer >>= f := rfl

theorem bind_done (d : Dialogue Question Answer α) : d >>= done = d := by
  induction d with
  | done a => rfl
  | ask q next ih => exact congrArg (ask q) (funext ih)

theorem andThen_andThen (d : Dialogue Question Answer α) (f : α → Dialogue Question Answer β)
    (g : β → Dialogue Question Answer γ) : (d >>= f) >>= g = d >>= fun a => f a >>= g := by
  induction d with
  | done a => rfl
  | ask q next ih => exact congrArg (ask q) (funext ih)

instance : LawfulMonad (Dialogue Question Answer) :=
  LawfulMonad.mk' _ bind_done (fun _ _ => rfl) andThen_andThen

/-- The dialogue with its questions answered in a monad. -/
def answeredBy {m : Type → Type} [Monad m] (answer : (q : Question) → m (Answer q)) :
    Dialogue Question Answer α → m α
  | done a => pure a
  | ask q next => answer q >>= fun a => (next a).answeredBy answer

section

variable {m : Type → Type} [Monad m] (answer : (q : Question) → m (Answer q))

@[simp]
theorem answeredBy_done (a : α) : (done a : Dialogue Question Answer α).answeredBy answer = pure a := rfl

@[simp]
theorem answeredBy_ask (q : Question) (next : Answer q → Dialogue Question Answer α) :
    (ask q next).answeredBy answer = answer q >>= fun a => (next a).answeredBy answer := rfl

theorem answeredBy_bind [LawfulMonad m] (d : Dialogue Question Answer α) (f : α → Dialogue Question Answer β) :
    (d >>= f).answeredBy answer = d.answeredBy answer >>= fun a => (f a).answeredBy answer := by
  induction d with
  | done a => simp
  | ask q next ih => simp [ih]

end

/-- A state is kept from one answer to the next. -/
theorem answeredBy_ask_apply {σ : Type} (answer : (q : Question) → StateM σ (Answer q)) (q : Question)
    (next : Answer q → Dialogue Question Answer α) (s : σ) :
    (ask q next).answeredBy answer s = (next (answer q s).1).answeredBy answer (answer q s).2 := rfl

theorem answeredBy_bind_apply {σ : Type} (answer : (q : Question) → StateM σ (Answer q))
    (d : Dialogue Question Answer α) (f : α → Dialogue Question Answer β) (s : σ) :
    (d >>= f).answeredBy answer s =
      (f (d.answeredBy answer s).1).answeredBy answer (d.answeredBy answer s).2 :=
  congrFun (answeredBy_bind answer d f) s

/-- A dialogue that may fail goes on with the result of the first part and the state after it, unless that failed. -/
theorem answeredBy_run_bind {ε σ : Type} (answer : (q : Question) → StateM σ (Answer q))
    (d : ExceptT ε (Dialogue Question Answer) α) (f : α → ExceptT ε (Dialogue Question Answer) β) (s : σ) :
    (d >>= f).run.answeredBy answer s =
      match d.run.answeredBy answer s with
      | (.ok a, s') => (f a).run.answeredBy answer s'
      | (.error e, s') => (.error e, s') := by
  rw [ExceptT.run_bind, answeredBy_bind_apply]
  rcases d.run.answeredBy answer s with ⟨_ | a, s'⟩ <;> rfl

end Dialogue

end FundLedger
