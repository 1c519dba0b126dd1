/-!
# Dialogues

A program that depends on its surroundings is kept as a tree: it is done, it has stopped, or it
puts a query and goes on with the reply.  The tree says nothing about who replies, so the same
program is run against a simulated board, a scripted peer or a real device, and a statement about
*every* behaviour of the surroundings is a statement about the paths of the tree.

* `Interface`            the queries a program may put, with the type of each reply;
* `Stop`                 why a program ended without a value;
* `Dialogue I ε α`       programs over the queries of `I` with errors `ε` and values `α`;
* `Dialogue.attempt`     makes every end a value, so that something can be done before it counts;
* `Dialogue.trial`       makes errors values and nothing else;
* `Dialogue.run`         plays a dialogue against a state that answers every query;
* `Dialogue.perform`     plays it against a monad;
* `Interface.Answerer.noting`  an answerer that also keeps notes of what it was asked.
-/

namespace FlashRescue

/-- what a program may ask, and what kind of reply each query gets -/
structure Interface where
  Query : Type
  Reply : Query → Type

/-- why a computation was broken off: a range was left that the program takes for granted -/
inductive Fault where
  /-- a sum, difference or product does not fit its word -/
  | overflow
  /-- a span reaches past the end of the bytes it cuts -/
  | outOfRange
  /-- bytes were to be cut into chunks of length zero -/
  | emptyChunk
  /-- a piece of memory was asked for that is larger than any can be -/
  | tooLarge
  deriving DecidableEq, Repr

inductive Stop (ε : Type) where
  /-- it reports an error -/
  | failed (error : ε)
  /-- it was broken off -/
  | broken (fault : Fault)
  /-- a waiting loop used up the rounds it was given -/
  | unfinished
  deriving DecidableEq, Repr

inductive Dialogue (I : Interface) (ε α : Type) : Type where
  | done (value : α)
  | stop (why : Stop ε)
  | ask (query : I.Query) (next : I.Reply query → Dialogue I ε α)

/-- a way to answer every query out of a state -/
abbrev Interface.Answerer (I : Interface) (σ : Type) : Type :=
  (query : I.Query) → σ → I.Reply query × σ

namespace Dialogue

variable {I : Interface} {ε α β σ : Type}

/-! ## Sequencing -/

/-- first one dialogue, then the one its value selects -/
def bind : Dialogue I ε α → (α → Dialogue I ε β) → Dialogue I ε β
  | done value, next => next value
  | stop why, _ => stop why
  | ask query next, after => ask query fun reply => (next reply).bind after

instance : Monad (Dialogue I ε) where
  pure := done
  bind := bind

theorem pure_bind (value : α) (next : α → Dialogue I ε β) :
    (done value).bind next = next value := rfl

theorem stop_bind (why : Stop ε) (next : α → Dialogue I ε β) :
    (stop why : Dialogue I ε α).bind next = stop why := rfl

theorem ask_bind (query : I.Query) (reply : I.Reply query → Dialogue I ε α)
    (next : α → Dialogue I ε β) :
    (ask query reply).bind next = ask query fun r => (reply r).bind next := rfl

theorem bind_done (d : Dialogue I ε α) : d.bind done = d := by
  induction d with
  | done => rfl
  | stop => rfl
  | ask query next ih => exact congrArg (ask query) (funext ih)

theorem bind_assoc {γ : Type} (d : Dialogue I ε α) (f : α → Dialogue I ε β)
    (g : β → Dialogue I ε γ) : (d.bind f).bind g = d.bind fun a => (f a).bind g := by
  induction d with
  | done => rfl
  | stop => rfl
  | ask query next ih => exact congrArg (ask query) (funext ih)

instance : LawfulMonad (Dialogue I ε) :=
  LawfulMonad.mk' (Dialogue I ε) bind_done pure_bind bind_assoc

/-! ## Errors -/

/-- the dialogue as one that cannot stop: its value tells how it ended -/
def attempt : Dialogue I ε α → Dialogue I ε (Except (Stop ε) α)
  | done value => done (.ok value)
  | stop why => done (.error why)
  | ask query next => ask query fun reply => (next reply).attempt

/-- goes on as an attempt ended -/
def resume : Except (Stop ε) α → Dialogue I ε α
  | .ok value => done value
  | .error why => stop why

/-- the dialogue with its errors made values; a break still ends it -/
def trial : Dialogue I ε α → Dialogue I ε (Except ε α)
  | done value => done (.ok value)
  | stop (.failed error) => done (.error error)
  | stop (.broken fault) => stop (.broken fault)
  | stop .unfinished => stop .unfinished
  | ask query next => ask query fun reply => (next reply).trial

instance : MonadExcept ε (Dialogue I ε) where
  throw error := stop (.failed error)
  tryCatch d handle := d.trial.bind fun
    | .ok value => done value
    | .error error => handle error

theorem attempt_bind_resume (d : Dialogue I ε α) : d.attempt.bind resume = d := by
  induction d with
  | done => rfl
  | stop => rfl
  | ask query next ih => exact congrArg (ask query) (funext ih)

/-! ## Running -/

/-- plays a dialogue against a state: how it ends, and the state at the end -/
def run (answer : I.Answerer σ) : Dialogue I ε α → σ → Except (Stop ε) α × σ
  | done value, s => (.ok value, s)
  | stop why, s => (.error why, s)
  | ask query next, s =>
    let (reply, s') := answer query s
    run answer (next reply) s'

def perform {m : Type → Type} [Monad m] (answer : (query : I.Query) → m (I.Reply query)) :
    Dialogue I ε α → m (Except (Stop ε) α)
  | done value => pure (.ok value)
  | stop why => pure (.error why)
  | ask query next => do
    let reply ← answer query
    perform answer (next reply)

theorem run_bind (answer : I.Answerer σ) (d : Dialogue I ε α) (next : α → Dialogue I ε β) (s : σ) :
    (d.bind next).run answer s =
      match d.run answer s with
      | (.ok value, s') => (next value).run answer s'
      | (.error why, s') => (.error why, s') := by
  induction d generalizing s with
  | done => rfl
  | stop => rfl
  | ask query reply ih => exact ih _ _

theorem run_attempt (answer : I.Answerer σ) (d : Dialogue I ε α) (s : σ) :
    d.attempt.run answer s = (.ok (d.run answer s).1, (d.run answer s).2) := by
  induction d generalizing s with
  | done => rfl
  | stop => rfl
  | ask query reply ih => exact ih _ _

end Dialogue

/-- answers as `answer` does and appends what `note` makes of the query, its reply and the state
after it -/
def Interface.Answerer.noting {I : Interface} {σ ν : Type} (answer : I.Answerer σ)
    (note : (query : I.Query) → I.Reply query → σ → Option ν) : I.Answerer (σ × Array ν) :=
  fun query (s, notes) =>
    let (reply, s') := answer query s
    (reply, s', match note query reply s' with
      | some entry => notes.push entry
      | none => notes)

end FlashRescue
