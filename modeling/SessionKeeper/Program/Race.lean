import SessionKeeper.Context
import SessionKeeper.Program.Basic

/-!
Programs against the clock. A race runs a program until it ends or a signal is done, whichever comes
first; a tie goes to the signal. The loser is dropped: it learns of that where it waited
(`Wake.dropped`), may still tidy up, and its value is lost.

Contexts race programs against their own signal, and start nothing when they are done already.

Correspondence: `run` of a context ↔ `Context.run`, whose select looks at the signal first; `done`
of a context ↔ `Context.doneWithin`, for so long. `Context.pause` is the select between `done` and a
sleep that the retry driver and the restarts of an attempt use; it prefers neither, so that at a tie
the answer is that of `Ties.elapsed`.
-/

namespace SessionKeeper

namespace Program

variable {H : Host} {α : Type}

/-- What is left to do of a program whose value nobody waits for. -/
def settle : Program H α → Program H Unit
  | .done _ => .done ()
  | .stop .dropped => .done ()
  | .stop (.panic message) => .stop (.panic message)
  | .wait length signals next => .wait length signals fun wake => (next wake).settle
  | .ask request next => .ask request fun answer => (next answer).settle

/-- Runs `p` until `signal` is done; then the reason is the answer. -/
def race (signal : Signal) : Program H α → Program H (Except Cancellation α)
  | .done a => .done (.ok a)
  | .stop cause => .stop cause
  -- The signal of the race stands before all others, so that it wins a tie.
  | .wait length signals next => .wait length (signal :: signals) fun
    | .fired 0 reason _ => (next .dropped).settle.bind fun _ => .done (.error reason)
    | .fired (place + 1) reason tied => (next (.fired place reason tied)).race signal
    | .elapsed => (next .elapsed).race signal
    | .dropped => (next .dropped).race signal
  | .ask request next => .ask request fun answer => (next answer).race signal

/-- `p`, and `tidy` after it in case `p` is dropped. -/
def onDrop : Program H α → Program H Unit → Program H α
  | .done a, _ => .done a
  | .stop .dropped, tidy => tidy.bind fun _ => .stop .dropped
  | .stop (.panic message), _ => .stop (.panic message)
  | .wait length signals next, tidy => .wait length signals fun wake => (next wake).onDrop tidy
  | .ask request next, tidy => .ask request fun answer => (next answer).onDrop tidy

end Program

namespace Context

variable {H : Host} {κ : Type} {V : κ → Type} {α : Type}

/-- Whether the context is done, and why. -/
def status (ctx : Context V) : Program H (Option Cancellation) := .status ctx.signal

/-- A context of its own within `ctx`, and the scope that cancels it. -/
def withCancel (ctx : Context V) : Program H (Context V × Scope) := do
  let scope ← Program.openScope
  return (ctx.within scope, scope)

/-- A context that ends `length` from now, if `ctx` does not end earlier. -/
def withTimeout (ctx : Context V) (length : Duration) : Program H (Context V) := do
  return ctx.withDeadline ((← Program.now) + length.toNanos)

/-- Lets time pass until `length` is over or the context is done, and tells which. -/
def doneWithin (ctx : Context V) (length : Duration) : Program H (Option Cancellation) :=
  .wait length [ctx.signal] fun
    | .elapsed => .done none
    | .fired _ reason _ => .done (some reason)
    | .dropped => .stop .dropped

/-- Sleeps until `length` is over or the context is done, and tells which; if both come at once, by
chance. -/
def pause (ctx : Context V) (length : Duration) : Program H (Option Cancellation) :=
  .wait (length.atMost Program.longestSleep) [ctx.signal] fun
    | .elapsed => .done none
    | .fired _ reason tied => .done (if tied then none else some reason)
    | .dropped => .stop .dropped

/-- The value of `p`, unless the context is done before it. -/
def run (ctx : Context V) (p : Program H α) : Work H α :=
  ExceptT.mk do
    match ← ctx.status with
    | some reason => return .error (.canceled reason)
    | none =>
      match ← p.race ctx.signal with
      | .ok a => return .ok a
      | .error reason => return .error (.canceled reason)

/-- The value of a program that may fail, unless the context is done before it. -/
def guard (ctx : Context V) (w : Work H α) : Work H α := do
  match ← ctx.run w.run with
  | .ok a => return a
  | .error failure => throw failure

end Context

end SessionKeeper
