import SessionKeeper.Transaction.Store

/-!
One attempt at a transaction: begin, run the unit of work as often as the store starts over, then
commit or roll back.

The rounds of an attempt end in an `Ending` and touch the transaction no more; the ending alone
decides between commit and rollback (`Store.conclude`), so each attempt that began has exactly one
of the two, and by then the connection was taken back and its handle is of no use to anybody.

How often a store starts over has no bound of its own here. An attempt is followed for as many
restarts as `Store.restartLimit` says; one that goes on after them is not driven to its end. Where a
store declines by then (`Store.DeclinesAfter`) the limit changes nothing.

Correspondence:
  `run_tx`                       ↔ `Store.attempt`; its loop is `Store.rounds`
  one turn of the loop           ↔ `Store.round`, then `Store.startOver` if that failed
  `prepare_commit`, `restart`    ↔ the second half of `Store.round`, `Store.restarted`
  the pause between two runs     ↔ `Store.rest`
  the commit and rollback arms   ↔ `Store.conclude`
-/

namespace SessionKeeper

/-- How the rounds of an attempt ended. -/
inductive Ending (α : Type) where
  /-- The last run succeeded, and so did the preparation of the commit. -/
  | succeeded (value : α)
  | failed (failure : Failure)
  | panicked (message : String)

namespace Store

variable {H : Host} {α : Type}

/-- One run of the unit of work, and the preparation of the commit if it succeeds. -/
def round (store : Store H) (mode : Mode) (handle : Handle) (begun : Connection)
    (work : UnitOfWork H α) (ctx : RequestContext) (restarts : Nat) : Program H (Ending α) := do
  .record (.running begun restarts (← ctx.status))
  match ← (work (ctx.bind store.channel handle)).run.catchPanic with
  | .error message => return .panicked message
  | .ok (.error failure) => return .failed failure
  | .ok (.ok value) =>
    -- The lease is looked up once more, and a lease that has ended is a failure like any other.
    match ← handle.lock.run with
    | .error failure => return .failed failure
    | .ok connection =>
      .record (.preparing connection)
      match ← (store.prepare mode connection).run with
      | .error failure => return .failed failure
      | .ok () => return .succeeded value

/-- Asks the store to start over after `failure`. -/
def restarted (store : Store H) (mode : Mode) (handle : Handle) (failure : Failure)
    (restarts : Nat) : Work H Bool := ExceptT.mk do
  match ← handle.lock.run with
  | .error refused => return .error refused
  | .ok connection =>
    .record (.restarting connection restarts failure)
    match ← (store.restart mode connection failure restarts).run with
    | .error cause => return .error (.internal ("restart failed after: " ++ failure.text) cause)
    | .ok again => return .ok again

/-- The pause before the run that follows restart `n`; tells whether the context cut it short. -/
def rest (store : Store H) (handle : Handle) (ctx : RequestContext) (failure : Failure) (n : Nat) :
    Program H (Option Cancellation) := do
  let length := store.restartPause n
  let place := s!"{store.name}: restarting attempt {handle.attempt} in place ({n})"
  Program.log .debug s!"{place} after {length.text}: {failure.text}"
  if length.isZero then return none else ctx.pause length

/-- Readies the transaction for another run after `failure`, or answers with the failure that the
attempt ends with. -/
def startOver (store : Store H) (mode : Mode) (handle : Handle) (ctx : RequestContext)
    (failure : Failure) (restarts : Nat) : Work H Unit := ExceptT.mk do
  match ← ctx.status with
  | some _ => return .error failure
  | none =>
    match ← (store.restarted mode handle failure restarts).run with
    | .error cause => return .error cause
    | .ok false => return .error failure
    | .ok true =>
      match ← store.rest handle ctx failure (restarts + 1) with
      | some reason => return .error (.canceledDuring reason failure)
      | none => return .ok ()

/-- Runs the unit of work, and again whenever the store starts over, up to `left` times. -/
def rounds (store : Store H) (mode : Mode) (handle : Handle) (begun : Connection)
    (work : UnitOfWork H α) (ctx : RequestContext) (left restarts : Nat) :
    Program H (Ending α) := do
  match ← store.round mode handle begun work ctx restarts with
  | .succeeded value => return .succeeded value
  | .panicked message => return .panicked message
  | .failed failure =>
    match ← (store.startOver mode handle ctx failure restarts).run with
    | .error final => return .failed final
    | .ok () =>
      match left with
      -- The store starts over once more, but the attempt is followed no further.
      | 0 => .stop .dropped
      | left + 1 => store.rounds mode handle begun work ctx left (restarts + 1)

/-- Commits after a success. -/
def commitAttempt (store : Store H) (handle : Handle) (connection : Connection) : Work H Unit :=
  ExceptT.mk do
    .record (.committing connection)
    match ← (store.commit connection).run with
    | .ok () =>
      .record (.committed connection)
      Program.log .debug s!"{store.name}: attempt {handle.attempt} committed"
      return .ok ()
    | .error cause =>
      Program.log .error s!"{store.name}: commit failed on attempt {handle.attempt}: {cause.text}"
      -- A conflict at the commit stays one, so the attempt may be made again.
      let kind : Failure.Kind := if cause.is .conflict then .conflict else .internal
      return .error (.wrap kind "commit failed" cause)

/-- Rolls back after `failure`, and answers with what the attempt fails with. -/
def rollbackAttempt (store : Store H) (handle : Handle) (connection : Connection)
    (failure : Failure) : Program H Failure := do
  .record (.rollingBack connection)
  match ← (store.rollback connection).run with
  | .ok () =>
    Program.log .debug s!"{store.name}: attempt {handle.attempt} rolled back: {failure.text}"
    return failure
  | .error cause =>
    let place := s!"{store.name}: rollback failed on attempt {handle.attempt}"
    Program.log .warn s!"{place} after {failure.text}: {cause.text}"
    return .internal ("rollback failed after: " ++ failure.text) cause

/-- Rolls back on the way of a panic. -/
def abortAttempt (store : Store H) (connection : Connection) : Program H Unit := do
  .record (.rollingBack connection)
  match ← (store.rollback connection).run with
  | .ok () => pure ()
  | .error cause =>
    Program.log .warn s!"{store.name}: rollback after panic failed: {cause.text}"

/-- The failure of an attempt whose connection was taken back before its end. -/
def lost : Failure :=
  ⟨.internal, "transaction connection released before the attempt finished", []⟩

/-- Takes the connection back, and ends its transaction as the rounds have ended. -/
def conclude (store : Store H) (handle : Handle) : Ending α → Work H α
  | .succeeded value => ExceptT.mk do
    match ← handle.release with
    | none => return .error lost
    | some connection =>
      match ← (store.commitAttempt handle connection).run with
      | .ok () => return .ok value
      | .error failure => return .error failure
  | .failed failure => ExceptT.mk do
    match ← handle.release with
    | none => return .error lost
    | some connection => return .error (← store.rollbackAttempt handle connection failure)
  | .panicked message => ExceptT.mk do
    match ← handle.release with
    | none => pure ()
    | some connection => store.abortAttempt connection
    Program.log .debug s!"{store.name}: attempt {handle.attempt} aborted"
    .panic message

/-- Asks the store to begin a transaction. -/
def request (store : Store H) (mode : Mode) : Work H Connection := ExceptT.mk do
  .record (.requested store.name mode)
  (store.start mode).run

/-- Attempt `n` at `work` in a transaction of its own. Only the beginning can be interrupted by the
context; what follows is done to its end. -/
def attempt (store : Store H) (ctx : RequestContext) (mode : Mode) (work : UnitOfWork H α)
    (n : Nat) : Work H α := ExceptT.mk do
  match ← (ctx.guard (store.request mode)).run with
  | .error failure => return .error failure
  | .ok connection =>
    let handle : Handle := ⟨← .openLease connection, mode, n⟩
    .record (.began connection store.channel mode n)
    Program.log .debug s!"{store.name}: began {mode.text} transaction, attempt {n}"
    let ending ← store.rounds mode handle connection work ctx store.restartLimit 0
    (store.conclude handle ending).run

end Store

end SessionKeeper
