import SessionKeeper.Transaction.Attempt

/-!
The two ways into a transaction. A call under an active transaction of the same channel joins it;
any other call makes attempts under the policy of the store.

Calls that could never be right fail before anything is started: a read-only transaction where there
are none, a read-write one inside a read-only one, and any under a context that outlived its
transaction.

Correspondence: `transact` ↔ `Store.transact`, `rw_tx` ↔ `Store.readWrite`, `ro_tx` ↔
`Store.readOnlyTransaction`. `Store.call` is either of the two, by its mode.
-/

namespace SessionKeeper.Store

variable {H : Host} {α : Type}

/-- Runs `work` in a transaction of the given mode, the active one if there is one. -/
def transact (store : Store H) (ctx : RequestContext) (mode : Mode) (work : UnitOfWork H α) :
    Work H α := ExceptT.mk do
  match ctx.active? store.channel with
  | some active =>
    -- A context that somebody kept still carries its transaction after the end of it.
    if ← active.isFinished then
      return .error (.misconfigured
        "context outlived its transaction; derive from the request context instead")
    else if active.mode = .readOnly ∧ mode = .readWrite then
      return .error (.misconfigured "read-write transaction requested inside a read-only one")
    else
      let joined := s!"{active.mode.text} transaction (attempt {active.attempt})"
      Program.log .debug s!"{store.name}: joining active {joined}"
      (work ctx).run
  | none => ((store.policy mode).run ctx store.retries (store.attempt ctx mode work)).run

/-- Runs `work` in a read-write transaction, again if it conflicts. -/
def readWrite (store : Store H) (ctx : RequestContext) (work : UnitOfWork H α) : Work H α :=
  store.transact ctx .readWrite work

/-- Runs `work` in a read-only transaction, which sees one consistent snapshot. -/
def readOnlyTransaction (store : Store H) (ctx : RequestContext) (work : UnitOfWork H α) :
    Work H α :=
  if store.readOnly then store.transact ctx .readOnly work
  else throw (.misconfigured s!"{store.name} backend has no read-only transactions")

/-- Runs `work` in a transaction of the given mode, as callers ask for it. -/
def call (store : Store H) (mode : Mode) (ctx : RequestContext) (work : UnitOfWork H α) :
    Work H α :=
  match mode with
  | .readWrite => store.readWrite ctx work
  | .readOnly => store.readOnlyTransaction ctx work

end SessionKeeper.Store
