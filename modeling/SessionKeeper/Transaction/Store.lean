import SessionKeeper.Retry
import SessionKeeper.Transaction.Handle

/-!
What a database has to offer for transactions to be run on it. The fields of a `Store` are the
methods of a backend: `begin` ↔ `start`, `before_commit` ↔ `prepare`, `restart_backoff` ↔
`restartPause`, `supports_read_only` ↔ `readOnly`, and `is_retryable` of its classifier ↔ `retries`.
Those that have a default there have the same default here. `restartLimit` has no counterpart: it is
for how many restarts an attempt is followed.
-/

namespace SessionKeeper

/-- The primitives of one database, and its choices about repeating conflicting work. -/
structure Store (H : Host) where
  name : String
  /-- The sort of connection. Stores that share a channel share the active transaction. -/
  channel : Channel
  /-- Whether there are read-only transactions. -/
  readOnly : Bool := false
  /-- Whether an attempt that failed so is worth another. -/
  retries : Failure → Bool
  policy : Mode → RetryPolicy
  /-- Begins a transaction and gives its connection. It may be dropped halfway. -/
  start : Mode → Work H Connection
  /-- Commits. A commit that fails leaves the transaction rolled back. -/
  commit : Connection → Work H Unit
  rollback : Connection → Work H Unit
  /-- Runs between the success of the unit of work and the commit. -/
  prepare : Mode → Connection → Work H Unit := fun _ _ => pure ()
  /-- Readies the same transaction for another run of the unit of work, given the failure of the
  last run and the number of restarts before; `false` ends the attempt with that failure. -/
  restart : Mode → Connection → Failure → Nat → Work H Bool := fun _ _ _ _ => pure false
  /-- For how many restarts an attempt is followed. -/
  restartLimit : Nat := 0
  /-- The pause before the run that follows restart `n`. -/
  restartPause : Nat → Duration := fun _ => .zero

/-- What runs in a transaction: it is given the context that carries the transaction. -/
abbrev UnitOfWork (H : Host) (α : Type) := RequestContext → Work H α

end SessionKeeper
