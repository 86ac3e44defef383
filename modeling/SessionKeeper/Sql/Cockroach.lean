import SessionKeeper.Sql.Executor

/-!
CockroachDB. A read-write transaction takes a savepoint right after `BEGIN`. A serialization failure
rewinds to it and the unit of work runs again in the same transaction; the savepoint is released
just before `COMMIT`. Attempts are never repeated, so the two ways of trying again do not multiply.

Read-only transactions see a consistent snapshot, write nothing, and are never restarted.
-/

namespace SessionKeeper.Cockroach

variable {H : Host}

structure Settings where
  /-- How often a transaction may be restarted before its failure is returned. -/
  maxRestarts : Nat := 10
  /-- The pause before the first restarted run; the n-th waits n times as long. -/
  pauseUnit : Duration := .ofMillis 10
  /-- Whether read-only transactions are served by the nearest replica, slightly in the past. -/
  followerReads : Bool := false

def savepoint : Statement := ⟨"SAVEPOINT cockroach_restart", []⟩

def releaseSavepoint : Statement := ⟨"RELEASE SAVEPOINT cockroach_restart", []⟩

def rewind : Statement := ⟨"ROLLBACK TO SAVEPOINT cockroach_restart", []⟩

/-- The statement between `BEGIN` and the unit of work. -/
def setUp (settings : Settings) : Mode → Statement
  | .readWrite => savepoint
  | .readOnly =>
    if settings.followerReads then
      ⟨"SET TRANSACTION AS OF SYSTEM TIME follower_read_timestamp()", []⟩
    else ⟨"SET TRANSACTION READ ONLY", []⟩

/-- Whether a run that failed so is worth a restart. -/
def wantsRestart (settings : Settings) (mode : Mode) (failure : Failure) (restarts : Nat) : Bool :=
  mode == .readWrite && decide (restarts < settings.maxRestarts)
    && failure.serverErrors.any fun e => e.code == some serializationFailure

def prepare (server : Server H) : Mode → Connection → Work H Unit
  | .readWrite, c => server.sendAll (some c) [releaseSavepoint]
  | .readOnly, _ => pure ()

def restart (server : Server H) (settings : Settings) (mode : Mode) (c : Connection)
    (failure : Failure) (restarts : Nat) : Work H Bool :=
  if wantsRestart settings mode failure restarts then ExceptT.mk do
    match ← (server.send (some c) rewind).run with
    | .error cause => return .error cause
    | .ok _ => return .ok true
  else pure false

def store (server : Server H) (settings : Settings) : Store H where
  name := "cockroach"
  channel := Dialect.postgres.channel
  readOnly := true
  retries := ConflictRule.never.retries
  policy := fun _ => .single
  start := fun mode => server.begin "cockroach" [setUp settings mode]
  commit := server.commit
  rollback := server.rollback
  prepare := prepare server
  restart := restart server settings
  restartLimit := settings.maxRestarts
  restartPause := settings.pauseUnit.scale

def database (server : Server H) (settings : Settings) : Database H :=
  ⟨store server settings, .postgres, server⟩

end SessionKeeper.Cockroach
