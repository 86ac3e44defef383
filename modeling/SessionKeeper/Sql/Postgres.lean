import SessionKeeper.Sql.Executor
import SessionKeeper.Text.Blank

/-!
PostgreSQL. Serialization failures, lock timeouts and deadlocks are worth another attempt. What
characterises a transaction is set right after `BEGIN`, before anything else is sent: the isolation
level if one is configured, then read-only for the mode of that name.
-/

namespace SessionKeeper

inductive IsolationLevel where
  | readCommitted
  | repeatableRead
  | serializable
  deriving DecidableEq, Repr

namespace IsolationLevel

def text : IsolationLevel → String
  | .readCommitted => "read committed"
  | .repeatableRead => "repeatable read"
  | .serializable => "serializable"

/-- The statement that sets the level of the transaction it is sent in. -/
def statement : IsolationLevel → Statement
  | .readCommitted => ⟨"SET TRANSACTION ISOLATION LEVEL READ COMMITTED", []⟩
  | .repeatableRead => ⟨"SET TRANSACTION ISOLATION LEVEL REPEATABLE READ", []⟩
  | .serializable => ⟨"SET TRANSACTION ISOLATION LEVEL SERIALIZABLE", []⟩

/-- A text without blanks around it, in lower case, its words parted by spaces. -/
def normalized (s : String) : String :=
  let shown := Text.lower (Text.trim s)
  String.ofList (shown.toList.map fun c => if c = '_' ∨ c = '-' then ' ' else c)

/-- Reads the name of a level, in any case, its words parted by a space, `_` or `-`. -/
def ofText (s : String) : Except Failure IsolationLevel :=
  let name := normalized s
  if name = "read committed" then .ok .readCommitted
  else if name = "repeatable read" then .ok .repeatableRead
  else if name = "serializable" then .ok .serializable
  else .error (.misconfigured ("unknown isolation level: " ++ name))

end IsolationLevel

namespace Postgres

variable {H : Host}

/-- The statements between `BEGIN` and the unit of work. -/
def setUp (isolation : Option IsolationLevel) (mode : Mode) : List Statement :=
  (isolation.map (·.statement)).toList ++
    match mode with
    | .readWrite => []
    | .readOnly => [⟨"SET TRANSACTION READ ONLY", []⟩]

def store (server : Server H) (policy : RetryPolicy) (isolation : Option IsolationLevel) :
    Store H where
  name := "postgres"
  channel := Dialect.postgres.channel
  readOnly := true
  retries := ConflictRule.postgres.retries
  policy := fun _ => policy
  start := fun mode => server.begin "postgres" (setUp isolation mode)
  commit := server.commit
  rollback := server.rollback

def database (server : Server H) (policy : RetryPolicy) (isolation : Option IsolationLevel) :
    Database H := ⟨store server policy isolation, .postgres, server⟩

end Postgres

end SessionKeeper
