import SessionKeeper.Sql.Executor

/-!
MySQL. Deadlocks are worth another attempt; lock wait timeouts are conflicts too, but are left to
the caller. There are no read-only transactions.
-/

namespace SessionKeeper.MySql

variable {H : Host}

def store (server : Server H) (policy : RetryPolicy) : Store H where
  name := "mysql"
  channel := Dialect.mysql.channel
  retries := ConflictRule.mysql.retries
  policy := fun _ => policy
  start := fun _ => server.begin "mysql" []
  commit := server.commit
  rollback := server.rollback

def database (server : Server H) (policy : RetryPolicy) : Database H :=
  ⟨store server policy, .mysql, server⟩

end SessionKeeper.MySql
