import SessionKeeper.Sql.Executor

/-!
The tables of the session service, and the statements on them. Each runs where its executor says:
inside the active transaction or on the pool.
-/

namespace SessionKeeper

/-- What is asked of the table of refresh tokens, whose rows are a token, its user, and when it
expires. -/
inductive TokenQuery where
  /-- Stores a token of a user until a point of time. -/
  | insert (token : String) (user : Int) (expires : Timestamp)
  /-- Removes a token that has not expired by `now`, and gives its user. -/
  | take (token : String) (now : Timestamp)
  /-- Gives the user of a token. -/
  | owner (token : String)
  /-- Removes a token. -/
  | erase (token : String)
  /-- Removes every token of a user. -/
  | eraseUser (user : Int)
  /-- Removes every token that expired before `now`. -/
  | eraseExpired (now : Timestamp)
  deriving DecidableEq, Repr

def TokenQuery.statement : TokenQuery → Statement
  | .insert token user expires =>
    ⟨"INSERT INTO refresh_tokens (id, user_id, expires_at) VALUES ($1, $2, $3)",
      [.text token, .int user, .time expires]⟩
  | .take token now =>
    ⟨"DELETE FROM refresh_tokens WHERE id = $1 AND expires_at > $2 RETURNING user_id",
      [.text token, .time now]⟩
  | .owner token => ⟨"SELECT user_id FROM refresh_tokens WHERE id = $1", [.text token]⟩
  | .erase token => ⟨"DELETE FROM refresh_tokens WHERE id = $1", [.text token]⟩
  | .eraseUser user => ⟨"DELETE FROM refresh_tokens WHERE user_id = $1", [.int user]⟩
  | .eraseExpired now => ⟨"DELETE FROM refresh_tokens WHERE expires_at < $1", [.time now]⟩

variable {H : Host}

namespace RefreshTokens

def insert (e : Executor H) (token : String) (user : Int) (expires : Timestamp) : Work H Unit := do
  let _ ← e.execute (TokenQuery.insert token user expires).statement

/-- The user of a token that is taken. Of two who take the same token one gets it. -/
def take (e : Executor H) (token : String) (now : Timestamp) : Work H (Option Int) :=
  e.fetchOptional (TokenQuery.take token now).statement e.dialect.readFirst

def owner? (e : Executor H) (token : String) : Work H (Option Int) :=
  e.fetchOptional (TokenQuery.owner token).statement e.dialect.readFirst

/-- The number of tokens removed. -/
def erase (e : Executor H) (token : String) : Work H Nat :=
  e.execute (TokenQuery.erase token).statement

@[inherit_doc erase]
def eraseUser (e : Executor H) (user : Int) : Work H Nat :=
  e.execute (TokenQuery.eraseUser user).statement

@[inherit_doc erase]
def eraseExpired (e : Executor H) (now : Timestamp) : Work H Nat :=
  e.execute (TokenQuery.eraseExpired now).statement

end RefreshTokens

structure User where
  id : Int
  username : String
  deriving DecidableEq, Repr

namespace Users

/-- The statement that asks for a user. -/
def lookup (user : Int) : Statement := ⟨"SELECT id, username FROM users WHERE id = $1", [.int user]⟩

/-- Reads the row of a user. -/
def read (d : Dialect) (row : List Datum) : Except DriverFailure User := do
  let id ← d.readInt "\"id\"" (row.getD 0 .null)
  let username ← d.readText "\"username\"" (row.getD 1 .null)
  return ⟨id, username⟩

def find? (e : Executor H) (user : Int) : Work H (Option User) :=
  e.fetchOptional (lookup user) (read e.dialect)

end Users

end SessionKeeper
