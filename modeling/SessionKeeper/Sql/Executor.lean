import SessionKeeper.Sql.Dialect
import SessionKeeper.Sql.Server
import SessionKeeper.Transaction.Store

/-!
Where statements run: on the active transaction of their context if there is one, on the pool
otherwise. The executor decides that once, when it is made (`resolve` ↔ `Database.executor`); every
statement is then raced against the context it was made from.

`execute`, `fetch_one`, `fetch_optional`, `fetch_all` and `ping` differ in the statement and in what
they read of the answer, so each is `Executor.query` with a reader of its own.
-/

namespace SessionKeeper

/-- A database: its transactions, its protocol, and the server behind both. -/
structure Database (H : Host) where
  store : Store H
  dialect : Dialect
  server : Server H

/-- Runs statements on the connection of a transaction, or on the pool. -/
structure Executor (H : Host) where
  context : RequestContext
  /-- The transaction that the statements are part of. -/
  target : Option Handle
  dialect : Dialect
  server : Server H

/-- The executor for statements under `ctx`. -/
def Database.executor {H : Host} (db : Database H) (ctx : RequestContext) : Executor H :=
  ⟨ctx, ctx.active? db.store.channel, db.dialect, db.server⟩

namespace Executor

variable {H : Host} {α : Type}

def isTransactional (e : Executor H) : Bool := e.target.isSome

/-- The connection for the next statement: that of the transaction, which must not be over. -/
def connection (e : Executor H) : Work H (Option Connection) :=
  match e.target with
  | none => pure none
  | some handle => ExceptT.mk do
    -- The context may be done before the connection is free.
    match ← (e.context.guard handle.lock).run with
    | .error failure => return .error failure
    | .ok c => return .ok (some c)

/-- Runs a statement, and reads its answer with `read`. -/
def query (e : Executor H) (statement : Statement) (read : Answer → Except DriverFailure α) :
    Work H α := ExceptT.mk do
  match ← e.connection.run with
  | .error failure => return .error failure
  | .ok connection =>
    match ← (e.context.guard (e.server.send connection statement)).run with
    | .error failure => return .error failure
    | .ok answer => return (read answer).mapError .ofDriver

/-- How many rows the statement touched. -/
def execute (e : Executor H) (statement : Statement) : Work H Nat :=
  e.query statement fun answer => .ok answer.affected

/-- The first row, which there has to be. -/
def fetchOne (e : Executor H) (statement : Statement)
    (row : List Datum → Except DriverFailure α) : Work H α :=
  e.query statement fun answer =>
    match answer.rows with
    | [] => .error ⟨.rowNotFound, []⟩
    | first :: _ => row first

/-- The first row, if there is one. -/
def fetchOptional (e : Executor H) (statement : Statement)
    (row : List Datum → Except DriverFailure α) : Work H (Option α) :=
  e.query statement fun answer =>
    match answer.rows with
    | [] => .ok none
    | first :: _ => (row first).map some

/-- Every row, up to the first that cannot be read. -/
def fetchAll (e : Executor H) (statement : Statement)
    (row : List Datum → Except DriverFailure α) : Work H (List α) :=
  e.query statement fun answer => answer.rows.mapM row

/-- The cheapest round trip. -/
def ping (e : Executor H) : Work H Unit := e.query ⟨"SELECT 1", []⟩ fun _ => .ok ()

end Executor

end SessionKeeper
