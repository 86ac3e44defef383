import SessionKeeper.Rehearsal.Server
import SessionKeeper.Rehearsal.Units
import SessionKeeper.Session.Service
import SessionKeeper.Sql.Cockroach
import SessionKeeper.Sql.MySql
import SessionKeeper.Sql.Postgres

/-!
Scripts of calls to a database: statements through its executor, transactions, and the operations of
the session service.
-/

namespace SessionKeeper.Rehearsal

/-- What a call gives. -/
inductive Value where
  | nothing
  | affected (n : Nat)
  | number (n : Option Int)
  | numbers (ns : List Int)
  | pong
  /-- Whether the executor runs on a transaction, and whether its context is done. -/
  | place (transactional : Bool) (reason : Option Cancellation)
  | count (n : Nat)
  /-- A refresh token, perhaps with the user it was rotated for, and whether it is the one stored
  last. -/
  | token (user : Option Int) (text : String) (stored : Bool)
  | revoked (user : Int) (n : Nat)
  | user (found : Option User)
  | list (values : List Value)
  | result (r : Except Failure Value)

/-- One operation. -/
inductive Deed where
  | execute (statement : Statement)
  | fetchOne (statement : Statement)
  | fetchOptional (statement : Statement)
  | fetchAll (statement : Statement)
  | ping
  | place
  | cancel
  | keep (name : String)
  | createRefreshToken (user : Int)
  | rotate (token : String)
  | revoke (token : String)
  | revokeAllOf (token : String)
  | revokeUser (user : Int)
  | cleanUp
  | insertToken (token : String) (user : Int) (expires : Timestamp)
  | takeToken (token : String) (now : Timestamp)
  | owner (token : String)
  | eraseToken (token : String)
  | eraseUser (user : Int)
  | eraseExpired (now : Timestamp)
  | findUser (user : Int)

mutual

inductive Step where
  | deed (kept : Option String) (deed : Deed)
  | transaction (kept : Option String) (mode : Mode) (work : List Script)
  /-- A step whose result is its value, whatever it is. -/
  | settle (step : Step)

inductive Script where
  | mk (steps : List Step) (close : Close Unit)

end

/-- The value for a new refresh token. -/
def tokenValue (user : Option Int) (text : String) : Work (host Value) Value := do
  let stage : Stage ← Work.lift .get
  return .token user text (stage.stored == some (.text text))

/-- Does one operation under a context. -/
def Deed.perform (db : Database (host Value)) (ctx : RequestContext) :
    Deed → Work (host Value) Value
  | .execute statement => .affected <$> (db.executor ctx).execute statement
  | .fetchOne statement =>
    (.number ∘ some) <$> (db.executor ctx).fetchOne statement db.dialect.readFirst
  | .fetchOptional statement =>
    .number <$> (db.executor ctx).fetchOptional statement db.dialect.readFirst
  | .fetchAll statement => .numbers <$> (db.executor ctx).fetchAll statement db.dialect.readFirst
  | .ping => do
    (db.executor ctx).ping
    return .pong
  | .place => do
    let reason ← Work.lift ctx.status
    return .place (db.executor ctx).isTransactional reason
  | .cancel => do
    let stage : Stage ← Work.lift .get
    Work.lift (stage.handle.forM .cancel)
    return .nothing
  | .keep name => do
    Work.lift (Rehearsal.keep name ctx)
    return .nothing
  | .createRefreshToken user => do tokenValue none (← Session.createRefreshToken db ctx user)
  | .rotate token => do
    let (user, token) ← Session.rotate db ctx token
    tokenValue (some user) token
  | .revoke token => do
    Session.revoke db ctx token
    return .nothing
  | .revokeAllOf token => do
    let (user, n) ← Session.revokeAllOf db ctx token
    return .revoked user n
  | .revokeUser user => .count <$> Session.revokeUser db ctx user
  | .cleanUp => .count <$> Session.cleanUp db ctx
  | .insertToken token user expires => do
    RefreshTokens.insert (db.executor ctx) token user expires
    return .nothing
  | .takeToken token now => .number <$> RefreshTokens.take (db.executor ctx) token now
  | .owner token => .number <$> RefreshTokens.owner? (db.executor ctx) token
  | .eraseToken token => .count <$> RefreshTokens.erase (db.executor ctx) token
  | .eraseUser user => .count <$> RefreshTokens.eraseUser (db.executor ctx) user
  | .eraseExpired now => .count <$> RefreshTokens.eraseExpired (db.executor ctx) now
  | .findUser user => .user <$> Users.find? (db.executor ctx) user

/-- The unit of work whose n-th invocation is the n-th of `runs`, or the last. -/
def invokeScript (tally : Nat) (runs : List (UnitOfWork (host Value) Value)) :
    UnitOfWork (host Value) Value := fun ctx => ExceptT.mk do
  let n ← countUp tally
  match runs[min n (runs.length - 1)]? with
  | some run => (run ctx).run
  | none => return .ok (.list [])

mutual

def Step.perform (db : Database (host Value)) (ctx : RequestContext) :
    Step → Work (host Value) Value
  | .deed kept deed => do
    let stage : Stage ← Work.lift .get
    deed.perform db (stage.recall kept ctx)
  | .transaction kept mode work => do
    let stage : Stage ← Work.lift .get
    let tally ← Work.lift openTally
    let unit := invokeScript tally (performScripts db work)
    db.store.call mode (stage.recall kept ctx) unit
  | .settle step => do
    let result ← Work.lift (step.perform db ctx).run
    return .result result

def performSteps (db : Database (host Value)) (ctx : RequestContext) :
    List Step → Work (host Value) (List Value)
  | [] => return []
  | step :: rest => do
    let value ← step.perform db ctx
    return value :: (← performSteps db ctx rest)

def Script.perform (db : Database (host Value)) : Script → UnitOfWork (host Value) Value
  | .mk steps close => fun ctx => do
    let values ← performSteps db ctx steps
    match close with
    | .value () => return .list values
    | .failure failure => throw failure
    | .panic message => Work.lift (.panic message)

def performScripts (db : Database (host Value)) :
    List Script → List (UnitOfWork (host Value) Value)
  | [] => []
  | script :: rest => script.perform db :: performScripts db rest

end

/-- Plays one step in a context of its own. -/
def Step.play (db : Database (host Value)) (opening : Opening) (step : Step) :
    Work (host Value) Value := do
  let ctx ← Work.lift opening.context
  step.perform db ctx

end SessionKeeper.Rehearsal
