import SessionKeeper.Failure.Conflict
import SessionKeeper.Program.Race

/-!
A database server as its clients know it: it takes a statement, on the connection of a transaction
or on one of the pool, and after a while replies. What it replies and after how long is its own
affair: `Server` is a parameter, and nothing is assumed about it here.

A transaction here is what the statements make of it: `BEGIN` and whatever sets it up, then the
statements of its owner, then `COMMIT` or `ROLLBACK`. One that is given up halfway is discarded with
a `ROLLBACK` of which nobody reads the reply.
-/

namespace SessionKeeper

/-- What a server does with a statement. -/
structure Response where
  reply : Reply
  /-- How long the reply takes. -/
  delay : Duration := .zero
  /-- The scopes that are canceled while the reply is on its way. -/
  cancels : List Scope := []

structure Server (H : Host) where
  respond : Option Connection → Statement → H.State → Response × H.State

namespace Server

variable {H : Host} {α : Type}

/-- The part of sending that reaches the server. If nobody waits for the reply any longer, an error
in it stays on the connection. -/
def transmit (server : Server H) (connection : Option Connection) (statement : Statement) :
    Work H Answer := ExceptT.mk do
  let response ← Program.modifyGet (server.respond connection statement)
  -- The statement is executed by now, whether or not anybody waits for the reply.
  .record (.executed connection statement response.reply)
  response.cancels.forM .cancel
  .wait response.delay [] fun
    | .dropped => do
      match connection, response.reply with
      | some c, .error error => .leaveUnread c error
      | _, _ => pure ()
      .stop .dropped
    | _ => .done (response.reply.mapError Failure.ofDriver)

/-- Sends a statement and waits for the reply. An error still unread on the connection is read
first: it is taken for the reply, and the statement is not sent. -/
def send (server : Server H) (connection : Option Connection) (statement : Statement) :
    Work H Answer := ExceptT.mk do
  let unread ← match connection with
    | some c => .takeUnread c
    | none => pure none
  match unread with
  | some error => return .error (.ofDriver error)
  | none => (server.transmit connection statement).run

/-- Sends statements in order, up to the first that fails. -/
def sendAll (server : Server H) (connection : Option Connection) : List Statement → Work H Unit
  | [] => pure ()
  | statement :: rest => ExceptT.mk do
    match ← (server.send connection statement).run with
    | .error failure => return .error failure
    | .ok _ => (server.sendAll connection rest).run

/-- Gives up the transaction on a connection. The reply comes when time next passes. -/
def discard (server : Server H) (connection : Connection) : Program H Unit := do
  let statement : Statement := ⟨"ROLLBACK", []⟩
  let response ← Program.modifyGet (server.respond (some connection) statement)
  .record (.executed (some connection) statement response.reply)
  let now ← .now
  response.cancels.forM fun scope => .cancelAt scope now

/-- Begins a transaction on a connection of its own and sets it up. A transaction that has begun and
cannot be set up, or is dropped meanwhile, is discarded. -/
def begin (server : Server H) (store : String) (setUp : List Statement) : Work H Connection :=
  ExceptT.mk do
    let connection ← .connect store
    match ← (server.send (some connection) ⟨"BEGIN", []⟩).run with
    -- Nothing has begun, so there is nothing to discard.
    | .error failure => return .error failure
    | .ok _ =>
      match ← ((server.sendAll (some connection) setUp).run.onDrop (server.discard connection)) with
      | .error failure =>
        server.discard connection
        return .error failure
      | .ok () => return .ok connection

/-- Sends the statement that ends a transaction; if it fails, the transaction is discarded. -/
def finish (server : Server H) (statement : Statement) (connection : Connection) : Work H Unit :=
  ExceptT.mk do
    match ← (server.send (some connection) statement).run with
    | .ok _ => return .ok ()
    | .error failure =>
      server.discard connection
      return .error failure

def commit (server : Server H) : Connection → Work H Unit := server.finish ⟨"COMMIT", []⟩

def rollback (server : Server H) : Connection → Work H Unit := server.finish ⟨"ROLLBACK", []⟩

end Server

end SessionKeeper
