import SessionKeeper.Sql.Statement
import SessionKeeper.Timeline

/-!
Transactions as others see them: their mode, the connection they run on, and the events of which the
record of a run consists.
-/

namespace SessionKeeper

/-- What a transaction may do. -/
inductive Mode where
  | readWrite
  /-- A consistent snapshot, and no writes. -/
  | readOnly
  deriving DecidableEq, Repr

def Mode.text : Mode → String
  | .readWrite => "read-write"
  | .readOnly => "read-only"

/-- A sort of connection. Within one context, each channel has at most one active transaction. -/
structure Channel where
  id : Nat
  deriving DecidableEq, Repr

/-- A connection on which a transaction was begun: the `serial`-th of its store. -/
structure Connection where
  store : String
  serial : Nat
  deriving DecidableEq, Repr

/-- The right to use a connection, given for the length of one attempt. -/
structure Lease where
  id : Nat
  deriving DecidableEq, Repr

/-- Something that happened while programs ran; `N` are the notes that programs make themselves. -/
inductive Event (N : Type) where
  /-- A store was asked to begin a transaction. -/
  | requested (store : String) (mode : Mode)
  /-- A store has a connection more. -/
  | opened (connection : Connection)
  /-- An attempt got the connection to run its transaction on. -/
  | began (connection : Connection) (channel : Channel) (mode : Mode) (attempt : Nat)
  /-- An attempt started a run of its unit of work, after `restarts` restarts; `reason` says whether
  the caller's context was done by then. -/
  | running (connection : Connection) (restarts : Nat) (reason : Option Cancellation)
  /-- A server executed a statement, on a transaction's connection or on one of the pool. -/
  | executed (connection : Option Connection) (statement : Statement) (reply : Reply)
  /-- A unit of work put a statement on the list that a connection keeps. -/
  | stated (connection : Connection) (text : String)
  /-- The list of a connection was emptied. -/
  | cleared (connection : Connection)
  /-- The store was told that a commit is to follow. -/
  | preparing (connection : Connection)
  /-- The store was asked to start over, after `restarts` restarts, because of `failure`. -/
  | restarting (connection : Connection) (restarts : Nat) (failure : Failure)
  | committing (connection : Connection)
  | committed (connection : Connection)
  | rollingBack (connection : Connection)
  | note (n : N)

/-- Events, each with the instant at which it happened, in order. -/
abbrev Trace (N : Type) := List (Instant × Event N)

end SessionKeeper
