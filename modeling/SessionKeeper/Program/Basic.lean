import SessionKeeper.Log
import SessionKeeper.Transaction.Event

/-!
Programs: what a unit of work, a store and the transactional core itself are made of. A program
either ends, waits for time to pass, or makes a request of its surroundings and goes on with the
answer. Programs are finite trees, so every run of one ends.

The surroundings (`State`) hold the timeline, the leases on connections, the log and the trace, and
whatever state the host of the programs keeps. `Program.run` is what a program does to them.

A program is what an asynchronous function is of which one task is driven at a time: it waits where
that awaits, and a future that is dropped at such a point is a program woken by `Wake.dropped`
there. Panics stop a program, and can be caught (`Program.catchPanic`).
-/

namespace SessionKeeper

/-- What the programs of one host share: a state of its own, and notes for the trace. -/
structure Host where
  State : Type
  Note : Type

/-- Why a program ended without a value. -/
inductive Stop where
  /-- Something happened that the program has no answer to. -/
  | panic (message : String)
  /-- Nobody waits for the value any longer, and the program was not driven to its end. -/
  | dropped
  deriving DecidableEq, Repr

/-- A request that is answered at once. -/
inductive Request (H : Host) where
  | now
  | wallClock
  /-- Whether a signal is done, and why. -/
  | status (signal : Signal)
  | openScope
  | cancel (scope : Scope)
  | cancelAt (scope : Scope) (time : Instant)
  /-- Thirty-two bytes that nobody can guess. -/
  | entropy
  | log (entry : LogRecord)
  | record (event : Event H.Note)
  /-- The next connection of a store. -/
  | connect (store : String)
  | openLease (connection : Connection)
  /-- Takes the connection of a lease back, for good. -/
  | endLease (lease : Lease)
  | leaseEnded (lease : Lease)
  /-- The connection of a lease, while it lasts. -/
  | borrow (lease : Lease)
  /-- An error arrived on the connection after its statement had been abandoned. -/
  | leaveUnread (connection : Connection) (error : DriverFailure)
  /-- The error left on the connection, which is read by asking. -/
  | takeUnread (connection : Connection)
  | get
  | set (state : H.State)

/-- What a request is answered with. -/
@[reducible] def Request.Answer {H : Host} : Request H → Type
  | .now => Instant
  | .wallClock => Timestamp
  | .status _ => Option Cancellation
  | .openScope => Scope
  | .cancel _ => Unit
  | .cancelAt _ _ => Unit
  | .entropy => List UInt8
  | .log _ => Unit
  | .record _ => Unit
  | .connect _ => Connection
  | .openLease _ => Lease
  | .endLease _ => Option Connection
  | .leaseEnded _ => Bool
  | .borrow _ => Option Connection
  | .leaveUnread _ _ => Unit
  | .takeUnread _ => Option DriverFailure
  | .get => H.State
  | .set _ => Unit

/-- A program of the host `H` with a value in `α`. -/
inductive Program (H : Host) (α : Type) where
  | done (value : α)
  | stop (cause : Stop)
  | wait (length : Duration) (signals : List Signal) (next : Wake → Program H α)
  | ask (request : Request H) (next : request.Answer → Program H α)

namespace Program

variable {H : Host} {α β : Type}

/-- Goes on with `f` once `p` has its value. -/
def bind : Program H α → (α → Program H β) → Program H β
  | .done a, f => f a
  | .stop cause, _ => .stop cause
  | .wait length signals next, f => .wait length signals fun wake => (next wake).bind f
  | .ask request next, f => .ask request fun answer => (next answer).bind f

instance : Monad (Program H) where
  pure := .done
  bind := bind

/-! ## Requests as programs -/

def now : Program H Instant := .ask .now .done
def wallClock : Program H Timestamp := .ask .wallClock .done
def status (signal : Signal) : Program H (Option Cancellation) := .ask (.status signal) .done
def openScope : Program H Scope := .ask .openScope .done
def cancel (scope : Scope) : Program H Unit := .ask (.cancel scope) .done
def cancelAt (scope : Scope) (time : Instant) : Program H Unit := .ask (.cancelAt scope time) .done
def entropy : Program H (List UInt8) := .ask .entropy .done
def log (level : LogLevel) (text : String) : Program H Unit := .ask (.log ⟨level, text⟩) .done
def record (event : Event H.Note) : Program H Unit := .ask (.record event) .done
def note (n : H.Note) : Program H Unit := record (.note n)
def connect (store : String) : Program H Connection := .ask (.connect store) .done
def openLease (c : Connection) : Program H Lease := .ask (.openLease c) .done
def endLease (lease : Lease) : Program H (Option Connection) := .ask (.endLease lease) .done
def leaseEnded (lease : Lease) : Program H Bool := .ask (.leaseEnded lease) .done
def borrow (lease : Lease) : Program H (Option Connection) := .ask (.borrow lease) .done
def leaveUnread (c : Connection) (error : DriverFailure) : Program H Unit :=
  .ask (.leaveUnread c error) .done
def takeUnread (c : Connection) : Program H (Option DriverFailure) := .ask (.takeUnread c) .done
def get : Program H H.State := .ask .get .done
def set (state : H.State) : Program H Unit := .ask (.set state) .done

/-- Changes the host's state and answers with what the change yields. -/
def modifyGet (f : H.State → β × H.State) : Program H β := do
  let (b, state) := f (← get)
  set state
  return b

def panic (message : String) : Program H α := .stop (.panic message)

/-- The longest time that a sleep takes: thirty years of 365 days. -/
def longestSleep : Duration := .ofSeconds 946080000

/-- Lets time pass, though never more than `longestSleep` at once. -/
def sleep (length : Duration) : Program H Unit :=
  .wait (length.atMost longestSleep) [] fun
    | .dropped => .stop .dropped
    | _ => .done ()

/-- The value of `p`, or the message with which it panicked. -/
def catchPanic : Program H α → Program H (Except String α)
  | .done a => .done (.ok a)
  | .stop (.panic message) => .done (.error message)
  | .stop .dropped => .stop .dropped
  | .wait length signals next => .wait length signals fun wake => (next wake).catchPanic
  | .ask request next => .ask request fun answer => (next answer).catchPanic

end Program

/-- What is known of a lease: its connection until it ends, and whether it has ended. -/
structure Holding where
  connection : Option Connection
  ended : Bool := false
  deriving DecidableEq, Repr

/-- What programs are run in. -/
structure State (H : Host) where
  timeline : Timeline := {}
  /-- The wall-clock time at instant 0. -/
  epoch : Timestamp := ⟨0⟩
  /-- The unguessable bytes still to be handed out, by number. -/
  entropy : Nat → List UInt8 := fun _ => []
  /-- How many times they were handed out. -/
  drawn : Nat := 0
  connections : List Connection := []
  unread : List (Connection × DriverFailure) := []
  /-- The leases given so far; they are numbered from 0. -/
  holdings : List Holding := []
  logs : List LogRecord := []
  trace : Trace H.Note := []
  host : H.State

/-- The connection of a lease that has not ended. -/
def State.connectionOf {H : Host} (s : State H) (lease : Lease) : Option Connection :=
  s.holdings[lease.id]?.bind (·.connection)

/-- Answers a request. -/
def Request.perform {H : Host} (s : State H) : (r : Request H) → r.Answer × State H
  | .now => (s.timeline.now, s)
  | .wallClock => (s.epoch.after s.timeline.now, s)
  | .status signal => (s.timeline.status signal, s)
  | .openScope =>
    let (scope, timeline) := s.timeline.openScope
    (scope, { s with timeline })
  | .cancel scope => ((), { s with timeline := s.timeline.cancel scope })
  | .cancelAt scope time => ((), { s with timeline := s.timeline.cancelAt scope time })
  | .entropy => (s.entropy s.drawn, { s with drawn := s.drawn + 1 })
  | .log entry => ((), { s with logs := s.logs ++ [entry] })
  | .record event => ((), { s with trace := s.trace ++ [(s.timeline.now, event)] })
  | .connect store =>
    let c : Connection := ⟨store, (s.connections.filter (·.store == store)).length + 1⟩
    (c, { s with
      connections := c :: s.connections
      trace := s.trace ++ [(s.timeline.now, .opened c)] })
  | .openLease c => (⟨s.holdings.length⟩, { s with holdings := s.holdings ++ [⟨some c, false⟩] })
  | .endLease lease =>
    (s.connectionOf lease, { s with holdings := s.holdings.set lease.id ⟨none, true⟩ })
  | .leaseEnded lease => (s.holdings[lease.id]?.any (·.ended), s)
  | .borrow lease => (s.connectionOf lease, s)
  | .leaveUnread c error => ((), { s with unread := (c, error) :: s.unread })
  | .takeUnread c =>
    ((s.unread.find? (·.1 == c)).map (·.2), { s with unread := s.unread.filter (·.1 != c) })
  | .get => (s.host, s)
  | .set state => ((), { s with host := state })

/-- What a program ends with, and the surroundings it leaves. -/
def Program.run {H : Host} {α : Type} : Program H α → State H → Except Stop α × State H
  | .done a, s => (.ok a, s)
  | .stop cause, s => (.error cause, s)
  | .wait length signals next, s =>
    let (wake, timeline) := s.timeline.wait length signals
    (next wake).run { s with timeline }
  | .ask request next, s =>
    let (answer, s) := request.perform s
    (next answer).run s

/-- A program that may fail: what units of work and stores are. -/
abbrev Work (H : Host) (α : Type) := ExceptT Failure (Program H) α

/-- A program that does not fail. -/
def Work.lift {H : Host} {α : Type} (p : Program H α) : Work H α := ExceptT.lift p

end SessionKeeper
