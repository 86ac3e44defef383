import SessionKeeper.Rehearsal.Stage
import SessionKeeper.Text.Blank

/-!
The journal of a rehearsal: the part of its trace that concerns stores and units of work, each entry
with the statements that stood on the list of its connection at the time.
-/

namespace SessionKeeper.Rehearsal

/-- What was seen of an active transaction. -/
structure Sight where
  mode : Mode
  attempt : Nat
  finished : Bool
  /-- The serial number of the connection and the statements on its list. -/
  connection : Except Failure (Nat × List String)

inductive Happening (V : Type) where
  | start (mode : Mode)
  | commit (serial : Nat) (statements : List String)
  | rollback (serial : Nat) (statements : List String)
  | prepare (serial : Nat)
  | restart (serial restarts : Nat) (failure : Failure)
  | work (reason : Option Cancellation)
  | probe (sight : Option Sight)
  | called (value : V)
  | caught (result : Except Failure V)

structure Entered (V : Type) where
  time : Instant
  store : String
  happening : Happening V

/-- The statements on the list of each connection, the latest first. -/
abbrev Lists := List (Connection × String)

namespace Lists

def of (lists : Lists) (c : Connection) : List String :=
  (lists.filterMap fun (owner, text) => if owner = c then some text else none).reverse

def clear (lists : Lists) (c : Connection) : Lists := lists.filter (·.1 != c)

end Lists

variable {V : Type}

/-- What an event adds to the journal, and the lists after it. -/
def happening (lists : Lists) : Event (Note V) → Option (String × Happening V) × Lists
  | .requested store mode => (some (store, .start mode), lists)
  | .committing c => (some (c.store, .commit c.serial (lists.of c)), lists)
  | .rollingBack c => (some (c.store, .rollback c.serial (lists.of c)), lists)
  | .preparing c => (some (c.store, .prepare c.serial), lists)
  | .restarting c restarts failure => (some (c.store, .restart c.serial restarts failure), lists)
  | .stated c text => (none, (c, text) :: lists)
  | .cleared c => (none, lists.clear c)
  | .note (.invoked store reason) => (some (store, .work reason), lists)
  | .note (.probed store found) =>
    let sight := found.map fun (handle, finished, connection) =>
      ⟨handle.mode, handle.attempt, finished, connection.map fun c => (c.serial, lists.of c)⟩
    (some (store, .probe sight), lists)
  | .note (.called store value) => (some (store, .called value), lists)
  | .note (.caught store result) => (some (store, .caught result), lists)
  | _ => (none, lists)

/-- The journal of a trace that starts with the given lists. -/
def journal (lists : Lists) : Trace (Note V) → List (Entered V)
  | [] => []
  | (time, event) :: rest =>
    match happening lists event with
    | (some (store, h), lists) => ⟨time, store, h⟩ :: journal lists rest
    | (none, lists) => journal lists rest

/-- The lists after a trace. -/
def listsAfter (lists : Lists) (trace : Trace (Note V)) : Lists :=
  trace.foldl (fun lists (_, event) => (happening lists event).2) lists

/-- The calls of attempts in a trace: when, and which. -/
def attempts (trace : Trace (Note V)) : List (Instant × Nat) :=
  trace.filterMap fun
    | (time, .note (.attempt n)) => some (time, n)
    | _ => none

/-- The statements that servers executed in a trace, each blank in them one space. -/
def executed (trace : Trace (Note V)) : List Statement :=
  trace.filterMap fun
    | (_, .executed _ statement _) => some { statement with text := Text.collapse statement.text }
    | _ => none

end SessionKeeper.Rehearsal
