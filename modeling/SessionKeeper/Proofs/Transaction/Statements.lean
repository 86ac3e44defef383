import SessionKeeper.Proofs.Transaction.Course

/-!
The lists of statements that connections keep, as the trace of a run tells of them. Units of work
add to the list of the active connection, and a store may empty it when it starts over; nothing else
changes a list.

`statements c` is what stands on the list of `c` after a trace: the events about the list of `c` in
their order, where emptying it forgets those before. `Store.Tidy` says that a store that starts over
has emptied the list, as one does that rewinds a transaction to a savepoint at its very beginning.
-/

namespace SessionKeeper

namespace Event

variable {N : Type}

/-- The statement that an event puts on the list of `c`. -/
def statement? (c : Connection) : Event N → Option String
  | .stated d text => if d = c then some text else none
  | _ => none

/-- The list of `c` after an event. -/
def list (c : Connection) (list : List String) : Event N → List String
  | .stated d text => if d = c then list ++ [text] else list
  | .cleared d => if d = c then [] else list
  | _ => list

theorem Aside.statement? {c : Connection} {e : Event N} (h : e.Aside) : e.statement? c = none := by
  cases e <;> first | rfl | exact h.elim

end Event

variable {N : Type} {c : Connection} {trace later : Trace N}

/-- The list of statements that `c` keeps after a trace. -/
def statements (c : Connection) (trace : Trace N) : List String :=
  trace.foldl (fun list e => e.2.list c list) []

/-- The statements that were put on the list of `c` in a trace, in order. -/
def stated (c : Connection) (trace : Trace N) : List String :=
  trace.filterMap fun e => e.2.statement? c

/-- A store that starts over has emptied the list of the connection before. -/
def Store.Tidy {H : Host} (store : Store H) : Prop :=
  ∀ mode c failure n s s', (store.restart mode c failure n).run.run s = (.ok (.ok true), s') →
    statements c s'.trace = []

end SessionKeeper
