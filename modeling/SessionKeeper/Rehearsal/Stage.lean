import SessionKeeper.Transaction.Handle

/-!
Rehearsals: stores, servers and units of work that play prepared parts, so that everything here can
be run and looked at without a database.

The stage is what the players share: the parts not yet played, the contexts they put aside, and whom
to cancel when a part says so.
-/

namespace SessionKeeper.Rehearsal

/-- How one call of a primitive turns out: it takes a while, cancels the rehearsal's context, and
fails, each if the part says so, in this order. -/
structure Outcome where
  sleep : Option Duration := none
  cancel : Bool := false
  failure : Option Failure := none
  /-- Whether a store that is asked to start over does so. -/
  again : Bool := false

/-- The primitives of a store that have parts to play. -/
inductive Cue where
  | start
  | prepare
  | restart
  | commit
  | rollback
  deriving DecidableEq, Repr

/-- A reply prepared for a statement. -/
structure PreparedReply where
  rows : List (List Datum) := []
  affected : Option Nat := none
  failure : Option DriverFailure := none
  /-- Whether the context of the call is canceled before the reply is sent. -/
  cancel : Bool := false

/-- The replies to statements that contain a text, in order. -/
structure Rule where
  pattern : String
  replies : List PreparedReply

structure Stage where
  /-- What a part cancels. -/
  handle : List Scope := []
  /-- Contexts put aside, the latest first. -/
  kept : List (String × RequestContext) := []
  /-- The parts of each store, as far as they are not played. -/
  parts : List ((String × Cue) × Outcome) := []
  /-- How often each unit of work was invoked. -/
  tallies : List Nat := []
  /-- The rules of the server, as far as they are not used up. -/
  rules : List Rule := []
  /-- The refresh token in the last statement that stored one. -/
  stored : Option Datum := none

/-- What players note down. `V` are the values of units of work. -/
inductive Note (V : Type) where
  /-- Attempt `n` was called. -/
  | attempt (n : Nat)
  /-- A unit of work of a store was invoked, with a context that is done or not. -/
  | invoked (store : String) (reason : Option Cancellation)
  /-- The active transaction was looked at: its handle, whether it is over, and its connection. -/
  | probed (store : String) (found : Option (Handle × Bool × Except Failure Connection))
  /-- A call inside a unit of work gave a value. -/
  | called (store : String) (value : V)
  /-- A call inside a unit of work was answered for, whatever it gave. -/
  | caught (store : String) (result : Except Failure V)

/-- The host of rehearsals. -/
@[reducible] def host (V : Type) : Host := ⟨Stage, Note V⟩

variable {V : Type}

/-- A context put aside under a name, or `ctx` if there is none. -/
def Stage.recall (stage : Stage) (name : Option String) (ctx : RequestContext) : RequestContext :=
  match name with
  | none => ctx
  | some name => ((stage.kept.find? (·.1 == name)).map (·.2)).getD ctx

/-- The next part of a list whose first component is `key`, and the list without it. -/
def takeFirst {K A : Type} [BEq K] (key : K) : List (K × A) → Option A × List (K × A)
  | [] => (none, [])
  | (k, a) :: rest =>
    if k == key then (some a, rest)
    else
      let (found, rest) := takeFirst key rest
      (found, (k, a) :: rest)

/-- The next part for a cue of a store; without one the call succeeds at once. -/
def nextPart (store : String) (cue : Cue) : Program (host V) Outcome :=
  .modifyGet fun (stage : Stage) =>
    let (part, parts) := takeFirst (store, cue) stage.parts
    (part.getD {}, { stage with parts })

/-- Plays a part. -/
def play (part : Outcome) : Work (host V) Unit := ExceptT.mk do
  if let some length := part.sleep then .sleep length
  if part.cancel then (← .get : Stage).handle.forM .cancel
  match part.failure with
  | some failure => return .error failure
  | none => return .ok ()

/-- Puts a context aside. -/
def keep (name : String) (ctx : RequestContext) : Program (host V) Unit := do
  let stage : Stage ← .get
  .set { stage with kept := (name, ctx) :: stage.kept }

/-- A count of its own, for one unit of work. -/
def openTally : Program (host V) Nat :=
  .modifyGet fun (stage : Stage) =>
    (stage.tallies.length, { stage with tallies := stage.tallies ++ [0] })

/-- Counts one more; gives the count before. -/
def countUp (tally : Nat) : Program (host V) Nat :=
  .modifyGet fun (stage : Stage) =>
    let n := stage.tallies.getD tally 0
    (n, { stage with tallies := stage.tallies.set tally (n + 1) })

/-- The context that a rehearsal is given. -/
structure Opening where
  timeout : Option Duration := none
  canceled : Bool := false
  cancelAt : Option Instant := none

/-- Makes the context, and notes its scope as the one that parts cancel. -/
def Opening.context (o : Opening) : Program (host V) RequestContext := do
  let (ctx, scope) ← (Context.background : RequestContext).withCancel
  let stage : Stage ← .get
  .set { stage with handle := [scope] }
  if o.canceled then .cancel scope
  if let some time := o.cancelAt then .cancelAt scope time
  match o.timeout with
  | none => return ctx
  | some length => ctx.withTimeout length

end SessionKeeper.Rehearsal
