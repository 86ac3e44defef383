import SessionKeeper.Rehearsal.Stage
import SessionKeeper.Transaction.Entry

/-!
Stores and units of work that play parts.

A script of a unit of work is a list of runs; the n-th invocation plays the n-th of them, and the
last one over and over. What a unit of work does on a connection is put on the list of statements of
that connection, and everything it sees is noted down.
-/

namespace SessionKeeper.Rehearsal

/-- A store that plays parts. -/
structure Player where
  name : String
  channel : Channel := ⟨0⟩
  readOnly : Bool := false
  retries : Failure → Bool
  policy : Mode → RetryPolicy
  restartLimit : Nat := 0
  restartUnit : Duration := .zero

variable {V : Type}

/-- Plays the next part of a store. -/
def Player.act (p : Player) (cue : Cue) : Work (host V) Unit := ExceptT.mk do
  (play (← nextPart p.name cue)).run

/-- Starts over if the next part says so; then the list of the connection is cleared. -/
def Player.restart (p : Player) (connection : Connection) : Work (host V) Bool := ExceptT.mk do
  let part ← nextPart p.name .restart
  match ← (play part).run with
  | .error failure => return .error failure
  | .ok () =>
    if part.again then .record (.cleared connection)
    return .ok part.again

def Player.store (p : Player) : Store (host V) where
  name := p.name
  channel := p.channel
  readOnly := p.readOnly
  retries := p.retries
  policy := p.policy
  start := fun _ => ExceptT.mk do
    match ← (p.act .start).run with
    | .error failure => return .error failure
    | .ok () => return .ok (← .connect p.name)
  commit := fun _ => p.act .commit
  rollback := fun _ => p.act .rollback
  prepare := fun _ _ => p.act .prepare
  restart := fun _ connection _ _ => p.restart connection
  restartLimit := p.restartLimit
  restartPause := p.restartUnit.scale

/-- How a call asks for a transaction. -/
inductive Entry where
  | readWrite
  | readOnly
  /-- One attempt with a number, outside any policy. -/
  | attempt (mode : Mode) (n : Nat)

/-- How a run ends. -/
inductive Close (V : Type) where
  | value (v : V)
  | failure (f : Failure)
  | panic (message : String)

mutual

/-- Something that a run does. `store` names the store whose channel counts, unless it is that of
the call; `kept` names a context put aside, which is used instead of the current one. -/
inductive Action (V : Type) where
  | statement (store kept : Option String) (text : String)
  | probe (store kept : Option String)
  | sleep (length : Duration)
  /-- Waits, unless the context is done before. -/
  | wait (kept : Option String) (length : Duration)
  | cancel
  | withTimeout (length : Duration)
  | withCancel
  | keep (name : String)
  | call (kept : Option String) (inner : Call V)
  /-- A call whose failure is noted down and goes no further. -/
  | attempt (kept : Option String) (inner : Call V)

inductive Run (V : Type) where
  | mk (actions : List (Action V)) (close : Close V)

inductive Call (V : Type) where
  | mk (store : String) (entry : Entry) (work : List (Run V))

end

/-- The store with a name. -/
abbrev Cast (V : Type) := String → Store (host V)

/-- Runs a unit of work in a transaction, as `entry` asks for it. -/
def enter (store : Store (host V)) (entry : Entry) (ctx : RequestContext)
    (work : UnitOfWork (host V) V) : Work (host V) V :=
  match entry with
  | .readWrite => store.readWrite ctx work
  | .readOnly => store.readOnlyTransaction ctx work
  | .attempt mode n => store.attempt ctx mode work n

/-- The unit of work whose n-th invocation is the n-th of `runs`, or the last. -/
def invoke (store : String) (tally : Nat) (runs : List (UnitOfWork (host V) V)) (idle : V) :
    UnitOfWork (host V) V := fun ctx => ExceptT.mk do
  let n ← countUp tally
  .note (.invoked store (← ctx.status))
  match runs[min n (runs.length - 1)]? with
  | some run => (run ctx).run
  | none => return .ok idle

/-- Puts a statement on the list of the active connection. -/
def putStatement (channel : Channel) (ctx : RequestContext) (text : String) : Work (host V) Unit :=
  match ctx.active? channel with
  | none => throw (.notFound "no transaction bound")
  | some handle => ExceptT.mk do
    match ← handle.lock.run with
    | .error failure => return .error failure
    | .ok connection =>
      .record (.stated connection text)
      return .ok ()

/-- Notes down what can be seen of the active transaction. -/
def probeActive (store : String) (channel : Channel) (ctx : RequestContext) :
    Program (host V) Unit := do
  match ctx.active? channel with
  | none => .note (.probed store none)
  | some handle =>
    let finished ← handle.isFinished
    .note (.probed store (some (handle, finished, ← handle.lock.run)))

mutual

/-- Does one action; gives the context for those that follow. -/
def Action.perform (cast : Cast V) (idle : V) (owner : String) (ctx : RequestContext) :
    Action V → Work (host V) RequestContext
  | .statement store kept text => do
    let stage : Stage ← Work.lift .get
    putStatement (cast (store.getD owner)).channel (stage.recall kept ctx) text
    return ctx
  | .probe store kept => do
    let stage : Stage ← Work.lift .get
    let store := store.getD owner
    Work.lift (probeActive store (cast store).channel (stage.recall kept ctx))
    return ctx
  | .sleep length => do
    Work.lift (.sleep length)
    return ctx
  | .wait kept length => do
    let stage : Stage ← Work.lift .get
    (stage.recall kept ctx).run (.sleep length)
    return ctx
  | .cancel => do
    let stage : Stage ← Work.lift .get
    Work.lift (stage.handle.forM .cancel)
    return ctx
  | .withTimeout length => Work.lift (ctx.withTimeout length)
  | .withCancel => do
    let (inner, _) ← Work.lift ctx.withCancel
    return inner
  | .keep name => do
    Work.lift (Rehearsal.keep name ctx)
    return ctx
  | .call kept inner => do
    let stage : Stage ← Work.lift .get
    let value ← inner.perform cast idle (stage.recall kept ctx)
    Work.lift (.note (.called owner value))
    return ctx
  | .attempt kept inner => do
    let stage : Stage ← Work.lift .get
    let result ← Work.lift (inner.perform cast idle (stage.recall kept ctx)).run
    Work.lift (.note (.caught owner result))
    return ctx

def performAll (cast : Cast V) (idle : V) (owner : String) (ctx : RequestContext) :
    List (Action V) → Work (host V) Unit
  | [] => pure ()
  | action :: rest => do
    let ctx ← action.perform cast idle owner ctx
    performAll cast idle owner ctx rest

/-- One run of a unit of work. -/
def Run.perform (cast : Cast V) (idle : V) (owner : String) : Run V → UnitOfWork (host V) V
  | .mk actions close => fun ctx => do
    performAll cast idle owner ctx actions
    match close with
    | .value v => return v
    | .failure failure => throw failure
    | .panic message => Work.lift (.panic message)

def runAll (cast : Cast V) (idle : V) (owner : String) : List (Run V) → List (UnitOfWork (host V) V)
  | [] => []
  | run :: rest => run.perform cast idle owner :: runAll cast idle owner rest

/-- A call, with a count of its own for its unit of work. -/
def Call.perform (cast : Cast V) (idle : V) (ctx : RequestContext) : Call V → Work (host V) V
  | .mk store entry work => do
    let tally ← Work.lift openTally
    enter (cast store) entry ctx (invoke store tally (runAll cast idle store work) idle)

end

end SessionKeeper.Rehearsal
