import SessionKeeper.Proofs.Program.Passage
import SessionKeeper.Proofs.Sql.Executor

/-!
Where the statements of calls go, and what the calls are answered. The five operations of an
executor differ in what they read of the answer to their statement, and in nothing else
(`Executor.perform_eq_query`), so each turns out in one of the ways in which a statement can
(`Executor.AnswersTo`). Outside any transaction the statements go to the pool. In a transaction they
go to its connection as long as it lasts, and nowhere from then on, whatever is run between the
calls (`Database.calls_routed`).

Correspondence: `resolve` ↔ `Database.executor`; `execute`, `fetch_one`, `fetch_optional`,
`fetch_all` and `ping` ↔ the constructors of `Executor.Call`.

`Database.Routes` gathers what is said of a list of calls with programs between them. It is shown
for every context, all calls, and any surroundings.
-/

namespace SessionKeeper

variable {H : Host} {α : Type}

/-! ## The operations -/

namespace Executor

/-- A call of an executor. -/
inductive Call : Type → Type 1
  | execute (statement : Statement) : Call Nat
  | fetchOne {α : Type} (statement : Statement) (row : List Datum → Except DriverFailure α) : Call α
  | fetchOptional {α : Type} (statement : Statement) (row : List Datum → Except DriverFailure α) :
      Call (Option α)
  | fetchAll {α : Type} (statement : Statement) (row : List Datum → Except DriverFailure α) :
      Call (List α)
  | ping : Call Unit

/-- The statement that a call asks for. -/
def Call.statement : Call α → Statement
  | .execute statement => statement
  | .fetchOne statement _ => statement
  | .fetchOptional statement _ => statement
  | .fetchAll statement _ => statement
  | .ping => ⟨"SELECT 1", []⟩

/-- What is read of the answer to a statement that has to have a row. -/
def readOne (row : List Datum → Except DriverFailure α) (answer : Answer) :
    Except DriverFailure α :=
  match answer.rows with
  | [] => .error ⟨.rowNotFound, []⟩
  | first :: _ => row first

/-- What a call reads of the answer to its statement. -/
def Call.read : Call α → Answer → Except DriverFailure α
  | .execute _, answer => .ok answer.affected
  | .fetchOne _ row, answer => readOne row answer
  | .fetchOptional _ row, answer => readOptional row answer
  | .fetchAll _ row, answer => answer.rows.mapM row
  | .ping, _ => .ok ()

/-- Makes a call. -/
def perform (e : Executor H) : Call α → Work H α
  | .execute statement => e.execute statement
  | .fetchOne statement row => e.fetchOne statement row
  | .fetchOptional statement row => e.fetchOptional statement row
  | .fetchAll statement row => e.fetchAll statement row
  | .ping => e.ping

theorem perform_eq_query (e : Executor H) (call : Call α) :
    e.perform call = e.query call.statement call.read := by
  cases call <;> rfl

end Executor

/-! ## Sequences of calls -/

/-- The statement that an event sends, and where to. -/
def Event.sending? {N : Type} : Event N → Option (Option Connection × Statement)
  | .executed connection statement _ => some (connection, statement)
  | _ => none

/-- A call that was made in `before` and left `after`. -/
structure Called (H : Host) where
  {Value : Type}
  call : Executor.Call Value
  before : State H
  outcome : Except Stop (Except Failure Value)
  after : State H

/-- The statements that were sent in the course of a call, and where to. -/
def Called.sent (called : Called H) : List (Option Connection × Statement) :=
  (called.after.trace.drop called.before.trace.length).filterMap fun e => e.2.sending?

theorem Called.sent_of_trace {called : Called H} {added : Trace H.Note}
    (trace : called.after.trace = called.before.trace ++ added) :
    called.sent = added.filterMap fun e => e.2.sending? := by
  rw [sent, trace, List.drop_left]

namespace Executor

/-- A call that is to be made, and what is run before it. -/
structure Turn (H : Host) where
  {Meanwhile : Type}
  {Value : Type}
  meanwhile : Program H Meanwhile
  call : Call Value

/-- Making a call in `s`. -/
def made (e : Executor H) (call : Call α) (s : State H) : Called H :=
  let ran := (e.perform call).run.run s
  ⟨call, s, ran.1, ran.2⟩

/-- Making calls one after the other from `s` on. -/
def calls (e : Executor H) (s : State H) : List (Turn H) → List (Called H)
  | [] => []
  | turn :: rest =>
    let called := e.made turn.call (turn.meanwhile.run s).2
    called :: e.calls called.after rest

/-- What a call is answered is told by its statement. -/
theorem made_answersTo (e : Executor H) (call : Call α) (s : State H) : ∃ answer,
    (e.made call s).outcome = .ok answer ∧
      e.AnswersTo call.statement call.read s answer (e.made call s).after := by
  obtain ⟨answer, s', ran, account⟩ := e.query_run call.statement call.read s
  rw [← perform_eq_query] at ran
  have after : (e.made call s).after = s' := congrArg Prod.snd ran
  exact ⟨answer, congrArg Prod.fst ran, after ▸ account⟩

theorem route_of_sent {e : Executor H} {call : Call α} {s : State H}
    {sent : Option Connection × Statement} (mem : sent ∈ (e.made call s).sent) :
    ∃ connection, e.route s = some connection ∧ sent = (connection, call.statement) := by
  obtain ⟨answer, -, account⟩ := e.made_answersTo call s
  rcases account.recorded with nothing | ⟨connection, reply, route, executed⟩
  · rw [Called.sent_of_trace (nothing.trans (List.append_nil _).symm)] at mem
    cases mem
  · rw [Called.sent_of_trace executed] at mem
    exact ⟨connection, route, List.mem_singleton.mp mem⟩

/-- What holds of each call that is made where `P` holds, which no program undoes, holds of each of
a sequence of calls. -/
theorem calls_all {e : Executor H} {P : State H → Prop} {Q : Called H → Prop}
    (kept : ∀ {β : Type} (p : Program H β) (s : State H), P s → P (p.run s).2)
    (each : ∀ {β : Type} (call : Call β) (s : State H), P s → Q (e.made call s)) (s : State H)
    (turns : List (Turn H)) (start : P s) : ∀ called ∈ e.calls s turns, Q called := by
  induction turns generalizing s with
  | nil => exact List.forall_mem_nil Q
  | cons turn rest ih =>
    have before := kept turn.meanwhile s start
    exact List.forall_mem_cons.mpr ⟨each _ _ before, ih _ (kept _ _ before)⟩

/-- What holds of each call holds of each of a sequence of calls. -/
theorem calls_each {e : Executor H} {Q : Called H → Prop}
    (each : ∀ {β : Type} (call : Call β) (s : State H), Q (e.made call s)) (s : State H)
    (turns : List (Turn H)) : ∀ called ∈ e.calls s turns, Q called :=
  calls_all (P := fun _ => True) (fun _ _ _ => trivial) (fun call s _ => each call s) s turns
    trivial

end Executor

/-- Where the statements of calls under `ctx` went that were made from `s` on, and what the calls
were answered. -/
structure Database.Routes (db : Database H) (ctx : RequestContext) (s : State H)
    (calls : List (Called H)) : Prop where
  /-- Every call was answered, in one of the ways in which a call can turn out. -/
  answered : ∀ called ∈ calls, ∃ answer, called.outcome = .ok answer ∧
    (db.executor ctx).AnswersTo called.call.statement called.call.read called.before answer
      called.after
  /-- A call under a done context was canceled for that reason and touched nothing. -/
  canceled : ∀ called ∈ calls, ∀ reason,
    called.before.timeline.status ctx.signal = some reason →
      called.outcome = .ok (.error (.canceled reason)) ∧ called.after = called.before
  /-- Outside any transaction statements went to the pool, -/
  pool : ctx.active? db.store.channel = none → ∀ called ∈ calls, ∀ sent ∈ called.sent,
    sent = (none, called.call.statement)
  /-- and in a transaction to the connection that its lease led to at the time. -/
  transaction : ∀ handle, ctx.active? db.store.channel = some handle → ∀ called ∈ calls,
    ∀ sent ∈ called.sent, ∃ c, called.before.connectionOf handle.lease = some c ∧
      sent = (some c, called.call.statement)
  /-- That is the same connection all along, -/
  connection : ∀ handle c, ctx.active? db.store.channel = some handle →
    s.Connected handle.lease c → ∀ called ∈ calls, ∀ sent ∈ called.sent,
      sent = (some c, called.call.statement)
  /-- until the transaction is over. -/
  ended : ∀ handle, ctx.active? db.store.channel = some handle → ∀ called ∈ calls,
    called.before.Ended handle.lease → called.sent = []

/-- Statements go where the context says, in whatever order calls are made and whatever is run
between them: to the pool if no transaction of the database is bound in it, otherwise to the
connection of the transaction that is, and to nowhere once that is over. They go there only while
the context is live, and then the call is answered with the reply, unless the context is done by the
time of it. It makes no difference which operation asks for the statement. -/
theorem Database.calls_routed (db : Database H) (ctx : RequestContext) (s : State H)
    (turns : List (Executor.Turn H)) : db.Routes ctx s ((db.executor ctx).calls s turns) where
  answered := Executor.calls_each (fun call s => Executor.made_answersTo _ call s) s turns
  canceled := by
    refine Executor.calls_each (fun call s reason done => ?_) s turns
    have ran : ((db.executor ctx).perform call).run.run s =
        (.ok (.error (.canceled reason)), s) := by
      rw [Executor.perform_eq_query]
      exact Executor.query_run_of_done done
    exact ⟨congrArg Prod.fst ran, congrArg Prod.snd ran⟩
  pool free := by
    refine Executor.calls_each (fun call s sent mem => ?_) s turns
    obtain ⟨connection, route, rfl⟩ := Executor.route_of_sent mem
    rw [Executor.route_of_pool free] at route
    cases route
    rfl
  transaction handle active := by
    refine Executor.calls_each (fun call s sent mem => ?_) s turns
    obtain ⟨connection, route, rfl⟩ := Executor.route_of_sent mem
    rw [Executor.route_of_handle active] at route
    obtain ⟨c, lease, rfl⟩ := Option.map_eq_some_iff.mp route
    exact ⟨c, lease, rfl⟩
  connection handle c active connected := by
    -- No program gives the connection of a lease to another one, it can only end the lease.
    refine Executor.calls_all (P := fun s => s.Connected handle.lease c ∨ s.Ended handle.lease)
      ?_ (fun call s lasting sent mem => ?_) s turns (.inl connected)
    · intro β p s lasting
      rcases lasting with connected | ended
      · exact (Program.Passes.of_run (Prod.eta (p.run s)).symm).connected connected
      · exact .inr ((p.run_later s).ended _ ended)
    · obtain ⟨connection, route, rfl⟩ := Executor.route_of_sent mem
      rw [Executor.route_of_handle active] at route
      rcases lasting with connected | ended
      · rw [connected.connectionOf_eq_some] at route
        cases route
        rfl
      · rw [ended.connectionOf_eq_none] at route
        cases route
  ended handle active := by
    refine Executor.calls_each (fun call s => ?_) s turns
    intro (ended : s.Ended handle.lease)
    refine List.eq_nil_iff_forall_not_mem.mpr fun sent mem => ?_
    obtain ⟨connection, route, -⟩ := Executor.route_of_sent mem
    rw [Executor.route_of_handle active, ended.connectionOf_eq_none] at route
    cases route

/-- Two statements of a transaction and one after the end of it, then three on the pool. The server
takes a second for each, and of those on the pool the second is given up halfway: the context is
canceled while its reply is on the way. -/
theorem Database.calls_routed_canceled :
    let server : Server ⟨Nat, Unit⟩ := ⟨fun _ _ n =>
      (⟨.ok { affected := n }, .ofSeconds 1, if n = 3 then [⟨0⟩] else []⟩, n + 1)⟩
    let db := Postgres.database server .single none
    let c : Connection := ⟨"postgres", 1⟩
    let ctx : RequestContext := Context.within .background ⟨0⟩
    let bound := ctx.bind db.store.channel ⟨⟨0⟩, .readWrite, 1⟩
    let insert : Statement := ⟨"INSERT", []⟩
    let select : Statement := ⟨"SELECT 1", []⟩
    let s : State ⟨Nat, Unit⟩ := { host := 0, holdings := [⟨some c, false⟩] }
    let inside := (db.executor bound).calls s
      [⟨.now, .execute insert⟩, ⟨.now, .ping⟩, ⟨.endLease ⟨0⟩, .ping⟩]
    let outside := (db.executor ctx).calls { s with host := 2 }
      [⟨.now, .execute insert⟩, ⟨.now, .ping⟩, ⟨.now, .ping⟩]
    db.Routes bound s inside ∧ db.Routes ctx { s with host := 2 } outside ∧
      inside.map (·.sent) = [[(some c, insert)], [(some c, select)], []] ∧
      outside.map (·.sent) = [[(none, insert)], [(none, select)], []] ∧
      outside.map (·.after.timeline.status ctx.signal) =
        [none, some .canceled, some .canceled] := by
  intro server db c ctx bound insert select s inside outside
  exact ⟨db.calls_routed bound s _, db.calls_routed ctx _ _, by decide +kernel, by decide +kernel,
    by decide +kernel⟩

end SessionKeeper
