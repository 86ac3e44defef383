import SessionKeeper.Proofs.Rehearsal.Players
import SessionKeeper.Proofs.Sql.Executor

/-!
No handle outlives its attempt. When an attempt ends its lease does, and a lease that has ended
stays so, whatever happens afterwards. Whoever kept the handle, or a context in which it is still
bound, then fails without touching anything: he gets no connection, his calls start nothing, and his
statements are sent nowhere, least of all on the pool.

`Handle.Expired` lists what can be tried with a handle and what comes of it: `lock`, calls in either
mode, and the operations of an executor. It holds of the handle of an attempt however the attempt
turned out, panics included, after any program that runs later (`no_handle_outlives_attempt`).

Correspondence: `lock` ↔ `Handle.lock`, `release` ↔ `Handle.release`; the guard of `transact` for a
context that outlived its transaction is its first branch.
-/

namespace SessionKeeper

variable {H : Host} {α : Type}

namespace State.Ended

variable {s : State H} {lease : Lease}

theorem run_leaseEnded (ended : s.Ended lease) :
    (Program.leaseEnded lease).run s = (.ok true, s) := by
  rw [Program.run_leaseEnded, show s.holdings[lease.id]? = some ⟨none, true⟩ from ended]
  rfl

end State.Ended

namespace Executor

/-- The operations of an executor. -/
inductive Operation (e : Executor H) : {α : Type} → Work H α → Prop
  | execute (statement : Statement) : Operation e (e.execute statement)
  | fetchOne {α : Type} (statement : Statement) (row : List Datum → Except DriverFailure α) :
      Operation e (e.fetchOne statement row)
  | fetchOptional {α : Type} (statement : Statement) (row : List Datum → Except DriverFailure α) :
      Operation e (e.fetchOptional statement row)
  | fetchAll {α : Type} (statement : Statement) (row : List Datum → Except DriverFailure α) :
      Operation e (e.fetchAll statement row)
  | ping : Operation e e.ping

theorem Operation.eq_query {e : Executor H} {w : Work H α} (h : e.Operation w) :
    ∃ statement read, w = e.query statement read := by
  cases h <;> exact ⟨_, _, rfl⟩

end Executor

/-- Whoever has the handle in `s`, or a context in which it is the active transaction of the
channel, can do nothing with it. -/
structure Handle.Expired (handle : Handle) (channel : Channel) (s : State H) : Prop where
  isFinished : handle.isFinished.run s = (.ok true, s)
  lock : handle.lock.run.run s = (.ok (.error escaped), s)
  /-- A call of a store on that channel is a mistake, whatever the unit of work, and nothing comes
  of it. -/
  call : ∀ (store : Store H) (mode : Mode) (ctx : RequestContext), store.channel = channel →
    ctx.active? channel = some handle → ∃ failure, failure.kind = .misconfigured ∧
      ∀ {β : Type} (work : UnitOfWork H β),
        (store.call mode ctx work).run.run s = (.ok (.error failure), s)
  /-- Statements of a database on that channel are for the handle. -/
  routed : ∀ (db : Database H) (ctx : RequestContext), db.store.channel = channel →
    ctx.active? channel = some handle → (db.executor ctx).target = some handle
  /-- Nothing comes of a statement for the handle either. -/
  operation : ∀ {β : Type} (e : Executor H) (w : Work H β), e.target = some handle →
    e.Operation w → ∃ failure, w.run.run s = (.ok (.error failure), s) ∧
      (s.timeline.status e.context.signal = none → failure = escaped) ∧
      ∀ reason, s.timeline.status e.context.signal = some reason → failure = .canceled reason

namespace State.Ended

variable {s : State H} {handle : Handle}

theorem lock_run (ended : s.Ended handle.lease) :
    handle.lock.run.run s = (.ok (.error Handle.escaped), s) := by
  rw [Handle.run_lock, ended.connectionOf_eq_none]

/-- That the attempt is over is noticed before anything else. -/
theorem transact_run (ended : s.Ended handle.lease) {store : Store H} {mode : Mode}
    {ctx : RequestContext} (active : ctx.active? store.channel = some handle) :
    ∃ failure, failure.kind = .misconfigured ∧ ∀ {β : Type} (work : UnitOfWork H β),
      (store.transact ctx mode work).run.run s = (.ok (.error failure), s) := by
  refine ⟨.misconfigured
    "context outlived its transaction; derive from the request context instead", rfl, ?_⟩
  intro β work
  unfold Store.transact
  simp only [active, ExceptT.run_mk, Program.bind_eq_bind, Handle.isFinished]
  rw [Program.run_bind_ok ended.run_leaseEnded]
  rfl

theorem call_run (ended : s.Ended handle.lease) {store : Store H} {mode : Mode}
    {ctx : RequestContext} (active : ctx.active? store.channel = some handle) :
    ∃ failure, failure.kind = .misconfigured ∧ ∀ {β : Type} (work : UnitOfWork H β),
      (store.call mode ctx work).run.run s = (.ok (.error failure), s) := by
  cases mode with
  | readWrite => exact ended.transact_run active
  | readOnly =>
    unfold Store.call Store.readOnlyTransaction
    by_cases supported : store.readOnly = true
    · simp only [supported, if_true]
      exact ended.transact_run active
    · simp only [supported]
      exact ⟨.misconfigured s!"{store.name} backend has no read-only transactions", rfl,
        fun _ => rfl⟩

/-- A statement for the handle waits for its connection and finds none. -/
theorem query_run (ended : s.Ended handle.lease) {e : Executor H} (target : e.target = some handle)
    (statement : Statement) (read : Answer → Except DriverFailure α) :
    ∃ failure, (e.query statement read).run.run s = (.ok (.error failure), s) ∧
      (s.timeline.status e.context.signal = none → failure = Handle.escaped) ∧
      ∀ reason, s.timeline.status e.context.signal = some reason →
        failure = .canceled reason := by
  rw [Executor.query_of_handle target, Context.status,
    Program.run_bind_ok (Program.run_status s _)]
  cases hstatus : s.timeline.status e.context.signal with
  | some reason => exact ⟨_, rfl, by simp, fun _ same => by cases same; rfl⟩
  | none =>
    simp only
    rw [Program.run_bind_ok (Program.run_borrow s _), ended.connectionOf_eq_none]
    exact ⟨_, rfl, fun _ => rfl, by simp⟩

theorem expired (ended : s.Ended handle.lease) (channel : Channel) : handle.Expired channel s where
  isFinished := ended.run_leaseEnded
  lock := ended.lock_run
  call store mode ctx same active := ended.call_run (same ▸ active)
  routed db ctx same active := by
    rw [← same] at active
    exact active
  operation e w target h := by
    obtain ⟨statement, read, rfl⟩ := h.eq_query
    exact ended.query_run target statement read

end State.Ended

/-! ## The lease of an attempt -/

namespace Store

variable {store : Store H} {mode : Mode} {handle : Handle} {begun : Connection}
  {work : UnitOfWork H α} {ctx : RequestContext} {restarts n : Nat} {s s' : State H}

theorem Runs.later {r : WorkRun H α}
    (runs : store.Runs handle begun work ctx restarts s r) : s.Later r.after := by
  have started : s.Later r.before := runs.before ▸ .recorded s _
  exact started.trans (Program.later_of_run runs.ran)

theorem RoundTo.later_after {r : WorkRun H α} {ending : Ending α}
    (account : RoundTo store mode handle begun work ctx restarts s r ending s') :
    r.after.Later s' := by
  cases account with
  | panicked runs verdict => exact .refl _
  | failed runs verdict => exact .refl _
  | escaped runs verdict hlease => exact .refl _
  | unprepared runs verdict hlease ran =>
    exact (State.Later.recorded _ _).trans (Program.later_of_run ran)
  | succeeded runs verdict hlease ran =>
    exact (State.Later.recorded _ _).trans (Program.later_of_run ran)

theorem RoundTo.later {r : WorkRun H α} {ending : Ending α}
    (account : RoundTo store mode handle begun work ctx restarts s r ending s') : s.Later s' :=
  account.runs.later.trans account.later_after

theorem RestartTo.later {failure : Failure} {answer : Except Failure Bool}
    (account : RestartTo store mode handle failure restarts s answer s') : s.Later s' := by
  cases account with
  | escaped hlease => exact .refl s
  | refused hlease ran => exact (State.Later.recorded s _).trans (Program.later_of_run ran)
  | answered hlease ran => exact (State.Later.recorded s _).trans (Program.later_of_run ran)

theorem StartOverTo.later {failure : Failure} {answer : Except Failure Unit}
    (account : StartOverTo store mode handle ctx failure restarts s answer s') : s.Later s' := by
  cases account with
  | interrupted status => exact .refl s
  | unable status restart => exact restart.later
  | declined status restart => exact restart.later
  | cut status restart ran => exact restart.later.trans (Program.later_of_run ran)
  | ready status restart ran => exact restart.later.trans (Program.later_of_run ran)

theorem RoundsTo.later {rs : List (WorkRun H α)} {ending : Ending α}
    (account : RoundsTo store mode handle begun work ctx restarts s rs ending s') :
    s.Later s' := by
  induction account with
  | succeeded account => exact account.later
  | panicked account => exact account.later
  | failed account anew => exact account.later.trans anew.later
  | again account anew tos ih => exact (account.later.trans anew.later).trans ih

theorem RoundsTo.later_after {rs : List (WorkRun H α)} {ending : Ending α}
    (account : RoundsTo store mode handle begun work ctx restarts s rs ending s') :
    ∀ r ∈ rs, r.after.Later s' := by
  induction account with
  | succeeded account =>
    intro r mem
    exact List.mem_singleton.mp mem ▸ account.later_after
  | panicked account =>
    intro r mem
    exact List.mem_singleton.mp mem ▸ account.later_after
  | failed account anew =>
    intro r mem
    exact List.mem_singleton.mp mem ▸ account.later_after.trans anew.later
  | again account anew tos ih =>
    intro r mem
    rcases List.mem_cons.mp mem with rfl | mem
    · exact (account.later_after.trans anew.later).trans tos.later
    · exact ih r mem

theorem RoundsTo.exists_run {rs : List (WorkRun H α)} {ending : Ending α}
    (account : RoundsTo store mode handle begun work ctx restarts s rs ending s') :
    ∃ r, r ∈ rs := by
  cases account <;> exact ⟨_, List.mem_cons_self⟩

/-- Whatever the rounds came to, the first thing after them is the end of the lease. -/
theorem conclude_ends (given : handle.lease.id < s.holdings.length) (ending : Ending α)
    {outcome : Except Stop (Except Failure α)}
    (ran : (store.conclude handle ending).run.run s = (outcome, s')) : s'.Ended handle.lease := by
  have ended := State.ended_releasing given
  have after : ∀ {β : Type} {f : Option Connection → Program H β} {s' : State H}
      {outcome : Except Stop β}, (handle.release.bind f).run s = (outcome, s') →
      s'.Ended handle.lease := by
    intro β f s' outcome ran
    rw [Handle.release, Program.run_bind_ok (Program.run_endLease s handle.lease)] at ran
    exact (Program.later_of_run ran).ended _ ended
  cases ending with
  | succeeded value => exact after ran
  | failed failure => exact after ran
  | panicked message => exact after ran

/-- A context that was done when the rounds of a transaction were over is done in the end. -/
theorem Takes.done_of_ended {t : Transaction H α} {outcome : Except Stop (Except Failure α)}
    (takes : store.Takes ctx mode work n s t outcome s')
    (done : t.ended.timeline.status ctx.signal ≠ none) :
    s'.timeline.status ctx.signal ≠ none := by
  have answered : t.ended.Later t.answered :=
    ((State.Later.releasing t.ended _).trans (.recorded _ _)).trans
      (Program.later_of_run takes.answered)
  have closed : s'.timeline = t.answered.timeline := by
    obtain ⟨logs, rfl⟩ := takes.after
    cases t.ending with
    | succeeded value => cases t.answer <;> rfl
    | failed failure => rfl
    | panicked message => rfl
  rw [closed]
  exact fun live => done (answered.timeline.live live)

/-- The lease of an attempt that got a connection has ended when the attempt has. -/
theorem attempt_ended (lawful : store.Lawful) {c : Connection} {given : State H}
    {outcome : Except Stop (Except Failure α)}
    (obtained : (ctx.guard (store.request mode)).run.run s = (.ok (.ok c), given))
    (ran : (store.attempt ctx mode work n).run.run s = (outcome, s'))
    (completed : outcome ≠ .error .dropped) :
    s'.Ended (handleIn given mode n).lease ∧
      ∃ r : WorkRun H α, (store.attempt ctx mode work n).run.Includes s
        (work (ctx.bind store.channel (handleIn given mode n))).run r.before := by
  cases attempt_account lawful ran completed with
  | refused refused =>
    rw [obtained] at refused
    cases refused
  | begun begun rounds includes ran =>
    rw [obtained] at begun
    cases begun
    obtain ⟨r, mem⟩ := rounds.exists_run
    refine ⟨conclude_ends ?_ _ ran, r, includes r mem⟩
    have leased : given.holdings.length < (store.begunIn given c mode n).holdings.length := by
      simp [begunIn, State.logged, State.noted, State.leasing]
    exact Nat.lt_of_lt_of_le leased rounds.later.holdings

end Store

/-- No handle outlives its attempt. Once an attempt that got a connection has ended, with a commit or
a rollback that succeeded or failed, or in a panic, the handle that its unit of work was given is
expired for good, whatever runs afterwards. It is the active transaction of the context that the
unit of work was given, and so of each that was derived from that one. -/
theorem no_handle_outlives_attempt (store : Store H) (ctx : RequestContext) (mode : Mode)
    (work : UnitOfWork H α) (n : Nat) (s s' given : State H) (c : Connection)
    (outcome : Except Stop (Except Failure α)) (lawful : store.Lawful)
    (obtained : (ctx.guard (store.request mode)).run.run s = (.ok (.ok c), given))
    (ran : (store.attempt ctx mode work n).run.run s = (outcome, s'))
    (completed : outcome ≠ .error .dropped) :
    ∃ handle : Handle, (∃ r : WorkRun H α, (store.attempt ctx mode work n).run.Includes s
        (work (ctx.bind store.channel handle)).run r.before) ∧
      (∀ inner, (ctx.bind store.channel handle).Derives inner →
        inner.active? store.channel = some handle) ∧
      ∀ {β : Type} (later : Program H β), handle.Expired store.channel (later.run s').2 := by
  obtain ⟨ended, included⟩ := Store.attempt_ended lawful obtained ran completed
  refine ⟨_, included, ?_, ?_⟩
  · intro inner derives
    rw [derives.active?, RequestContext.active?_bind_self]
  · intro β later
    exact ((later.run_later s').ended _ ended).expired _

open Rehearsal in
/-- The unit of work panics and the rollback after it fails. The handle is expired all the same, now
and an hour later. -/
theorem no_handle_outlives_attempt_panic :
    let player : Player := { name := "ledger", retries := fun _ => false, policy := fun _ => .single }
    let work : UnitOfWork (host Nat) Nat := fun _ => ExceptT.mk (.panic "overdrawn")
    let s : State (host Nat) := {
      host := { parts := [(("ledger", .rollback), { failure := some (.conflict "gone") })] } }
    let ran := (player.store.attempt .background .readWrite work 1).run.run s
    ran.1 = .error (.panic "overdrawn") ∧ ∃ handle : Handle, handle.Expired ⟨0⟩ ran.2 ∧
      handle.Expired ⟨0⟩ ((Program.sleep (.ofSeconds 3600)).run ran.2).2 := by
  intro player work s _
  have ran : ((player.store.attempt .background .readWrite work 1).run.run s).1 =
      .error (.panic "overdrawn") := by cbv
  have obtained : (((.background : RequestContext).guard (player.store.request .readWrite)).run.run
      s).1 = .ok (.ok ⟨"ledger", 1⟩) := by cbv
  obtain ⟨handle, -, -, expired⟩ := no_handle_outlives_attempt player.store .background .readWrite
    work 1 s _ _ ⟨"ledger", 1⟩ (.error (.panic "overdrawn")) player.store_lawful
    (Prod.ext obtained rfl) (Prod.ext ran rfl) (by simp)
  exact ⟨ran, handle, expired (.done ()), expired (.sleep (.ofSeconds 3600))⟩

end SessionKeeper
