import SessionKeeper.Proofs.Session.Conduct
import SessionKeeper.Proofs.Sql.PostgresWire

/-!
Rotation of refresh tokens returns only what was committed. An account of one run of its unit of
work (`RotationTo`) tells what is sent in the course of it: the statement that takes the old token,
and, if the server gave a user, the one that stores a token drawn in this very run. Together with
what is known of the attempts and runs of a call this settles the call (`rotation_committed`).

Correspondence: `rotate_refresh_token` ↔ `Session.rotate`, `take_refresh_token` and
`insert_refresh_token` ↔ the statements of `TokenQuery.take` and `TokenQuery.insert`.

Nothing is assumed of what the server replies. The database is one that speaks the protocol of
PostgreSQL, which conflicts may retry or rewind, and no transaction is active when the call is made.
-/

namespace SessionKeeper

variable {H : Host} {N : Type} {α : Type}

/-- With the event a server has answered that it has no such token. -/
def Event.Misses (old : String) (e : Event N) : Prop :=
  ∃ connection now answer,
    e = .executed connection (TokenQuery.take old now).statement (.ok answer) ∧ answer.rows = []

/-- With the event a token was to be stored. -/
def Event.Stores (e : Event N) : Prop :=
  ∃ connection token user expires reply,
    e = .executed connection (TokenQuery.insert token user expires).statement reply

theorem TokenQuery.take_ne_insert (old token : String) (now expires : Timestamp) (user : Int) :
    (take old now).statement ≠ (insert token user expires).statement := by
  simp [statement]

theorem TokenQuery.args_ne_nil (q : TokenQuery) : q.statement.args ≠ [] := by
  cases q <;> simp [statement]

theorem Event.Sends.not_stores {old : String} {now : Timestamp} {e : Event N}
    (h : e.Sends (· = (TokenQuery.take old now).statement)) : ¬ e.Stores := by
  rintro ⟨connection, token, user, expires, reply, rfl⟩
  exact TokenQuery.take_ne_insert _ _ _ _ _ h.symm

theorem Event.Sends.not_misses {old token : String} {user : Int} {expires : Timestamp} {e : Event N}
    (h : e.Sends (· = (TokenQuery.insert token user expires).statement)) : ¬ e.Misses old := by
  rintro ⟨connection, now, answer, rfl, -⟩
  exact TokenQuery.take_ne_insert _ _ _ _ _ h

/-- The surroundings after bytes were handed out. -/
def State.drawing (s : State H) : State H := { s with drawn := s.drawn + 1 }

@[simp] theorem State.trace_drawing (s : State H) : s.drawing.trace = s.trace := rfl

namespace Session

/-! ## Runs of the unit of work -/

/-- The statement that takes a token, sent in the surroundings `s`. -/
def taking (s : State H) (old : String) : Statement :=
  (TokenQuery.take old (s.epoch.after s.timeline.now)).statement

/-- The token that is made in the surroundings `s`. -/
def nextToken (s : State H) : String := hex (s.entropy s.drawn)

/-- The statement that stores it. -/
def storing (s : State H) (user : Int) : Statement :=
  (TokenQuery.insert (nextToken s) user
    ((s.epoch.after s.timeline.now).after refreshLifetime)).statement

/-- What a run of the unit of work comes to, in the transaction of a handle. -/
inductive RotationTo (signal : Signal) (handle : Handle) (d : Dialect) (old : String)
    (s : State H) : Except Failure (Int × String) → State H → Prop
  | untaken {failure : Failure} {s' : State H} :
      Executor.QueryTo signal handle (taking s old) (Executor.readOptional d.readFirst) s
        (.error failure) s' →
      RotationTo signal handle d old s (.error failure) s'
  | unknown {s' : State H} :
      Executor.QueryTo signal handle (taking s old) (Executor.readOptional d.readFirst) s
        (.ok none) s' →
      RotationTo signal handle d old s (.error unknownToken) s'
  | taken {user : Int} {stored : Except Failure Nat} {s₁ s' : State H} :
      Executor.QueryTo signal handle (taking s old) (Executor.readOptional d.readFirst) s
        (.ok (some user)) s₁ →
      s.Later s₁ → s₁.holdings = s.holdings →
      Executor.QueryTo signal handle (storing s₁ user) (fun answer => .ok answer.affected)
        s₁.drawing stored s' →
      s₁.drawing.Later s' →
      RotationTo signal handle d old s (stored.map fun _ => (user, nextToken s₁)) s'

variable {db : Database H} {old : String} {inner : RequestContext} {handle : Handle}
  {s s' : State H}

/-- A token is made of bytes that are handed out, and given once it is stored. -/
theorem createRefreshToken_run {user : Int} {answer : Except Failure String}
    (ran : (createRefreshToken db inner user).run.run s = (.ok answer, s')) :
    ∃ stored, answer = stored.map (fun _ => nextToken s) ∧
      ((db.executor inner).execute (storing s user)).run.run s.drawing = (.ok stored, s') := by
  have drawn : (createRefreshToken db inner user).run.run s =
      (RefreshTokens.insert (db.executor inner) (nextToken s) user
          ((s.epoch.after s.timeline.now).after refreshLifetime) >>= fun _ =>
        pure (nextToken s)).run.run s.drawing := rfl
  rw [drawn] at ran
  rcases Program.run_step_inv ran with ⟨failure, storing, rfl⟩ | ⟨_, s₁, storing, ran⟩
  · rcases Program.run_step_inv storing with ⟨failure, storing, same⟩ | ⟨_, s₁, -, done⟩
    · cases same
      exact ⟨.error failure, rfl, storing⟩
    · cases done
  · cases ran
    rcases Program.run_step_inv storing with ⟨failure, -, same⟩ | ⟨count, s₂, storing, done⟩
    · cases same
    · cases done
      exact ⟨.ok count, rfl, storing⟩

theorem createRefreshToken_account {user : Int} {answer : Except Failure String}
    (target : inner.active? db.store.channel = some handle)
    (ran : (createRefreshToken db inner user).run.run s = (.ok answer, s')) :
    ∃ stored, answer = stored.map (fun _ => nextToken s) ∧ s.drawing.Later s' ∧
      Executor.QueryTo inner.signal handle (storing s user) (fun answer => .ok answer.affected)
        s.drawing stored s' := by
  obtain ⟨stored, same, storing⟩ := createRefreshToken_run ran
  have target : (db.executor inner).target = some handle := target
  exact ⟨stored, same, Program.later_of_run storing, Executor.query_account target storing⟩

theorem rotation_account {answer : Except Failure (Int × String)}
    (target : inner.active? db.store.channel = some handle)
    (ran : (rotation db old inner).run.run s = (.ok answer, s')) :
    RotationTo inner.signal handle db.dialect old s answer s' := by
  have target' : (db.executor inner).target = some handle := target
  rcases Program.run_step_inv ran with ⟨failure, clocked, -⟩ | ⟨now, s₀, clocked, ran⟩
  · cases clocked
  cases clocked
  rcases Program.run_step_inv ran with ⟨failure, taking, rfl⟩ | ⟨taken, s₁, taking, ran⟩
  · exact .untaken (Executor.query_account target' taking)
  have took := Executor.query_account target' taking
  cases taken with
  | none =>
    cases ran
    exact .unknown took
  | some user =>
    have later := Program.later_of_run taking
    have kept := Executor.query_holdings taking
    rcases Program.run_step_inv ran with ⟨failure, making, rfl⟩ | ⟨token, s₂, making, ran⟩
    · obtain ⟨stored, same, after, stores⟩ := createRefreshToken_account target making
      cases stored with
      | error cause =>
        cases same
        exact .taken took later kept stores after
      | ok count => cases same
    · cases ran
      obtain ⟨stored, same, after, stores⟩ := createRefreshToken_account target making
      cases stored with
      | error cause => cases same
      | ok count =>
        cases same
        exact .taken took later kept stores after

theorem rotation_calm (db : Database H) (old : String) (inner : RequestContext) :
    (rotation db old inner).run.Calm := by
  have lifted : ∀ {α : Type} {p : Program H α}, p.Calm → (Work.lift p).run.Calm := fun calm =>
    calm.bind fun _ => trivial
  refine Program.Calm.step (lifted fun _ => trivial) fun now => ?_
  refine Program.Calm.step ((db.executor inner).query_calm _ _) fun taken => ?_
  cases taken with
  | none => trivial
  | some user =>
    refine Program.Calm.step ?_ fun _ => trivial
    refine Program.Calm.step (lifted fun _ => trivial) fun bytes => ?_
    refine Program.Calm.step (lifted fun _ => trivial) fun now => ?_
    refine Program.Calm.step ?_ fun _ => trivial
    exact Program.Calm.step ((db.executor inner).query_calm _ _) fun _ => trivial

section Runs

variable {signal : Signal} {answer : Except Failure (Int × String)} {r : WorkRun H (Int × String)}

/-- The server had no such token, for all that it replied in the course of the run. -/
def Unknown (old : String) (r : WorkRun H (Int × String)) : Prop := ∃ e ∈ r.added, e.2.Misses old

/-- A run in which the token was unknown stores none. It fails with that, unless the context is done
by then. -/
theorem RotationTo.unknown_run {d : Dialect}
    (account : RotationTo signal handle d old r.before answer r.after) (unknown : Unknown old r) :
    (∀ e ∈ r.added, ¬ e.2.Stores) ∧
      (answer = .error unknownToken ∨ r.after.timeline.status signal ≠ none) := by
  obtain ⟨e, mem, misses⟩ := unknown
  cases account with
  | untaken took =>
    refine ⟨fun e mem => (r.added_as took.adds e mem).not_stores, ?_⟩
    generalize failed : (.error _ : Except Failure (Option Int)) = result at took
    cases took with
    | interrupted sends done => exact .inr done
    | unsent trace =>
      rw [r.added_eq (trace.trans (List.append_nil _).symm)] at mem
      cases mem
    | replied lease trace =>
      -- An answer without rows would have been read.
      rw [r.added_eq trace, List.mem_singleton] at mem
      obtain ⟨connection, now, reply, same, rows⟩ := mem ▸ misses
      cases same
      rw [Except.bind, Executor.readOptional_eq_none_iff.mpr rows] at failed
      cases failed
  | unknown took =>
    exact ⟨fun e mem => (r.added_as took.adds e mem).not_stores, .inl rfl⟩
  | taken took later kept stores after =>
    obtain ⟨c, reply, -, trace, read⟩ := took.of_ok
    obtain ⟨first, rest, rows, -⟩ := Executor.readOptional_eq_some_iff.mp read
    obtain ⟨added, trace', as⟩ := stores.adds
    rw [State.trace_drawing, trace, List.append_assoc] at trace'
    rw [r.added_eq trace'] at mem
    rcases List.mem_append.mp mem with mem | mem
    · obtain rfl := List.mem_singleton.mp mem
      obtain ⟨connection, now, answer, same, empty⟩ := misses
      cases same
      rw [rows] at empty
      cases empty
    · exact absurd misses (as e mem).not_misses

/-- In the run `r` the token `old` was exchanged for `token`, all on the connection `c`. -/
structure Rotates (r : WorkRun H (Int × String)) (c : Connection) (old : String) (user : Int)
    (token : String) (taken stored : Answer) : Prop where
  /-- Two statements were executed, each at the time that stands in it. -/
  added : ∃ i j, r.before.timeline.now ≤ i ∧ i ≤ j ∧ j ≤ r.after.timeline.now ∧
    r.added =
      [(i, .executed (some c) (TokenQuery.take old (r.before.epoch.after i)).statement
          (.ok taken)),
        (j, .executed (some c) (TokenQuery.insert token user
          ((r.before.epoch.after j).after refreshLifetime)).statement (.ok stored))]
  /-- The user is the one with which the server answered the first of them. -/
  answered : ∃ row rest, taken.rows = (.int user :: row) :: rest
  /-- The token was made of bytes that were handed out in the course of the run. -/
  drawn : ∃ k, r.before.drawn ≤ k ∧ k < r.after.drawn ∧ token = hex (r.before.entropy k)

theorem RotationTo.rotates {d : Dialect} {c : Connection} {user : Int} {token : String}
    (account : RotationTo signal handle d old r.before (.ok (user, token)) r.after)
    (leads : r.before.connectionOf handle.lease = some c) :
    ∃ taken stored, Rotates r c old user token taken stored := by
  generalize gives : (.ok (user, token) : Except Failure (Int × String)) = result at account
  cases account with
  | untaken took => cases gives
  | unknown took => cases gives
  | @taken user stored s₁ _ took later kept stores after =>
    cases stored with
    | error failure => cases gives
    | ok count =>
      cases gives
      obtain ⟨c, taken, lease, trace, read⟩ := took.of_ok
      obtain ⟨d, stored, lease', trace', -⟩ := stores.of_ok
      obtain ⟨first, rest, rows, read⟩ := Executor.readOptional_eq_some_iff.mp read
      obtain ⟨row, rfl⟩ := Dialect.readFirst_eq_ok read
      have same : s₁.connectionOf handle.lease = r.before.connectionOf handle.lease := by
        rw [State.connectionOf, State.connectionOf, kept]
      obtain rfl := Option.some.inj (lease.symm.trans leads)
      obtain rfl := Option.some.inj (lease'.symm.trans (same.trans leads))
      rw [State.trace_drawing, trace, List.append_assoc] at trace'
      refine ⟨taken, stored, ⟨_, _, Nat.le_refl _, later.timeline.now, after.timeline.now, ?_⟩,
        ⟨row, rest, rows⟩, s₁.drawn, later.drawn, after.drawn, by rw [nextToken, later.entropy]⟩
      rw [r.added_eq trace', storing, later.epoch]
      rfl

end Runs

/-! ## Transactions -/

/-- Of what was sent so far on a connection nothing is left of a run of the unit of work: there was
none, or the transaction was rewound. -/
inductive Blank : List Exchange → Prop
  | untouched {exchanges : List Exchange} :
      (∀ x ∈ exchanges, ∀ q : TokenQuery, x.1 ≠ q.statement) → Blank exchanges
  | rewound (earlier : List Exchange) (answer : Answer) :
      Blank (earlier ++ [(Cockroach.rewind, .ok answer)])

/-- In the transaction on `c` the old token was exchanged for `token`, in the run `r`, and then it
was committed. -/
structure CommittedIn (c : Connection) (old : String) (user : Int) (token : String)
    (r : WorkRun H (Int × String)) (s' : State H) : Prop where
  verdict : r.verdict = .ok (.ok (user, token))
  rotates : ∃ taken stored, Rotates r c old user token taken stored
  /-- On the connection there was nothing left of a run before, and after this run nothing was sent
  but what releases the savepoint and commits. -/
  sent : ∃ before prepared answer,
    sent c s'.trace = before ++ r.sent c ++ prepared ++ [(Server.committing, .ok answer)] ∧
    Blank before ∧ ∀ x ∈ prepared, x.1 = Cockroach.releaseSavepoint

section Transactions

variable {ctx : RequestContext} {n : Nat} {t : Transaction H (Int × String)}
  {outcome : Except Stop (Except Failure (Int × String))}

theorem rotation_keeps (db : Database H) (old : String) (inner : RequestContext) :
    (rotation db old inner).run.Keeps [] :=
  .of_confined (rotation_confined (fun _ _ _ _ _ => trivial) db old inner)

/-- Every run of the unit of work is accounted for. -/
theorem run_account {begun : Connection} {restarts : Nat} {r : WorkRun H (Int × String)}
    (runs : db.store.Runs handle begun (rotation db old) ctx restarts s r) :
    ∃ answer, r.verdict = .ok answer ∧
      RotationTo ctx.signal handle db.dialect old r.before answer r.after := by
  obtain ⟨answer, verdict, ran⟩ := runs.answered (rotation_calm db old)
  have account :=
    rotation_account (RequestContext.active?_bind_self ctx db.store.channel handle) ran
  exact ⟨answer, verdict, account⟩

theorem blank_of_last (speaks : db.SpeaksPostgres)
    (takes : db.store.Takes ctx .readWrite (rotation db old) n s t outcome s') (sound : s.Sound)
    {s₁ : State H} {r : WorkRun H (Int × String)}
    (last : db.store.LastRun .readWrite (Store.handleIn t.given .readWrite n) t.connection
      (rotation db old) ctx [] (db.store.begunIn t.given t.connection .readWrite n) t.ending
      t.ended s₁ r) : Blank (sent t.connection s₁.trace) := by
  rcases last.first_or_again with rfl | ⟨failure, restarts, s₀, underway, anew⟩
  · have bare : ∀ statement : Statement, statement.args = [] → statement ≠ Server.committing →
        ∀ q : TokenQuery, statement ≠ q.statement := by
      rintro statement bare - q rfl
      exact q.args_ne_nil bare
    obtain ⟨exchanges, opened, others⟩ :=
      (Store.request_sends (speaks.sends bare) takes.given).sent t.connection
    rw [sound.sent_eq_nil (takes.fresh speaks.lawful sound), List.nil_append] at opened
    have begun : sent t.connection (db.store.begunIn t.given t.connection .readWrite n).trace =
        exchanges := (sent_noted rfl).trans opened
    exact begun ▸ .untouched others
  · obtain ⟨earlier, answer, hsent⟩ := speaks.rewound anew underway.leads
    exact hsent ▸ .rewound earlier answer

theorem takes_commits (speaks : db.SpeaksPostgres) {user : Int} {token : String}
    (takes : db.store.Takes ctx .readWrite (rotation db old) n s t (.ok (.ok (user, token))) s')
    (sound : s.Sound) :
    ∃ handle r, db.store.LastOn ctx .readWrite (rotation db old) n s t.connection handle r s' ∧
      CommittedIn t.connection old user token r s' := by
  have keeps := rotation_keeps db old
  have underway := takes.underway speaks.lawful sound (List.forall_mem_nil _)
  obtain ⟨s₁, r, mem, last⟩ := takes.rounds.lastRun speaks.lawful keeps underway
  have lastOn := takes.lastOn speaks.lawful keeps sound (by simp) mem last
  refine ⟨_, r, lastOn, ?_⟩
  obtain ⟨restarts, runs⟩ := last.runs
  obtain ⟨answer, given, account⟩ := run_account runs
  obtain ⟨succeeded, -⟩ := takes.of_ok
  obtain ⟨verdict, -⟩ := (last.succeeded_iff _).mp succeeded
  rw [verdict] at given
  cases given
  have leads : r.before.connectionOf (Store.handleIn t.given .readWrite n).lease =
      some t.connection := by
    rw [runs.before]
    exact (underway.step last.earlier).leads
  obtain ⟨prepared, hprepared, released⟩ := speaks.prepare_sent (last.prepared _ succeeded)
  obtain ⟨reply, committed⟩ := takes.commit_sent speaks.endsBy
  refine ⟨verdict, account.rotates leads, _, prepared, reply, ?_,
    blank_of_last speaks takes sound last, released⟩
  rw [committed, hprepared, sent_noted rfl, runs.sent_after]

/-- What follows for the attempt `m` and those after it, in a call that ends with `answer`, if the
token was unknown in the run `r` of its transaction `t`. -/
structure GivesUp (ctx : RequestContext) (m : Made H (Int × String))
    (later : List (Made H (Int × String))) (answer : Except Failure (Int × String))
    (t : Transaction H (Int × String)) (r : WorkRun H (Int × String)) : Prop where
  stores_nothing : ∀ e ∈ r.added, ¬ e.2.Stores
  /-- If the rollback succeeds under a context that is live, that was the last run of all. -/
  final : m.after.timeline.status ctx.signal = none → t.answer = .ok () →
    t.runs.getLast? = some r ∧ later = [] ∧ answer = .error unknownToken

theorem takes_gives_up (speaks : db.SpeaksPostgres)
    (takes : db.store.Takes ctx .readWrite (rotation db old) n s t outcome s') (sound : s.Sound)
    {r : WorkRun H (Int × String)} (mem : r ∈ t.runs) (unknown : Unknown old r) :
    (∀ e ∈ r.added, ¬ e.2.Stores) ∧
      (s'.timeline.status ctx.signal = none → t.answer = .ok () →
        t.runs.getLast? = some r ∧ outcome = .ok (.error unknownToken)) := by
  obtain ⟨restarts, s₁, runs⟩ := takes.rounds.runs r mem
  obtain ⟨answer, verdict, account⟩ := run_account runs
  obtain ⟨nothing, rfl | done⟩ := account.unknown_run unknown
  · refine ⟨nothing, fun _ rolledBack => ?_⟩
    have underway := takes.underway speaks.lawful sound (List.forall_mem_nil _)
    obtain ⟨last, ending⟩ := takes.rounds.final_of_declines speaks.lawful (rotation_keeps db old)
      (speaks.declines rfl) underway r mem verdict
    refine ⟨last, ?_⟩
    rw [takes.outcome, ending, rolledBack]
    rfl
  · -- What is done stays so until the end of the transaction.
    refine ⟨nothing, fun live => absurd live (takes.done_of_ended fun ended => done ?_)⟩
    exact (takes.rounds.later_after r mem).timeline.live ended

end Transactions

/-! ## Calls -/

theorem rotation_sends_no_commit (db : Database H) (old : String) (inner : RequestContext) :
    (rotation db old inner).run.Confined ⟨Event.Sends (· ≠ Server.committing), fun _ => True⟩
      [] := by
  refine rotation_confined (fun q => Server.allows_sends ?_) db old inner
  rintro statement mem rfl
  exact q.args_ne_nil (List.mem_singleton.mp mem ▸ rfl)

section Calls

variable {ctx : RequestContext} {policy : RetryPolicy} {left n : Nat}
  {ms : List (Made H (Int × String))} {answer : Except Failure (Int × String)}

/-- The last attempt of a rotation that gives a token has committed it. -/
theorem attempts_rotate (speaks : db.SpeaksPostgres) {user : Int} {token : String}
    (account : policy.RunTo ctx db.store.retries
      (db.store.attempt ctx .readWrite (rotation db old)) left n s ms (.ok (.ok (user, token))) s')
    (sound : s.Sound) :
    ∃ m c handle r, ms.getLast? = some m ∧ db.store.Obtains ctx .readWrite m c ∧
      db.store.LastOn ctx .readWrite (rotation db old) m.number m.before c handle r s' ∧
      CommittedIn c old user token r s' := by
  obtain ⟨earlier, m, rfl, gives, rfl⟩ := account.last_of_ok
  obtain ⟨before, ⟨failure, -, failed⟩ | ⟨t, takes⟩⟩ :=
    Store.attempts_take speaks.lawful (rotation_keeps db old) account (by simp) sound (by simp)
      (m := m) (by simp)
  · rw [gives] at failed
    cases failed
  · rw [gives] at takes
    obtain ⟨handle, r, lastOn, committed⟩ := takes_commits speaks takes before.sound
    exact ⟨m, t.connection, handle, r, by simp, ⟨t.given, takes.given⟩, lastOn, committed⟩

/-- Each attempt of a rotation got no connection, or took a transaction in which it gave up where
the token was unknown. -/
theorem attempts_give_up (speaks : db.SpeaksPostgres)
    (account : policy.RunTo ctx db.store.retries
      (db.store.attempt ctx .readWrite (rotation db old)) left n s ms (.ok answer) s')
    (sound : s.Sound) :
    ∀ earlier m later, ms = earlier ++ m :: later →
      (∃ failure, (ctx.guard (db.store.request .readWrite)).run.run m.before =
        (.ok (.error failure), m.after)) ∨
      ∃ t, db.store.Takes ctx .readWrite (rotation db old) m.number m.before t m.outcome
          m.after ∧
        ∀ r ∈ t.runs, Unknown old r → GivesUp ctx m later answer t r := by
  intro earlier m later split
  obtain ⟨before, ⟨failure, refused, -⟩ | ⟨t, takes⟩⟩ :=
    Store.attempts_take speaks.lawful (rotation_keeps db old) account (by simp) sound (by simp)
      (m := m) (by simp [split])
  · exact .inl ⟨failure, refused⟩
  · refine .inr ⟨t, takes, fun r mem unknown => ?_⟩
    obtain ⟨nothing, final⟩ := takes_gives_up speaks takes before.sound mem unknown
    refine ⟨nothing, fun live rolledBack => ?_⟩
    obtain ⟨last, failed⟩ := final live rolledBack
    -- It is no conflict, so no other attempt is made.
    obtain ⟨rfl, outcome⟩ := account.final_of_declined (speaks.retries_eq_false rfl) earlier m
      later split failed live
    exact ⟨last, rfl, Except.ok.inj outcome⟩

end Calls

/-- Rotation returns only what was committed. If it gives a user and a token, there is a transaction
that was committed in which, in the last run of the unit of work, the old token was exchanged for
this one, and no `COMMIT` on another connection has succeeded. If it fails, no `COMMIT` has. A run
in which the old token was unknown stores none, and unless the context is done or the rollback fails
it is the last one, and the rotation fails with that. -/
theorem rotation_committed (db : Database H) (ctx : RequestContext) (old : String)
    (s s' : State H) (answer : Except Failure (Int × String)) (speaks : db.SpeaksPostgres)
    (sound : s.Sound) (own : ctx.active? db.store.channel = none)
    (ran : (rotate db ctx old).run.run s = (.ok answer, s')) :
    ∃ ms added,
      (db.store.policy .readWrite).RunTo ctx db.store.retries
        (db.store.attempt ctx .readWrite (rotation db old))
        ((db.store.policy .readWrite).maxAttempts - 1) 1 s ms (.ok answer) s' ∧
      s'.trace = s.trace ++ added ∧
      (∀ user token, answer = .ok (user, token) → ∃ m c handle r,
        ms.getLast? = some m ∧ db.store.Obtains ctx .readWrite m c ∧
        db.store.LastOn ctx .readWrite (rotation db old) m.number m.before c handle r s' ∧
        CommittedIn c old user token r s' ∧
        ∀ e ∈ added, ∀ connection, e.2.Commits connection → connection = some c) ∧
      (∀ failure, answer = .error failure → ∀ e ∈ added, ∀ connection,
        ¬ e.2.Commits connection) ∧
      ∀ earlier m later, ms = earlier ++ m :: later →
        (∃ failure, (ctx.guard (db.store.request .readWrite)).run.run m.before =
          (.ok (.error failure), m.after)) ∨
        ∃ t, db.store.Takes ctx .readWrite (rotation db old) m.number m.before t m.outcome
            m.after ∧
          ∀ r ∈ t.runs, Unknown old r → GivesUp ctx m later answer t r := by
  have called : (db.store.call .readWrite ctx (rotation db old)).run.run s = (.ok answer, s') := ran
  rw [Store.call_own own (by simp)] at called
  obtain ⟨ms, account⟩ := RetryPolicy.runFrom_account called
  obtain ⟨added, htrace, commits⟩ := Store.attempts_commits speaks.lawful speaks.endsBy
    (speaks.sends fun _ _ other => other) (rotation_sends_no_commit db old) (rotation_keeps db old)
    account (RetryPolicy.run_bound _) (by simp) sound (by simp)
  refine ⟨ms, added, account, htrace, ?_, ?_, attempts_give_up speaks account sound⟩
  · rintro user token rfl
    obtain ⟨m, c, handle, r, last, obtains, lastOn, committed⟩ :=
      attempts_rotate speaks account sound
    refine ⟨m, c, handle, r, last, obtains, lastOn, committed, ?_⟩
    intro e mem connection hcommits
    obtain ⟨-, m', d, last', obtained, rfl⟩ := commits e mem connection hcommits
    obtain rfl := Option.some.inj (last.symm.trans last')
    rw [obtains.unique obtained]
  · rintro failure rfl e mem connection hcommits
    obtain ⟨⟨value, gave⟩, -⟩ := commits e mem connection hcommits
    cases gave

/-- The first token to be stored conflicts, so the attempt is rolled back. The second attempt is
committed, and its token returned. -/
theorem rotation_committed_retried :
    let conflict : DriverFailure := .database (.state (some "40001") "could not serialize access")
    let server : Server ⟨Bool, Unit⟩ := ⟨fun _ statement failed =>
      if statement.args.length = 3 ∧ failed = false then (⟨.error conflict, .zero, []⟩, true)
      else (⟨.ok { rows := [[.int 7]] }, .zero, []⟩, failed)⟩
    let db := Postgres.database server .default none
    let s : State ⟨Bool, Unit⟩ := { host := false, entropy := fun n => [UInt8.ofNat n] }
    let ran := (rotate db .background "stale").run.run s
    ran.1 = .ok (.ok (7, "01")) ∧ ∃ c r, CommittedIn c "stale" 7 "01" r ran.2 ∧
      ∀ e ∈ ran.2.trace, ∀ connection, e.2.Commits connection → connection = some c := by
  intro conflict server db s ran
  have gave : ran.1 = .ok (.ok (7, "01")) := by decide +kernel
  obtain ⟨ms, added, -, trace, gives, -⟩ := rotation_committed db .background "stale" s ran.2
    (.ok (7, "01")) (.postgres server .default none) (State.sound_of_empty rfl rfl rfl) rfl
    (Prod.ext gave rfl)
  obtain ⟨m, c, handle, r, -, -, -, committed, only⟩ := gives 7 "01" rfl
  exact ⟨gave, c, r, committed, trace ▸ only⟩

end Session

end SessionKeeper
