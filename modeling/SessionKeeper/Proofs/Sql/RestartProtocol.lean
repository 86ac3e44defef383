import SessionKeeper.Proofs.Sql.Commit
import SessionKeeper.Proofs.Sql.Executor
import SessionKeeper.Proofs.Transaction.Expiry

/-!
The restart protocol of CockroachDB, over whole transactions. What a read-write transaction sends on
its connection begins with a savepoint and goes through rounds. Each is a run of the unit of work
and, if that succeeds, a `RELEASE`; one that failed to serialize is rewound, and another follows.
The last round is followed by the end: right after a `RELEASE` that succeeded the `COMMIT`, and in
any other case the `ROLLBACK`.

`Round` and `Course` say so in terms of exchanges, with one constructor for each way through. A step
lemma for each part of a round (`round_sent`, `startOver_sent`) gives the law of all rounds by
induction on the account of an attempt (`rounds_sent`).

Correspondence: `before_commit` ↔ `Cockroach.prepare`, `restart` ↔ `Cockroach.restart`,
`wants_restart` ↔ `wantsRestart`.
-/

namespace SessionKeeper.Cockroach

open Store

variable {H : Host} {α : Type}

/-- Whether a serialization failure of the server is behind a failure. -/
def Serializes (failure : Failure) : Prop :=
  ∃ e ∈ failure.serverErrors, e.code = some serializationFailure

/-- What was sent on `c` in a round with the run `r` of the unit of work, and how the round ended. -/
inductive Round (c : Connection) (r : WorkRun H α) : Ending α → List Exchange → Prop
  | panicked {message : String} :
      r.verdict = .error message → Round c r (.panicked message) (r.sent c)
  | failed {failure : Failure} :
      r.verdict = .ok (.error failure) → Round c r (.failed failure) (r.sent c)
  /-- An error that the run left unread is taken for the reply to `RELEASE`, which is not sent. -/
  | unread {value : α} {error : DriverFailure} :
      r.verdict = .ok (.ok value) → r.after.unreadOn c = some error →
      Round c r (.failed (.ofDriver error)) (r.sent c)
  | refused {value : α} (error : DriverFailure) :
      r.verdict = .ok (.ok value) →
      Round c r (.failed (.ofDriver error)) (r.sent c ++ [(releaseSavepoint, .error error)])
  | released {value : α} (answer : Answer) :
      r.verdict = .ok (.ok value) →
      Round c r (.succeeded value) (r.sent c ++ [(releaseSavepoint, .ok answer)])

/-- What was sent on `c` from the savepoint on until the rounds were over: the number of `ROLLBACK
TO`, the runs of the unit of work, how the last round ended, and the exchanges. Whether the context
is done by then is `done`. -/
inductive Course (c : Connection) (done : Prop) :
    Nat → List (WorkRun H α) → Ending α → List Exchange → Prop
  | succeeded {r : WorkRun H α} {value : α} {exchanges : List Exchange} :
      Round c r (.succeeded value) exchanges → Course c done 0 [r] (.succeeded value) exchanges
  | panicked {r : WorkRun H α} {message : String} {exchanges : List Exchange} :
      Round c r (.panicked message) exchanges → Course c done 0 [r] (.panicked message) exchanges
  | failed {r : WorkRun H α} {failure final : Failure} {exchanges : List Exchange} :
      Round c r (.failed failure) exchanges → Course c done 0 [r] (.failed final) exchanges
  /-- The transaction could not be rewound. -/
  | stuck {r : WorkRun H α} {failure final : Failure} {exchanges : List Exchange}
      (error : DriverFailure) :
      Round c r (.failed failure) exchanges → Serializes failure →
      Course c done 1 [r] (.failed final) (exchanges ++ [(rewind, .error error)])
  /-- The context was done before the next round. -/
  | cut {r : WorkRun H α} {failure final : Failure} {exchanges : List Exchange} (answer : Answer) :
      Round c r (.failed failure) exchanges → Serializes failure → done →
      Course c done 1 [r] (.failed final) (exchanges ++ [(rewind, .ok answer)])
  | rewound {r : WorkRun H α} {failure : Failure} {exchanges : List Exchange} {k : Nat}
      {rs : List (WorkRun H α)} {ending : Ending α} {rest : List Exchange} (answer : Answer) :
      Round c r (.failed failure) exchanges → Serializes failure → Course c done k rs ending rest →
      Course c done (k + 1) (r :: rs) ending (exchanges ++ (rewind, .ok answer) :: rest)

variable {server : Server H} {settings : Settings} {handle : Handle} {c : Connection}
  {work : UnitOfWork H α} {ctx : RequestContext} {held : List Connection} {restarts n : Nat}
  {s s' : State H}

theorem serializes_of_wantsRestart {mode : Mode} {failure : Failure}
    (wants : wantsRestart settings mode failure restarts = true) :
    Serializes failure ∧ restarts < settings.maxRestarts := by
  simp only [wantsRestart, Bool.and_eq_true, List.any_eq_true, beq_iff_eq,
    decide_eq_true_eq] at wants
  exact ⟨wants.2, wants.1.2⟩

theorem restart_sent {mode : Mode} {failure : Failure} {answer : Except Failure Bool}
    (ran : (restart server settings mode c failure restarts).run.run s = (.ok answer, s')) :
    (answer = .ok false ∧ s' = s) ∨
      (Serializes failure ∧ restarts < settings.maxRestarts ∧
        ∃ reply, answer = reply.map (fun _ => true) ∧ Server.SendTo c rewind s reply s') := by
  unfold restart at ran
  by_cases wants : wantsRestart settings mode failure restarts = true
  · simp only [wants, if_true, ExceptT.run_mk, Program.bind_eq_bind] at ran
    obtain ⟨serializes, allowed⟩ := serializes_of_wantsRestart wants
    obtain ⟨reply, s₁, sending, ran⟩ := Program.run_bind_ok_inv ran
    obtain ⟨reply, replied, sends⟩ := Server.send_account sending
    cases replied
    refine .inr ⟨serializes, allowed, reply, ?_⟩
    cases reply <;> cases ran <;> exact ⟨rfl, sends⟩
  · simp only [wants] at ran
    cases ran
    exact .inl ⟨rfl, rfl⟩

/-- A round in terms of exchanges. Nothing is left unread once `RELEASE` has succeeded. -/
theorem round_sent {r : WorkRun H α} {ending : Ending α}
    (account : RoundTo (store server settings) .readWrite handle c work ctx restarts s r ending s')
    (leads : r.after.connectionOf handle.lease = some c) :
    ∃ exchanges, Round c r ending exchanges ∧
      sent c s'.trace = sent c s.trace ++ exchanges ∧
      (ending.commits = true → s'.unreadOn c = none) := by
  have ran := account.runs.sent_after c
  cases account with
  | panicked runs verdict => exact ⟨_, .panicked verdict, ran, nofun⟩
  | failed runs verdict => exact ⟨_, .failed verdict, ran, nofun⟩
  | escaped runs verdict hlease =>
    rw [leads] at hlease
    cases hlease
  | unprepared runs verdict hlease prepared =>
    obtain rfl := Option.some.inj (leads.symm.trans hlease)
    obtain ⟨reply, replied, sends⟩ := Server.sendAll_singleton_account prepared
    cases sends with
    | answered => cases replied
    | @refused error _ unread executed read =>
      cases replied
      refine ⟨_, .refused error verdict, ?_, nofun⟩
      rw [executed, sent_append, sent_noted rfl, ran]
      simp
    | unread unread idle read =>
      cases replied
      refine ⟨_, .unread verdict unread, ?_, nofun⟩
      rw [idle, sent_noted rfl, ran]
  | succeeded runs verdict hlease prepared =>
    obtain rfl := Option.some.inj (leads.symm.trans hlease)
    obtain ⟨reply, replied, sends⟩ := Server.sendAll_singleton_account prepared
    cases sends with
    | @answered answer _ unread executed read =>
      refine ⟨_, .released answer verdict, ?_, fun _ => read⟩
      rw [executed, sent_append, sent_noted rfl, ran]
      simp
    | refused => cases replied
    | unread => cases replied

theorem rest_done {store : Store H} {failure : Failure} {reason : Cancellation}
    (ran : (store.rest handle ctx failure n).run s = (.ok (some reason), s')) :
    s'.timeline.status ctx.signal ≠ none := by
  unfold rest at ran
  simp only [Program.bind_eq_bind] at ran
  rw [Program.run_bind_ok (Program.run_log s _ _)] at ran
  split at ran
  · cases ran
  · obtain ⟨rfl, account⟩ := Context.pausesTo_of_run ran
    exact (account.doneFor reason rfl).status_ne_none

/-- What asking the store to start over comes to, and what is sent meanwhile. -/
inductive Restarting (failure : Failure) (allowed : Prop) :
    Except Failure Bool → List Exchange → Prop
  | declined : Restarting failure allowed (.ok false) []
  /-- An error left unread is taken for the reply, and nothing is sent. -/
  | unread (cause : Failure) : Restarting failure allowed (.error cause) []
  | refused (cause : Failure) (error : DriverFailure) : Serializes failure → allowed →
      Restarting failure allowed (.error cause) [(rewind, .error error)]
  | rewound (answer : Answer) : Serializes failure → allowed →
      Restarting failure allowed (.ok true) [(rewind, .ok answer)]

theorem restarted_sent {failure : Failure} {answer : Except Failure Bool}
    (account : RestartTo (store server settings) .readWrite handle failure restarts s answer s')
    (leads : s.connectionOf handle.lease = some c) :
    ∃ exchanges, Restarting failure (restarts < settings.maxRestarts) answer exchanges ∧
      sent c s'.trace = sent c s.trace ++ exchanges := by
  cases account with
  | escaped hlease =>
    rw [leads] at hlease
    cases hlease
  | refused hlease asked =>
    obtain rfl := Option.some.inj (leads.symm.trans hlease)
    rcases restart_sent asked with ⟨no, -⟩ | ⟨serializes, allowed, reply, replied, sends⟩
    · cases no
    · cases sends with
      | answered => cases replied
      | @refused error _ unread executed read =>
        refine ⟨_, .refused _ error serializes allowed, ?_⟩
        rw [executed, sent_append, sent_noted rfl, sent_executed, sent_nil]
      | unread unread idle read => exact ⟨[], .unread _, by rw [idle, sent_noted rfl]; simp⟩
  | answered hlease asked =>
    obtain rfl := Option.some.inj (leads.symm.trans hlease)
    rcases restart_sent asked with ⟨declined, rfl⟩ | ⟨serializes, allowed, reply, replied, sends⟩
    · cases declined
      exact ⟨[], .declined, by rw [sent_noted rfl]; simp⟩
    · cases sends with
      | @answered answer _ unread executed read =>
        cases replied
        refine ⟨_, .rewound answer serializes allowed, ?_⟩
        rw [executed, sent_append, sent_noted rfl, sent_executed, sent_nil]
      | refused => cases replied
      | unread => cases replied

/-- What readying the transaction for another run comes to, and what is sent meanwhile. -/
inductive Readying (failure : Failure) (allowed done : Prop) :
    Except Failure Unit → List Exchange → Prop
  | declined (final : Failure) : Readying failure allowed done (.error final) []
  | stuck (final : Failure) (error : DriverFailure) : Serializes failure → allowed →
      Readying failure allowed done (.error final) [(rewind, .error error)]
  | cut (final : Failure) (answer : Answer) : Serializes failure → allowed → done →
      Readying failure allowed done (.error final) [(rewind, .ok answer)]
  | ready (answer : Answer) : Serializes failure → allowed →
      Readying failure allowed done (.ok ()) [(rewind, .ok answer)]

theorem startOver_sent {failure : Failure} {answer : Except Failure Unit}
    (account : StartOverTo (store server settings) .readWrite handle ctx failure restarts s answer
      s') (leads : s.connectionOf handle.lease = some c) :
    ∃ exchanges, Readying failure (restarts < settings.maxRestarts)
        (s'.timeline.status ctx.signal ≠ none) answer exchanges ∧
      sent c s'.trace = sent c s.trace ++ exchanges := by
  cases account with
  | interrupted status => exact ⟨[], .declined _, by simp⟩
  | unable status restart =>
    obtain ⟨exchanges, restarting, hsent⟩ := restarted_sent restart leads
    cases restarting with
    | unread => exact ⟨[], .declined _, hsent⟩
    | refused _ error serializes allowed => exact ⟨_, .stuck _ error serializes allowed, hsent⟩
  | declined status restart =>
    obtain ⟨exchanges, restarting, hsent⟩ := restarted_sent restart leads
    cases restarting with
    | declined => exact ⟨[], .declined _, hsent⟩
  | cut status restart ran =>
    obtain ⟨exchanges, restarting, hsent⟩ := restarted_sent restart leads
    cases restarting with
    | rewound answer serializes allowed =>
      refine ⟨_, .cut _ answer serializes allowed (rest_done ran), ?_⟩
      rw [(rest_quiet ran).trace, hsent]
  | ready status restart ran =>
    obtain ⟨exchanges, restarting, hsent⟩ := restarted_sent restart leads
    cases restarting with
    | rewound answer serializes allowed =>
      refine ⟨_, .ready answer serializes allowed, ?_⟩
      rw [(rest_quiet ran).trace, hsent]

/-- The rounds of a transaction in terms of exchanges: they take a course, and no more restarts than
the settings allow. -/
theorem rounds_sent {rs : List (WorkRun H α)} {ending : Ending α}
    (account : RoundsTo (store server settings) .readWrite handle c work ctx restarts s rs ending
      s') (keeps : ∀ inner, (work inner).run.Keeps held) (underway : Underway handle c held s)
    (within : restarts ≤ settings.maxRestarts) {done : Prop}
    (noticed : s'.timeline.status ctx.signal ≠ none → done) :
    ∃ k exchanges, Course c done k rs ending exchanges ∧ restarts + k ≤ settings.maxRestarts ∧
      sent c s'.trace = sent c s.trace ++ exchanges ∧
      (ending.commits = true → s'.unreadOn c = none) := by
  have lawful := store_lawful server settings
  induction account with
  | succeeded account =>
    have after := account.runs.underway keeps underway
    obtain ⟨exchanges, round, hsent, read⟩ := round_sent account after.leads
    exact ⟨0, exchanges, .succeeded round, within, hsent, read⟩
  | panicked account =>
    have after := account.runs.underway keeps underway
    obtain ⟨exchanges, round, hsent, -⟩ := round_sent account after.leads
    exact ⟨0, exchanges, .panicked round, within, hsent, nofun⟩
  | failed account anew =>
    have after := account.runs.underway keeps underway
    have ended := account.underway lawful keeps underway
    obtain ⟨exchanges, round, hsent, -⟩ := round_sent account after.leads
    obtain ⟨last, readying, hlast⟩ := startOver_sent anew ended.leads
    rw [hsent, List.append_assoc] at hlast
    cases readying with
    | declined => exact ⟨0, _, .failed round, within, by simpa using hlast, nofun⟩
    | stuck _ error serializes allowed =>
      exact ⟨1, _, .stuck error round serializes, allowed, hlast, nofun⟩
    | cut _ answer serializes allowed noted =>
      exact ⟨1, _, .cut answer round serializes (noticed noted), allowed, hlast, nofun⟩
  | again account anew tos ih =>
    have after := account.runs.underway keeps underway
    have ended := account.underway lawful keeps underway
    obtain ⟨exchanges, round, hsent, -⟩ := round_sent account after.leads
    obtain ⟨last, readying, hlast⟩ := startOver_sent anew ended.leads
    cases readying with
    | ready answer serializes allowed =>
      obtain ⟨k, rest, course, bounded, hrest, read⟩ :=
        ih (anew.underway lawful ended) allowed noticed
      refine ⟨k + 1, _, .rewound answer round serializes course, by omega, ?_, read⟩
      rw [hrest, hlast, hsent]
      simp

/-! ## Whole transactions -/

/-- What was sent on a connection for its transaction, from the beginning to the end. -/
structure Conversation (H : Host) (α : Type) where
  /-- The answer to `BEGIN`. -/
  begun : Answer
  /-- The answer to `SAVEPOINT`. -/
  saved : Answer
  /-- How many `ROLLBACK TO` were sent. -/
  rewinds : Nat
  runs : List (WorkRun H α)
  ending : Ending α
  rounds : List Exchange
  /-- What came of the commit or the rollback. -/
  answer : Except Failure Unit
  finish : List Exchange

namespace Conversation

def exchanges (v : Conversation H α) : List Exchange :=
  (Server.beginning, .ok v.begun) :: (savepoint, .ok v.saved) :: (v.rounds ++ v.finish)

/-- The conversation keeps to the restart protocol. -/
structure Proper (v : Conversation H α) (settings : Settings) (c : Connection) (done : Prop) :
    Prop where
  course : Course c done v.rewinds v.runs v.ending v.rounds
  bounded : v.rewinds ≤ settings.maxRestarts
  /-- As `RELEASE` has succeeded there is nothing unread, and the `COMMIT` is sent. -/
  commits : v.ending.commits = true → Server.EndsWith Server.committing none v.answer v.finish
  rollsBack : v.ending.commits = false →
    ∃ unread, Server.EndsWith Server.rollingBack unread v.answer v.finish

end Conversation

theorem begunIn_sent {given : State H} (sound : s.Sound)
    (obtained : (ctx.guard ((store server settings).request .readWrite)).run.run s =
      (.ok (.ok c), given)) :
    ∃ begun saved, sent c ((store server settings).begunIn given c .readWrite n).trace =
      [(Server.beginning, .ok begun), (savepoint, .ok saved)] := by
  obtain ⟨begun, saved, hsent⟩ := (Store.request_agreed rfl sound obtained).pair
  exact ⟨begun, saved, (sent_noted rfl).trans hsent⟩

theorem store_endsBy (server : Server H) (settings : Settings) :
    (store server settings).EndsBy server := ⟨rfl, rfl⟩

/-- The restart protocol. A read-write transaction that began and was driven to its end sent on its
connection what the protocol has it send: two statements to begin, rounds of the unit of work up to
the allowed number of restarts, and the end. The attempt gives a value if the last round succeeded
and the `COMMIT` right after it, and the runs of the rounds are those of the unit of work. -/
theorem restart_protocol (server : Server H) (settings : Settings) (ctx : RequestContext)
    (work : UnitOfWork H α) (n : Nat) (s s' given : State H) (c : Connection)
    (outcome : Except Stop (Except Failure α)) {chained : Prop} {held : List Connection}
    (conduct : ∀ inner, Conduct chained inner held (work inner).run) (sound : s.Sound)
    (known : ∀ d ∈ held, d ∈ s.connections)
    (obtained : (ctx.guard ((store server settings).request .readWrite)).run.run s =
      (.ok (.ok c), given))
    (ran : ((store server settings).attempt ctx .readWrite work n).run.run s = (outcome, s'))
    (completed : outcome ≠ .error .dropped) :
    ∃ (v : Conversation H α) (handle : Handle),
      v.Proper settings c (s'.timeline.status ctx.signal ≠ none) ∧
      sent c s'.trace = v.exchanges ∧ outcome = v.ending.result v.answer ∧
      ∀ r ∈ v.runs,
        ((store server settings).attempt ctx .readWrite work n).run.Includes s
          (work (ctx.bind (store server settings).channel handle)).run r.before ∧
        (work (ctx.bind (store server settings).channel handle)).run.catchPanic.run r.before =
          (.ok r.verdict, r.after) := by
  have lawful := store_lawful server settings
  have keeps := fun inner => (conduct inner).keeps
  rcases attempt_takes lawful keeps sound known ran completed with
    ⟨failure, refused, -⟩ | ⟨t, takes⟩
  · rw [obtained] at refused
    cases refused
  have same := takes.given
  rw [obtained] at same
  cases same
  obtain ⟨begun, saved, began⟩ := begunIn_sent (n := n) sound takes.given
  obtain ⟨rewinds, rounds, course, bounded, hrounds, read⟩ := rounds_sent takes.rounds keeps
    (takes.underway lawful sound known) (Nat.zero_le _) takes.done_of_ended
  obtain ⟨finish, ends, hfinish⟩ := takes.finish_sent (store_endsBy server settings)
  refine ⟨⟨begun, saved, rewinds, t.runs, t.ending, rounds, t.answer, finish⟩, _,
    ⟨course, Nat.zero_add rewinds ▸ bounded, fun h => ?_, fun h => ?_⟩, ?_, takes.outcome,
    fun r mem => ⟨takes.includes r mem, ?_⟩⟩
  · rw [h, read h] at ends
    exact ends
  · rw [h] at ends
    exact ⟨_, ends⟩
  · rw [hfinish, hrounds, began]
    rfl
  · obtain ⟨restarts, s₁, runs⟩ := takes.rounds.runs r mem
    exact runs.ran

/-- The first statement with arguments fails to serialize, so the run that sent it is rewound, and
the second run is committed. -/
theorem restart_protocol_rewound :
    let conflict : DriverFailure := .database (.state (some "40001") "restart transaction")
    let server : Server ⟨Bool, Unit⟩ := ⟨fun _ statement failed =>
      if statement.args.isEmpty || failed then (⟨.ok {}, .zero, []⟩, failed)
      else (⟨.error conflict, .ofMillis 3, []⟩, true)⟩
    let work : UnitOfWork ⟨Bool, Unit⟩ Nat := fun inner =>
      ((database server {}).executor inner).execute ⟨"UPDATE accounts", [.int 7]⟩
    let ran := ((store server {}).attempt .background .readWrite work 1).run.run { host := false }
    ran.1 = .ok (.ok 0) ∧ ∃ v : Conversation ⟨Bool, Unit⟩ Nat,
      v.Proper {} ⟨"cockroach", 1⟩ (ran.2.timeline.status {} ≠ none) ∧
      v.exchanges.map (·.1.text) =
        ["BEGIN", "SAVEPOINT cockroach_restart", "UPDATE accounts",
          "ROLLBACK TO SAVEPOINT cockroach_restart", "UPDATE accounts",
          "RELEASE SAVEPOINT cockroach_restart", "COMMIT"] := by
  intro conflict server work ran
  have gave : ran.1 = .ok (.ok 0) := by decide +kernel
  have obtained : (((.background : RequestContext).guard
      ((store server {}).request .readWrite)).run.run { host := false }).1 =
        .ok (.ok ⟨"cockroach", 1⟩) := by decide +kernel
  have conduct : ∀ inner, Conduct True inner [] (work inner).run :=
    fun inner => .confined (Executor.query_confined _ (fun _ _ _ _ => trivial) _)
  obtain ⟨v, handle, proper, hsent, -, -⟩ := restart_protocol server {} .background work 1
    { host := false } ran.2 _ ⟨"cockroach", 1⟩ (.ok (.ok 0)) conduct
    (State.sound_of_empty rfl rfl rfl) (by simp) (Prod.ext obtained rfl) (Prod.ext gave rfl)
    (by simp)
  refine ⟨gave, v, proper, ?_⟩
  rw [← hsent]
  decide +kernel

end SessionKeeper.Cockroach
