import SessionKeeper.Proofs.Retry.Cancellation
import SessionKeeper.Proofs.Sql.Beginning
import SessionKeeper.Proofs.Sql.SingleRun

/-!
The characteristics of a transaction on PostgreSQL. In every attempt of a call they are set right
after `BEGIN`, before anything is sent for the unit of work, and nothing but the end is sent after
it. Where one of them is not set, the transaction does not come about (`characteristics_first`).

`Postgres.characteristics` is the list of statements that set them: the isolation level if one is
configured, then read-only for the mode of that name. An attempt either has set all of them
(`SetUpFirst`) or has sent an initial part of them and nothing else but what discards the
transaction (`NotSetUp`).

Correspondence: `begin` of the PostgreSQL backend ↔ `Postgres.store` at `start`, with
`with_isolation` as its setting. Assumed is a unit of work that keeps to what is its own, and
surroundings that are in order.
-/

namespace SessionKeeper

variable {H : Host} {α : Type}

namespace Postgres

/-- After the statement a transaction only reads. -/
def readingOnly : Statement := ⟨"SET TRANSACTION READ ONLY", []⟩

/-- What characterises a transaction: its level of isolation if one is configured, and that it only
reads if it does. -/
def characteristics (isolation : Option IsolationLevel) (mode : Mode) : List Statement :=
  isolation.toList.map (·.statement) ++ if mode = .readOnly then [readingOnly] else []

variable {server : Server H} {policy : RetryPolicy} {isolation : Option IsolationLevel}
  {mode : Mode}

theorem setUp_eq_characteristics (isolation : Option IsolationLevel) (mode : Mode) :
    setUp isolation mode = characteristics isolation mode := by
  cases isolation <;> cases mode <;> rfl

theorem store_start : (store server policy isolation).start mode =
    server.begin "postgres" (characteristics isolation mode) := by
  rw [← setUp_eq_characteristics]
  rfl

theorem store_runsOnce : (store server policy isolation).RunsOnce mode :=
  ⟨fun _ => rfl, fun _ _ _ => rfl⟩

theorem ne_committing_of_mem {statement : Statement}
    (mem : statement ∈ characteristics isolation mode) : statement ≠ Server.committing := by
  revert statement
  rcases isolation with _ | level
  · cases mode <;> decide
  · cases level <;> cases mode <;> decide

end Postgres

namespace Server

variable {c : Connection} {setUp : List Statement} {reply : Reply} {exchanges : List Exchange}

/-- A beginning is committed nowhere. -/
theorem BreaksOff.uncommitted (breaks : BreaksOff setUp reply exchanges)
    (others : ∀ statement ∈ setUp, statement ≠ committing) :
    ∀ x ∈ exchanges, x.1 ≠ committing := by
  have began : beginning ≠ committing := by decide
  have discarded : rollingBack ≠ committing := by decide
  cases breaks with
  | first => simpa using began
  | later halts =>
    obtain ⟨before, statement, after, agreed, rfl, agrees, rfl⟩ := halts
    have set : ∀ x ∈ agreed, x.1 ≠ committing := fun x mem =>
      others x.1 (List.mem_append_left _ (agrees.sent ▸ List.mem_map_of_mem mem))
    have last : statement ≠ committing := others statement (by simp)
    simpa [or_imp, forall_and, began, last, discarded] using set

theorem Begins.uncommitted {done : Prop} {unread : Option DriverFailure} {failure : Failure}
    (begins : Begins c setUp done unread (.error failure) exchanges)
    (others : ∀ statement ∈ setUp, statement ≠ committing) :
    ∀ x ∈ exchanges, x.1 ≠ committing := by
  cases begins with
  | refused breaks => exact breaks.uncommitted others
  | overtaken breaks => exact breaks.uncommitted others
  | unread => simp

end Server

/-- What a beginning records is all that is told of its connection, which is new. -/
theorem State.Records.about {s s' : State H} {c : Connection} {name : String} {mode : Mode}
    {exchanges : List Exchange}
    (recorded : s.Records
      (.requested name mode :: .opened c :: exchanges.map (Exchange.event c)) s')
    (sound : s.Sound) (new : c ∉ s.connections) :
    about c s'.trace = .opened c :: exchanges.map (Exchange.event c) := by
  obtain ⟨added, trace, events⟩ := recorded
  have nothing : SessionKeeper.about c s.trace = [] :=
    about_eq_nil fun e mem of => new (sound.traced e mem c of)
  have exchanged : ∀ e ∈ (exchanges.map (Exchange.event c) : List (Event H.Note)),
      e.connection? = some c := by
    intro e mem
    obtain ⟨exchange, -, rfl⟩ := List.mem_map.mp mem
    rfl
  rw [trace, about_append, nothing, List.nil_append, SessionKeeper.about, events,
    List.filter_cons_of_neg (by simp [Event.connection?]),
    List.filter_cons_of_pos (by simp [Event.connection?]),
    List.filter_eq_self.mpr (by simpa using exchanged)]

namespace Postgres

/-- The transaction was set up as it is characterised before the one run of its unit of work, and
what was sent on its connection after the run is its end. -/
structure SetUpFirst (isolation : Option IsolationLevel) (mode : Mode) (t : Transaction H α)
    (r : WorkRun H α) (trace : Trace H.Note) : Prop where
  once : t.runs = [r]
  sent : ∃ opening finish unread,
    Server.Agreed (Server.beginning :: characteristics isolation mode) opening ∧
    sent t.connection r.before.trace = opening ∧
    Server.EndsWith (Store.endingStatement t.ending.commits) unread t.answer finish ∧
    sent t.connection trace = opening ++ (r.sent t.connection ++ finish)

/-- The attempt failed to begin its transaction on `c`, for which nothing was done but what was
exchanged for the beginning. -/
structure NotSetUp (isolation : Option IsolationLevel) (mode : Mode) (ctx : RequestContext)
    (m : Made H α) (c : Connection) (failure : Failure) (exchanges : List Exchange)
    (trace : Trace H.Note) : Prop where
  new : c ∉ m.before.connections
  begins : Server.Begins c (characteristics isolation mode)
    (m.after.timeline.status ctx.signal ≠ none) (m.before.unreadOn c) (.error failure) exchanges
  outcome : m.outcome = .ok (.error failure)
  recorded : m.before.Records
    (.requested "postgres" mode :: .opened c :: exchanges.map (Exchange.event c)) m.after
  about : about c trace = .opened c :: exchanges.map (Exchange.event c)
  uncommitted : ∀ x ∈ exchanges, x.1 ≠ Server.committing

variable {ctx : RequestContext} {work : UnitOfWork H α} {held : List Connection} {n : Nat}
  {s s' s'' : State H}

theorem takes_setUpFirst {t : Transaction H α} {outcome : Except Stop (Except Failure α)}
    (takes : (store server policy isolation).Takes ctx mode work n s t outcome s')
    (keeps : ∀ inner, (work inner).run.Keeps held) (sound : s.Sound)
    (known : ∀ d ∈ held, d ∈ s.connections)
    (later : Steady (Footprint.unit.reach held s') s' s'') :
    ∃ r, SetUpFirst isolation mode t r s''.trace := by
  have lawful := store_lawful server policy isolation
  have agreed := Store.request_agreed store_start sound takes.given
  obtain ⟨r, finish, once, -, -, -, ends, began, sent⟩ :=
    takes.sent_once store_runsOnce lawful ⟨rfl, rfl⟩ keeps sound known
  have still := takes.sent_later lawful keeps sound known later
  exact ⟨r, once, _, finish, _, agreed, began, ends, still.trans sent⟩

theorem refused_notSetUp {m : Made H α} {failure : Failure}
    (refused : (ctx.guard ((store server policy isolation).request mode)).run.run m.before =
      (.ok (.error failure), m.after)) (outcome : m.outcome = .ok (.error failure))
    (live : m.before.timeline.status ctx.signal = none) (sound : m.before.Sound)
    (known : ∀ d ∈ held, d ∈ m.before.connections)
    (later : Steady (Footprint.unit.reach held m.after) m.after s') :
    ∃ c exchanges, NotSetUp isolation mode ctx m c failure exchanges s'.trace := by
  have alone := Store.request_alone (store_lawful server policy isolation) sound refused
  obtain ⟨c, exchanges, new, begins, recorded⟩ :=
    Store.request_begins store_start live sound refused
  have told := recorded.about sound new
  have here : c ∈ m.after.connections := by
    have mem : (.opened c : Event H.Note) ∈ about c m.after.trace := told ▸ List.mem_cons_self
    obtain ⟨e, mem, same⟩ := List.mem_map.mp (List.mem_of_mem_filter mem)
    exact alone.steady.sound.traced e mem c (same ▸ rfl)
  have free : ∀ lease, m.after.connectionOf lease ≠ some c := by
    intro lease leads
    rw [alone.steady.connectionOf] at leads
    exact new (sound.leased lease c leads)
  refine ⟨c, exchanges, new, begins, outcome, recorded, ?_,
    begins.uncommitted fun _ => ne_committing_of_mem⟩
  rw [later.about_eq here (fun mem => new (known c mem)) free, told]

/-- The characteristics of a transaction come first, in every attempt of a call. An attempt that gets
through was begun and set up, in this order and without an error, before its unit of work ran, and
after the run nothing was sent but the end. In one that does not, nothing was sent after the
statement that was refused, or before the reply to which the context was done, but the `ROLLBACK`
of what had begun. It fails with that error or is canceled, and the policy deals with the failure as
with any other. -/
theorem characteristics_first (server : Server H) (policy : RetryPolicy)
    (isolation : Option IsolationLevel) (mode : Mode) (ctx : RequestContext)
    (work : UnitOfWork H α) (s s' : State H) (outcome : Except Stop (Except Failure α))
    {held : List Connection} (keeps : ∀ inner, (work inner).run.Keeps held) (sound : s.Sound)
    (known : ∀ d ∈ held, d ∈ s.connections)
    (own : ctx.active? (store server policy isolation).channel = none)
    (ran : ((store server policy isolation).call mode ctx work).run.run s = (outcome, s'))
    (completed : outcome ≠ .error .dropped) :
    ∃ ms, policy.RunTo ctx (store server policy isolation).retries
        ((store server policy isolation).attempt ctx mode work) (policy.maxAttempts - 1) 1 s ms
        outcome s' ∧
      ∀ m ∈ ms,
        (∃ t r, (store server policy isolation).Takes ctx mode work m.number m.before t m.outcome
          m.after ∧ SetUpFirst isolation mode t r s'.trace) ∨
        ∃ c failure exchanges, NotSetUp isolation mode ctx m c failure exchanges s'.trace := by
  have lawful := store_lawful server policy isolation
  rw [Store.call_own own fun _ => rfl] at ran
  obtain ⟨ms, account⟩ := RetryPolicy.runFrom_account ran
  refine ⟨ms, account, fun m mem => ?_⟩
  obtain ⟨makes, -⟩ := account.makes m mem
  obtain ⟨-, attempts⟩ := Store.attempts_keep lawful keeps account completed sound known
  obtain ⟨before, -, -, after⟩ := attempts m mem
  have known' := fun d hd => before.known (known d hd)
  rcases (Store.attempts_take lawful keeps account completed sound known mem).2 with
    ⟨failure, refused, outcome⟩ | ⟨t, takes⟩
  · obtain ⟨c, exchanges, not⟩ :=
      refused_notSetUp refused outcome makes.live before.sound known' after
    exact .inr ⟨c, failure, exchanges, not⟩
  · obtain ⟨r, first⟩ := takes_setUpFirst takes keeps before.sound known' after
    exact .inl ⟨t, r, takes, first⟩

/-- The first transaction is refused to be read-only and the refusal is a conflict, so there is a
second attempt, in which everything is set again before the unit of work asks anything. -/
theorem characteristics_first_retried :
    let conflict : DriverFailure := .database (.state (some "40001") "could not serialize access")
    let server : Server ⟨Bool, Unit⟩ := ⟨fun _ statement refused =>
      if statement = readingOnly ∧ refused = false then (⟨.error conflict, .ofMillis 3, []⟩, true)
      else (⟨.ok {}, .zero, []⟩, refused)⟩
    let isolation := some IsolationLevel.serializable
    let work : UnitOfWork ⟨Bool, Unit⟩ Nat := fun inner =>
      ((database server .default isolation).executor inner).execute ⟨"SELECT 1", []⟩
    let s : State ⟨Bool, Unit⟩ := { host := false }
    let ran := ((store server .default isolation).call .readOnly .background work).run.run s
    ran.1 = .ok (.ok 0) ∧
    (sent ⟨"postgres", 1⟩ ran.2.trace).map (·.1.text) =
      ["BEGIN", "SET TRANSACTION ISOLATION LEVEL SERIALIZABLE", "SET TRANSACTION READ ONLY",
        "ROLLBACK"] ∧
    (sent ⟨"postgres", 2⟩ ran.2.trace).map (·.1.text) =
      ["BEGIN", "SET TRANSACTION ISOLATION LEVEL SERIALIZABLE", "SET TRANSACTION READ ONLY",
        "SELECT 1", "COMMIT"] ∧
    ∃ (m : Made ⟨Bool, Unit⟩ Nat) (t : Transaction ⟨Bool, Unit⟩ Nat) (r : WorkRun ⟨Bool, Unit⟩ Nat),
      m.outcome = ran.1 ∧
      (store server .default isolation).Takes .background .readOnly work m.number m.before t
        m.outcome m.after ∧ SetUpFirst isolation .readOnly t r ran.2.trace := by
  intro conflict server isolation work s ran
  have gave : ran.1 = .ok (.ok 0) := by decide +kernel
  have keeps : ∀ inner, (work inner).run.Keeps [] := fun inner =>
    .of_confined (Executor.query_confined _ (fun _ _ _ _ => trivial) _)
  obtain ⟨ms, account, each⟩ := characteristics_first server .default isolation .readOnly
    .background work s ran.2 (.ok (.ok 0)) keeps (State.sound_of_empty rfl rfl rfl) (by simp) rfl
    (Prod.ext gave rfl) (by simp)
  refine ⟨gave, by decide +kernel, by decide +kernel, ?_⟩
  obtain ⟨earlier, m, rfl, last, -⟩ := account.last_of_ok
  rcases each m (by simp) with ⟨t, r, takes, first⟩ | ⟨c, failure, exchanges, not⟩
  · exact ⟨m, t, r, last.trans gave.symm, takes, first⟩
  · cases last.symm.trans not.outcome

end Postgres

end SessionKeeper
