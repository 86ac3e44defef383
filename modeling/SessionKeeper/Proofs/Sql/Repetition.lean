import SessionKeeper.Proofs.Failure.Signature
import SessionKeeper.Proofs.Retry.Repetition
import SessionKeeper.Proofs.Sql.Commit
import SessionKeeper.Sql.MySql
import SessionKeeper.Sql.Postgres

/-!
The stores whose conflicts make another attempt: PostgreSQL and MySQL. In an attempt of theirs the
unit of work is run once (`RoundsTo.once`), so it is run again just when there is another attempt.
What follows a run that failed, and what follows a commit that failed, is told from the rule of the
store.

`withheld_failure_final` is about failures that are not to be repeated, of the kinds `application`
and `misconfigured`: they are final unless they wrap a server's error of the signature, which the
rule finds whatever wraps it (`withheld_failure_retried`). `failed_commit_settled` is about the
commit: a native error there is reported as `Failure.uncommitted`, and repeated just when the rule
says so.

Correspondence: `is_retryable` ↔ `ConflictRule.retries`, the arm of `run_tx` for a commit that fails
↔ `Store.commitAttempt`. Assumed is a unit of work that keeps to what is its own.
-/

namespace SessionKeeper

variable {H : Host} {α : Type}

/-- The store is that of PostgreSQL or of MySQL on the server: conflicts that bear the signature of
the rule make another attempt under the policy. -/
inductive Store.Repeats (server : Server H) (policy : RetryPolicy) :
    ConflictRule → Store H → Prop
  | postgres (isolation : Option IsolationLevel) :
      Repeats server policy .postgres (Postgres.store server policy isolation)
  | mysql : Repeats server policy .mysql (MySql.store server policy)

namespace Store

variable {server : Server H} {policy : RetryPolicy} {rule : ConflictRule} {store : Store H}
  {mode : Mode} {handle : Handle} {c : Connection} {work : UnitOfWork H α} {ctx : RequestContext}
  {held : List Connection} {restarts n : Nat} {s s' : State H}

namespace Repeats

theorem lawful (repeats : store.Repeats server policy rule) : store.Lawful := by
  cases repeats with
  | postgres isolation => exact Postgres.store_lawful server policy isolation
  | mysql => exact MySql.store_lawful server policy

theorem endsBy (repeats : store.Repeats server policy rule) : store.EndsBy server := by
  cases repeats <;> exact ⟨rfl, rfl⟩

theorem retries (repeats : store.Repeats server policy rule) : store.retries = rule.retries := by
  cases repeats <;> rfl

theorem policy_eq (repeats : store.Repeats server policy rule) (mode : Mode) :
    store.policy mode = policy := by
  cases repeats <;> rfl

theorem declines (repeats : store.Repeats server policy rule) (mode : Mode) (failure : Failure) :
    store.Declines mode failure := by
  cases repeats <;> exact fun _ _ => rfl

end Repeats

/-- A store that never starts over runs the unit of work once in an attempt. -/
theorem RoundsTo.once (lawful : store.Lawful) (keeps : ∀ inner, (work inner).run.Keeps held)
    (declines : ∀ failure, store.Declines mode failure) {rs : List (WorkRun H α)}
    {ending : Ending α}
    (account : RoundsTo store mode handle c work ctx restarts s rs ending s')
    (underway : Underway handle c held s) : ∃ r, rs = [r] := by
  cases account with
  | succeeded account => exact ⟨_, rfl⟩
  | panicked account => exact ⟨_, rfl⟩
  | failed account anew => exact ⟨_, rfl⟩
  | again account anew tos =>
    cases anew.of_declines (declines _) (account.underway lawful keeps underway).leads

namespace Takes

variable {t : Transaction H α} {outcome : Except Stop (Except Failure α)}

theorem failed_once (takes : store.Takes ctx mode work n s t outcome s') (lawful : store.Lawful)
    (keeps : ∀ inner, (work inner).run.Keeps held)
    (declines : ∀ failure, store.Declines mode failure) (sound : s.Sound)
    (known : ∀ d ∈ held, d ∈ s.connections) {r : WorkRun H α} (mem : r ∈ t.runs)
    {failure : Failure} (verdict : r.verdict = .ok (.error failure)) :
    t.runs = [r] ∧ t.ending = .failed failure := by
  have underway := takes.underway lawful sound known
  obtain ⟨r', once⟩ := takes.rounds.once lawful keeps declines underway
  obtain ⟨-, failed⟩ :=
    takes.rounds.final_of_declines lawful keeps (declines failure) underway r mem verdict
  rw [once, List.mem_singleton] at mem
  exact ⟨mem ▸ once, failed⟩

theorem answer_ofDriver (takes : store.Takes ctx mode work n s t outcome s')
    (ends : store.EndsBy server) {cause : Failure} (answer : t.answer = .error cause) :
    ∃ e, cause = .ofDriver e := by
  obtain ⟨finish, ending, -⟩ := takes.finish_sent ends
  rw [answer] at ending
  generalize t.ended.unreadOn t.connection = unread at ending
  cases ending with
  | refused error discarded => exact ⟨error, rfl⟩
  | unread error discarded => exact ⟨error, rfl⟩

/-- An attempt whose commit fails with a driver error fails with it. -/
theorem outcome_uncommitted (takes : store.Takes ctx mode work n s t outcome s')
    (commits : t.ending.commits = true) {e : DriverFailure}
    (answer : t.answer = .error (.ofDriver e)) : outcome = .ok (.error (.uncommitted e)) := by
  rw [takes.outcome, answer]
  cases hending : t.ending with
  | succeeded value => rfl
  | failed failure => simp [hending, Ending.commits] at commits
  | panicked message => simp [hending, Ending.commits] at commits

end Takes

/-- Under a live context the first attempt takes a transaction, if the store gives it a connection.
What is told of every attempt that does is told of it. -/
theorem first_takes {P : Made H α → List (Made H α) → Transaction H α → Prop}
    {retries : Failure → Bool} {left : Nat} {ms : List (Made H α)}
    {outcome : Except Stop (Except Failure α)}
    (account : policy.RunTo ctx retries (store.attempt ctx mode work) left n s ms outcome s')
    (live : s.timeline.status ctx.signal = none)
    (given : ((ctx.guard (store.request mode)).run.run s).1 = .ok (.ok c))
    (each : ∀ earlier m later, ms = earlier ++ m :: later →
      (∃ failure, (ctx.guard (store.request mode)).run.run m.before =
        (.ok (.error failure), m.after)) ∨
      ∃ t, store.Takes ctx mode work m.number m.before t m.outcome m.after ∧ P m later t) :
    ∃ m later t, ms = m :: later ∧
      (store.attempt ctx mode work n).run.run s = (m.outcome, m.after) ∧
      store.Takes ctx mode work n s t m.outcome m.after ∧ P m later t := by
  cases ms with
  | nil =>
    cases account with
    | refused status => cases live.symm.trans status
  | cons m later =>
    obtain ⟨rfl, rfl, -, ran⟩ := account.first
    rcases each [] m later rfl with ⟨refusal, refused⟩ | ⟨t, takes, told⟩
    · rw [refused] at given
      cases given
    · exact ⟨m, later, t, rfl, ran, takes, told⟩

/-! ## Runs that fail -/

/-- Failures that are not worth another attempt are final. Another attempt is withheld from a
failure that was canceled, or for which something was not found, anywhere in its chain. It is
withheld from one of the application, and from a mistake in the program, unless a server error
behind it bears the signature of the rule. A unit of work that fails with one of the former on
PostgreSQL or MySQL, under a context that is live, and is rolled back, is not run again, and its
failure is that of the call. -/
theorem withheld_failure_final (server : Server H) (policy : RetryPolicy) (rule : ConflictRule)
    (store : Store H) (mode : Mode) (ctx : RequestContext) (work : UnitOfWork H α)
    (s s' : State H) (outcome : Except Stop (Except Failure α)) {held : List Connection}
    (repeats : store.Repeats server policy rule) (keeps : ∀ inner, (work inner).run.Keeps held)
    (sound : s.Sound) (known : ∀ d ∈ held, d ∈ s.connections)
    (own : ctx.active? store.channel = none) (supported : mode = .readOnly → store.readOnly = true)
    (ran : (store.call mode ctx work).run.run s = (outcome, s'))
    (completed : outcome ≠ .error .dropped) :
    (∀ (rule : ConflictRule) (failure : Failure), failure.Withheld →
      (rule.retries failure = true ↔
        failure.is .canceled = false ∧ failure.is .notFound = false ∧
        (failure.kind = .application ∨ failure.kind = .misconfigured) ∧
        ∃ error ∈ failure.serverErrors, rule.holds error = true)) ∧
    ∃ ms, policy.RunTo ctx rule.retries (store.attempt ctx mode work) (policy.maxAttempts - 1) 1 s
        ms outcome s' ∧
      ∀ earlier m later, ms = earlier ++ m :: later →
        (∃ failure, (ctx.guard (store.request mode)).run.run m.before =
          (.ok (.error failure), m.after)) ∨
        ∃ t, store.Takes ctx mode work m.number m.before t m.outcome m.after ∧
          ∀ r ∈ t.runs, ∀ failure, r.verdict = .ok (.error failure) →
            rule.retries failure = false → m.after.timeline.status ctx.signal = none →
            t.answer = .ok () → t.runs = [r] ∧ later = [] ∧ outcome = .ok (.error failure) := by
  refine ⟨fun rule failure withheld => ConflictRule.retries_withheld_iff withheld, ?_⟩
  rw [call_own own supported, repeats.policy_eq, repeats.retries] at ran
  obtain ⟨ms, account⟩ := RetryPolicy.runFrom_account ran
  refine ⟨ms, account, fun earlier m later split => ?_⟩
  obtain ⟨before, ⟨failure, refused, -⟩ | ⟨t, takes⟩⟩ :=
    attempts_take repeats.lawful keeps account completed sound known (m := m) (by simp [split])
  · exact .inl ⟨failure, refused⟩
  · refine .inr ⟨t, takes, fun r mem failure verdict withheld live rolledBack => ?_⟩
    obtain ⟨once, failed⟩ := takes.failed_once repeats.lawful keeps (repeats.declines mode)
      before.sound (fun d hd => before.known (known d hd)) mem verdict
    have outcome : m.outcome = .ok (.error failure) := by
      rw [takes.outcome, failed, rolledBack]
      rfl
    exact ⟨once, account.final_of_declined withheld earlier m later split outcome live⟩

/-- A unit of work that reports as a conflict that it did not find what it looked for is run once,
and its failure is that of the call. -/
theorem withheld_failure_final_unknown :
    let server : Server ⟨Unit, Unit⟩ := ⟨fun _ _ host => ({ reply := .ok {} }, host)⟩
    let store := MySql.store server .default
    let ctx : RequestContext := .background
    let failure := Failure.wrap .conflict "lookup" (Failure.notFound "no such account")
    let work : UnitOfWork ⟨Unit, Unit⟩ Unit := fun _ => throw failure
    let s : State ⟨Unit, Unit⟩ := { host := () }
    failure.Withheld ∧ ∃ m t r s',
      (store.call .readWrite ctx work).run.run s = (.ok (.error failure), s') ∧
      RetryPolicy.default.RunTo ctx ConflictRule.mysql.retries (store.attempt ctx .readWrite work)
        3 1 s [m] (.ok (.error failure)) s' ∧
      store.Takes ctx .readWrite work 1 s t m.outcome m.after ∧
      t.runs = [r] ∧ r.verdict = .ok (.error failure) := by
  intro server store ctx failure work s
  have gave : ((store.call .readWrite ctx work).run.run s).1 = .ok (.error failure) := by
    decide +kernel
  have attempted : ((store.attempt ctx .readWrite work 1).run.run s).1 = .ok (.error failure) := by
    decide +kernel
  refine ⟨.inr (.inl (by decide)), ?_⟩
  have keeps : ∀ inner, (work inner).run.Keeps [] := fun _ => .of_confined trivial
  have sound : s.Sound := State.sound_of_empty rfl rfl rfl
  have known : ∀ d ∈ ([] : List Connection), d ∈ s.connections := by simp
  obtain ⟨-, ms, account, final⟩ := withheld_failure_final server .default .mysql store .readWrite
    ctx work s _ (.ok (.error failure)) .mysql keeps sound known rfl (by simp) (Prod.ext gave rfl)
    (by simp)
  obtain ⟨m, later, t, rfl, ran, takes, ends⟩ :=
    first_takes (c := ⟨"mysql", 1⟩) account rfl (by decide +kernel) final
  have failed : m.outcome = .ok (.error failure) := (congrArg Prod.fst ran).symm.trans attempted
  have lawful := MySql.store_lawful server .default
  obtain ⟨_, r, mem, last⟩ := takes.rounds.lastRun lawful keeps (takes.underway lawful sound known)
  obtain ⟨restarts, runs⟩ := last.runs
  have verdict : r.verdict = .ok (.error failure) :=
    (Except.ok.inj (congrArg Prod.fst runs.ran)).symm
  obtain ⟨-, failing⟩ :=
    takes.failed_once lawful keeps (fun _ _ _ => rfl) sound known mem verdict
  have answer : t.answer = .ok () := by
    have result := takes.outcome
    rw [failed, failing] at result
    cases hanswer : t.answer with
    | ok done => rfl
    | error cause =>
      rw [hanswer] at result
      simp [Ending.result, failure, Failure.internal, Failure.wrap] at result
  obtain ⟨once, rfl, -⟩ := ends r mem failure verdict (by decide) rfl answer
  exact ⟨m, t, r, _, Prod.ext gave rfl, account, takes, once, verdict⟩

/-- An error of the application that wraps a serialization failure is not withheld from PostgreSQL,
nor is a mistake in the program that does. -/
theorem withheld_failure_retried :
    ¬ ∀ (rule : ConflictRule) (failure : Failure), failure.Withheld →
      rule.retries failure = false := by
  intro never
  let serialization : DriverFailure := .database (.state (some "40001") "pg says no")
  have withheld := never .postgres ⟨.application, "wrapped", serialization.chain⟩
    (.inr (.inr (.inl rfl)))
  exact absurd withheld (by decide)

/-! ## Commits that fail -/

/-- What becomes of a call after its attempt `m`, of which the commit has failed with `e`. -/
structure Uncommitted (policy : RetryPolicy) (rule : ConflictRule) (ctx : RequestContext)
    (e : DriverFailure) (m : Made H α) (later : List (Made H α))
    (outcome : Except Stop (Except Failure α)) (s' : State H) : Prop where
  /-- There is another attempt only after a conflict that is repeated, under a context that is live,
  and if one is left. -/
  again : later ≠ [] → rule.Repeated e.error ∧ m.after.timeline.status ctx.signal = none ∧
    m.number < policy.maxAttempts
  /-- Under a context that is live the call ends, with the failure of the commit, if the conflict is
  none that is repeated or no attempt is left. -/
  final : m.after.timeline.status ctx.signal = none →
    ¬ (rule.Repeated e.error ∧ m.number < policy.maxAttempts) →
    later = [] ∧ outcome = .ok (.error (.uncommitted e))
  /-- In any case a call without another attempt ends with the failure of the commit or, if the
  context is done, with a cancellation. -/
  ended : later = [] → outcome = .ok (.error (.uncommitted e)) ∨
    s'.timeline.status ctx.signal ≠ none ∧
      ∃ reported, outcome = .ok (.error reported) ∧ reported.kind = .canceled
  conflict : rule.Known e.error → (Failure.uncommitted e).kind = .conflict
  internal : ¬ rule.Known e.error → (Failure.uncommitted e).kind = .internal
  carries : e.chain <:+ (Failure.uncommitted e).chain
  /-- PostgreSQL reports as a conflict just what it repeats. -/
  agrees : rule = .postgres →
    ((Failure.uncommitted e).kind = .conflict ↔ rule.retries (.uncommitted e) = true)

theorem uncommitted_of_settles {rule : ConflictRule} {e : DriverFailure} {m : Made H α}
    {later : List (Made H α)} {outcome : Except Stop (Except Failure α)} (native : rule.Native e)
    (settles : policy.Settles ctx rule.retries m (.uncommitted e) later outcome s') :
    Uncommitted policy rule ctx e m later outcome s' := by
  have repeated := native.retries_uncommitted
  obtain ⟨conflict, internal⟩ := native.kind_uncommitted
  refine ⟨?_, ?_, settles.ended, conflict, internal,
    ⟨[.failure _ _, .failure _ _], rfl⟩, ?_⟩
  · rw [← repeated]
    exact settles.again
  · rw [← repeated]
    exact settles.final
  · rintro rfl
    rw [repeated, ← ConflictRule.known_postgres_iff]
    refine ⟨fun kind => ?_, conflict⟩
    by_contra unknown
    rw [internal unknown] at kind
    cases kind

/-- A commit that failed is not repeated blindly. Of the attempts of a call on PostgreSQL or MySQL
each got no connection or took a transaction. Where the commit of one fails it is with an error of
the driver: the reply to `COMMIT`, or one that was left unread and is taken for it. If that error is
the database's own, the unit of work is run again only after a conflict that the rule repeats, under
a live context, with attempts left; otherwise the call ends, and reports the error as what it is. -/
theorem failed_commit_settled (server : Server H) (policy : RetryPolicy) (rule : ConflictRule)
    (store : Store H) (mode : Mode) (ctx : RequestContext) (work : UnitOfWork H α)
    (s s' : State H) (outcome : Except Stop (Except Failure α)) {held : List Connection}
    (repeats : store.Repeats server policy rule) (keeps : ∀ inner, (work inner).run.Keeps held)
    (sound : s.Sound) (known : ∀ d ∈ held, d ∈ s.connections)
    (own : ctx.active? store.channel = none) (supported : mode = .readOnly → store.readOnly = true)
    (ran : (store.call mode ctx work).run.run s = (outcome, s'))
    (completed : outcome ≠ .error .dropped) :
    ∃ ms, policy.RunTo ctx rule.retries (store.attempt ctx mode work) (policy.maxAttempts - 1) 1 s
        ms outcome s' ∧
      ∀ earlier m later, ms = earlier ++ m :: later →
        (∃ failure, (ctx.guard (store.request mode)).run.run m.before =
          (.ok (.error failure), m.after)) ∨
        ∃ t, store.Takes ctx mode work m.number m.before t m.outcome m.after ∧
          ∀ cause, t.ending.commits = true → t.answer = .error cause →
            ∃ e finish, cause = .ofDriver e ∧ m.outcome = .ok (.error (.uncommitted e)) ∧
              Server.EndsWith Server.committing (t.ended.unreadOn t.connection)
                (.error (.ofDriver e)) finish ∧
              sent t.connection m.after.trace = sent t.connection t.ended.trace ++ finish ∧
              (rule.Native e → Uncommitted policy rule ctx e m later outcome s') := by
  rw [call_own own supported, repeats.policy_eq, repeats.retries] at ran
  obtain ⟨ms, account⟩ := RetryPolicy.runFrom_account ran
  refine ⟨ms, account, fun earlier m later split => ?_⟩
  obtain ⟨-, ⟨failure, refused, -⟩ | ⟨t, takes⟩⟩ :=
    attempts_take repeats.lawful keeps account completed sound known (m := m) (by simp [split])
  · exact .inl ⟨failure, refused⟩
  · refine .inr ⟨t, takes, fun cause commits answer => ?_⟩
    obtain ⟨e, rfl⟩ := takes.answer_ofDriver repeats.endsBy answer
    obtain ⟨finish, ending, hfinish⟩ := takes.finish_sent repeats.endsBy
    rw [commits, answer] at ending
    have failed := takes.outcome_uncommitted commits answer
    refine ⟨e, finish, rfl, failed, ending, hfinish, fun native => ?_⟩
    exact uncommitted_of_settles native
      (account.settles policy.run_bound earlier m later split _ failed)

/-- A lock wait timeout of MySQL at the commit is reported as the conflict that it is, and not
repeated. -/
theorem failed_commit_settled_lockWait :
    let e : DriverFailure := .database (.numbered 1205 (some "HY000") "Lock wait timeout exceeded")
    let server : Server ⟨Unit, Unit⟩ := ⟨fun _ statement host =>
      ({ reply := if statement = Server.committing then .error e else .ok {} }, host)⟩
    let store := MySql.store server .default
    let ctx : RequestContext := .background
    let work : UnitOfWork ⟨Unit, Unit⟩ Unit := fun _ => pure ()
    let s : State ⟨Unit, Unit⟩ := { host := () }
    ∃ m later t outcome s', (store.call .readWrite ctx work).run.run s = (outcome, s') ∧
      RetryPolicy.default.RunTo ctx ConflictRule.mysql.retries (store.attempt ctx .readWrite work)
        3 1 s (m :: later) outcome s' ∧
      store.Takes ctx .readWrite work 1 s t m.outcome m.after ∧
      t.ending.commits = true ∧ t.answer = .error (.ofDriver e) ∧ ConflictRule.mysql.Native e ∧
      later = [] ∧ outcome = .ok (.error (.uncommitted e)) ∧
      (Failure.uncommitted e).kind = .conflict := by
  intro e server store ctx work s
  have attempted : ((store.attempt ctx .readWrite work 1).run.run s).1 =
      .ok (.error (.uncommitted e)) := by decide +kernel
  have keeps : ∀ inner, (work inner).run.Keeps [] := fun _ => .of_confined trivial
  have sound : s.Sound := State.sound_of_empty rfl rfl rfl
  have gave : ((store.call .readWrite ctx work).run.run s).1 =
      .ok (.error (.uncommitted e)) := by decide +kernel
  have known : ∀ d ∈ ([] : List Connection), d ∈ s.connections := by simp
  obtain ⟨ms, account, settled⟩ := failed_commit_settled server .default .mysql store .readWrite
    ctx work s _ _ .mysql keeps sound known rfl (by simp) (Prod.ext gave rfl) (by simp)
  obtain ⟨m, later, t, rfl, ran, takes, fails⟩ :=
    first_takes (c := ⟨"mysql", 1⟩) account rfl (by decide +kernel) settled
  have failed : m.outcome = .ok (.error (.uncommitted e)) :=
    (congrArg Prod.fst ran).symm.trans attempted
  have lawful := MySql.store_lawful server .default
  obtain ⟨_, r, mem, last⟩ := takes.rounds.lastRun lawful keeps (takes.underway lawful sound known)
  obtain ⟨restarts, runs⟩ := last.runs
  have ending : t.ending = .succeeded () := (last.succeeded_iff ()).mpr
    ⟨(Except.ok.inj (congrArg Prod.fst runs.ran)).symm, _, rfl⟩
  have native : ConflictRule.mysql.Native e := ConflictRule.native_database .mysql
  cases hanswer : t.answer with
  | ok done =>
    have result := takes.outcome
    rw [failed, ending, hanswer] at result
    cases result
  | error cause =>
    obtain ⟨e', finish, rfl, failed', -, -, told⟩ := fails cause (by rw [ending]; rfl) hanswer
    rw [failed] at failed'
    obtain rfl := Failure.uncommitted_inj (Except.error.inj (Except.ok.inj failed'))
    have tells := told native
    have unrepeated : ¬ ConflictRule.mysql.Repeated e.error := nofun
    obtain ⟨rfl, -⟩ := tells.final rfl fun again => unrepeated again.1
    exact ⟨m, [], t, _, _, Prod.ext gave rfl, account, takes, by rw [ending]; rfl, hanswer, native,
      rfl, rfl, tells.conflict .lockWait⟩

end Store

end SessionKeeper
