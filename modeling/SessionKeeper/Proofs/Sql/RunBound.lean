import Mathlib.Algebra.Group.Nat.Defs
import SessionKeeper.Proofs.Retry.Schedule
import SessionKeeper.Proofs.Sql.Attended
import SessionKeeper.Proofs.Sql.Rewinding
import SessionKeeper.Proofs.Transaction.Rerun

/-!
How often a unit of work is run. Two loops may run it again: the policy makes another attempt, and
the store starts over within one. The policy bounds the first (`RetryPolicy.RunTo.length_le`), the
store alone bounds the second (`Store.RoundsTo.bounded`), and of each store one of the two loops is
run through once only (`Store.Bounds`), so the bounds add up and do not multiply.

Correspondence: the loop of `with_retry` ↔ `RetryPolicy.runFrom`, that of `run_tx` ↔ `Store.rounds`;
`Store.Bounds` lists the three backends with their `max_attempts` and `max_restarts`.

That a call ends at all is part of `Store.call_runs_bounded`, for a unit of work that ends of its
own: how far attempts are followed plays no part, as each store declines by then.
-/

namespace SessionKeeper

variable {H : Host} {α : Type}

/-! ## The two loops -/

theorem RetryPolicy.RunTo.length_le {κ : Type} {V : κ → Type} {policy : RetryPolicy}
    {ctx : Context V} {retries : Failure → Bool} {attempt : Nat → Work H α} {left n : Nat}
    {s s' : State H} {outcome : Except Stop (Except Failure α)} {ms : List (Made H α)}
    (account : policy.RunTo ctx retries attempt left n s ms outcome s') : ms.length ≤ left + 1 := by
  induction account with
  | again makes houtcome status again hpause tos ih => exact Nat.succ_le_succ ih
  | refused status => exact Nat.zero_le _
  | _ => exact Nat.succ_le_succ (Nat.zero_le _)

theorem Transaction.length_runs_le {ts : List (Transaction H α)} {bound : Nat}
    (each : ∀ t ∈ ts, t.runs.length ≤ bound) :
    (ts.flatMap (·.runs)).length ≤ ts.length * bound := by
  induction ts with
  | nil => exact Nat.zero_le _
  | cons t ts ih =>
    have first := each t List.mem_cons_self
    have later := ih fun t mem => each t (List.mem_cons_of_mem _ mem)
    rw [List.flatMap_cons, List.length_append, List.length_cons, Nat.succ_mul]
    omega

namespace Store

variable {store : Store H} {server : Server H} {mode : Mode} {handle : Handle} {c : Connection}
  {work : UnitOfWork H α} {ctx : RequestContext} {held : List Connection}
  {restarts limit left n : Nat} {s s' : State H} {outcome : Except Stop (Except Failure α)}

/-- The store starts over only while there were fewer restarts than the limit. -/
def RestartsBelow (store : Store H) (mode : Mode) (limit : Nat) : Prop :=
  ∀ c failure restarts s s',
    (store.restart mode c failure restarts).run.run s = (.ok (.ok true), s') → restarts < limit

theorem RestartTo.below (below : store.RestartsBelow mode limit) {failure : Failure}
    (account : RestartTo store mode handle failure restarts s (.ok true) s') :
    restarts < limit := by
  cases account with
  | answered leads ran => exact below _ _ _ _ _ ran

/-- There are no more runs than the first and those that may be restarted, and no more restarts are
ever counted than the limit. -/
theorem RoundsTo.bounded (below : store.RestartsBelow mode limit) {rs : List (WorkRun H α)}
    {ending : Ending α}
    (account : RoundsTo store mode handle c work ctx restarts s rs ending s')
    (within : restarts ≤ limit) :
    restarts + rs.length ≤ limit + 1 ∧ ∀ r ∈ rs, r.restarts ≤ limit := by
  have only : ∀ {restarts s} {r : WorkRun H α}, store.Runs handle c work ctx restarts s r →
      restarts ≤ limit → restarts + [r].length ≤ limit + 1 ∧ ∀ x ∈ [r], x.restarts ≤ limit := by
    intro restarts s r runs within
    refine ⟨Nat.succ_le_succ within, fun x mem => ?_⟩
    rw [List.mem_singleton.mp mem, runs.number]
    exact within
  induction account with
  | succeeded account => exact only account.runs within
  | panicked account => exact only account.runs within
  | failed account anew => exact only account.runs within
  | again account anew tos ih =>
    cases anew with
    | ready status restart ran =>
      obtain ⟨total, counted⟩ := ih (restart.below below)
      obtain ⟨-, first⟩ := only account.runs within
      refine ⟨by rw [List.length_cons]; omega, fun x mem => ?_⟩
      rcases List.mem_cons.mp mem with rfl | mem
      · exact first _ (List.mem_singleton_self _)
      · exact counted x mem

/-! ## The transactions of a call -/

/-- The attempts `ms` took the transactions `ts`, in order; the others got no connection. -/
inductive Took (store : Store H) (ctx : RequestContext) (mode : Mode) (work : UnitOfWork H α) :
    List (Made H α) → List (Transaction H α) → Prop
  | nil : Took store ctx mode work [] []
  | refused {m : Made H α} {ms : List (Made H α)} {ts : List (Transaction H α)}
      {failure : Failure} :
      (ctx.guard (store.request mode)).run.run m.before = (.ok (.error failure), m.after) →
      Took store ctx mode work ms ts → Took store ctx mode work (m :: ms) ts
  | took {m : Made H α} {ms : List (Made H α)} {t : Transaction H α}
      {ts : List (Transaction H α)} :
      store.Takes ctx mode work m.number m.before t m.outcome m.after →
      Took store ctx mode work ms ts → Took store ctx mode work (m :: ms) (t :: ts)

namespace Took

variable {ms : List (Made H α)} {ts : List (Transaction H α)}

theorem length_le (took : store.Took ctx mode work ms ts) : ts.length ≤ ms.length := by
  induction took with
  | nil => exact Nat.le_refl _
  | refused refusal later ih => exact Nat.le_succ_of_le ih
  | took takes later ih => exact Nat.succ_le_succ ih

theorem exists_made (took : store.Took ctx mode work ms ts) :
    ∀ t ∈ ts, ∃ m ∈ ms, store.Takes ctx mode work m.number m.before t m.outcome m.after := by
  induction took with
  | nil => simp
  | refused refusal later ih =>
    intro t mem
    obtain ⟨m, hm, takes⟩ := ih t mem
    exact ⟨m, List.mem_cons_of_mem _ hm, takes⟩
  | took takes later ih =>
    intro t mem
    rcases List.mem_cons.mp mem with rfl | mem
    · exact ⟨_, List.mem_cons_self, takes⟩
    · obtain ⟨m, hm, takes⟩ := ih t mem
      exact ⟨m, List.mem_cons_of_mem _ hm, takes⟩

end Took

theorem Took.made (lawful : store.Lawful) (keeps : ∀ inner, (work inner).run.Keeps held)
    {m : Made H α} (makes : RetryPolicy.Makes ctx (store.attempt ctx mode work) n s m)
    (completed : m.outcome ≠ .error .dropped) (sound : s.Sound)
    (known : ∀ d ∈ held, d ∈ s.connections) {ms : List (Made H α)} {ts : List (Transaction H α)}
    (later : store.Took ctx mode work ms ts) (distinct : (ts.map (·.connection)).Nodup)
    (fresh : ∀ t ∈ ts, t.connection ∉ m.after.connections) :
    ∃ ts', store.Took ctx mode work (m :: ms) ts' ∧ (ts'.map (·.connection)).Nodup ∧
      ∀ t ∈ ts', t.connection ∉ s.connections := by
  obtain ⟨rfl, rfl⟩ := And.intro makes.number makes.before
  have kept := attempt_keeps lawful keeps _ _ _ sound known makes.ran completed
  have fresh' : ∀ t ∈ ts, t.connection ∉ m.before.connections :=
    fun t mem old => fresh t mem (kept.known old)
  rcases attempt_takes lawful keeps sound known makes.ran completed with
    ⟨failure, refused, -⟩ | ⟨t, takes⟩
  · exact ⟨ts, .refused refused later, distinct, fresh'⟩
  · obtain ⟨here, -⟩ := takes.out_of_reach lawful keeps sound known
    have apart : t.connection ∉ ts.map (·.connection) := by
      intro mem
      obtain ⟨t', mem', same⟩ := List.mem_map.mp mem
      exact fresh t' mem' (same ▸ here)
    refine ⟨t :: ts, .took takes later, List.nodup_cons.mpr ⟨apart, distinct⟩, fun t' mem => ?_⟩
    rcases List.mem_cons.mp mem with rfl | mem
    · exact takes.fresh lawful sound
    · exact fresh' t' mem

/-- Each attempt of a call got no connection or took a transaction, each on a new connection of its
own. -/
theorem attempts_took (lawful : store.Lawful) (keeps : ∀ inner, (work inner).run.Keeps held)
    {policy : RetryPolicy} {retries : Failure → Bool} {ms : List (Made H α)}
    (account : policy.RunTo ctx retries (store.attempt ctx mode work) left n s ms outcome s')
    (completed : outcome ≠ .error .dropped) (sound : s.Sound)
    (known : ∀ d ∈ held, d ∈ s.connections) :
    ∃ ts, store.Took ctx mode work ms ts ∧ (ts.map (·.connection)).Nodup ∧
      ∀ t ∈ ts, t.connection ∉ s.connections := by
  have only : ∀ {n s} {m : Made H α}, RetryPolicy.Makes ctx (store.attempt ctx mode work) n s m →
      m.outcome ≠ .error .dropped → s.Sound → (∀ d ∈ held, d ∈ s.connections) →
      ∃ ts, store.Took ctx mode work [m] ts ∧ (ts.map (·.connection)).Nodup ∧
        ∀ t ∈ ts, t.connection ∉ s.connections := by
    intro n s m makes completed sound known
    exact Took.made lawful keeps makes completed sound known .nil List.nodup_nil (by simp)
  induction account with
  | refused status => exact ⟨[], .nil, List.nodup_nil, by simp⟩
  | stopped makes houtcome => exact only makes (houtcome ▸ completed) sound known
  | succeeded makes houtcome => exact only makes (by simp [houtcome]) sound known
  | canceled makes houtcome status => exact only makes (by simp [houtcome]) sound known
  | final makes houtcome status again => exact only makes (by simp [houtcome]) sound known
  | exhausted makes houtcome status again => exact only makes (by simp [houtcome]) sound known
  | cut makes houtcome status again hpause => exact only makes (by simp [houtcome]) sound known
  | @again left n s s₁ s' m ms failure outcome makes houtcome status again hpause tos ih =>
    have made := attempt_keeps lawful keeps _ _ _ sound known makes.ran (by simp [houtcome])
    have logged : Steady (fun _ _ => False) m.after
        (m.after.logged .debug (policy.retrying n failure)) := .logged made.sound _ _
    have rested : Steady (fun _ _ => False) m.after s₁ :=
      logged.trans (.of_quiet logged.sound (Context.pause_quiet hpause))
    obtain ⟨ts, took, distinct, fresh⟩ := ih completed rested.sound
      fun d hd => rested.known (made.known (known d hd))
    exact Took.made lawful keeps makes (by simp [houtcome]) sound known took distinct
      fun t mem old => fresh t mem (rested.known old)

/-! ## The stores -/

/-- How many attempts the store makes for a call of the given mode, and how often it may start over
in one of them, at most. -/
inductive Bounds (server : Server H) : Store H → Mode → Nat → Nat → Prop
  | postgres (policy : RetryPolicy) (isolation : Option IsolationLevel) (mode : Mode) :
      Bounds server (Postgres.store server policy isolation) mode policy.maxAttempts 0
  | mysql (policy : RetryPolicy) :
      Bounds server (MySql.store server policy) .readWrite policy.maxAttempts 0
  | cockroach (settings : Cockroach.Settings) :
      Bounds server (Cockroach.store server settings) .readWrite 1 settings.maxRestarts
  | cockroachReading (settings : Cockroach.Settings) :
      Bounds server (Cockroach.store server settings) .readOnly 1 0

namespace Bounds

variable {attempts : Nat}

theorem lawful (bounds : store.Bounds server mode attempts restarts) : store.Lawful := by
  cases bounds with
  | postgres policy isolation => exact Postgres.store_lawful server policy isolation
  | mysql policy => exact MySql.store_lawful server policy
  | cockroach settings => exact Cockroach.store_lawful server settings
  | cockroachReading settings => exact Cockroach.store_lawful server settings

theorem attends (bounds : store.Bounds server mode attempts restarts) : store.Attends := by
  cases bounds with
  | postgres policy isolation => exact Postgres.store_attends server policy isolation
  | mysql policy => exact MySql.store_attends server policy
  | cockroach settings => exact Cockroach.store_attends server settings
  | cockroachReading settings => exact Cockroach.store_attends server settings

theorem supported (bounds : store.Bounds server mode attempts restarts) :
    mode = .readOnly → store.readOnly = true := by
  cases bounds with
  | mysql policy => simp
  | _ => exact fun _ => rfl

theorem maxAttempts_eq (bounds : store.Bounds server mode attempts restarts) :
    (store.policy mode).maxAttempts = attempts := by
  cases bounds <;> rfl

theorem below (bounds : store.Bounds server mode attempts restarts) :
    store.RestartsBelow mode restarts := by
  intro c failure k s s' ran
  cases bounds with
  | postgres policy isolation => cases ran
  | mysql policy => cases ran
  | cockroach settings =>
    rcases Cockroach.restart_sent ran with ⟨declined, -⟩ | ⟨-, allowed, -⟩
    · cases declined
    · exact allowed
  | cockroachReading settings =>
    have declines : (Cockroach.store server settings).DeclinesAfter .readOnly failure k :=
      Cockroach.declinesAfter (Cockroach.wantsRestart_eq_false_iff.mpr (.inl rfl))
    rw [declines c] at ran
    cases ran

/-- One of the two loops is run through once. -/
theorem sum_of_product (bounds : store.Bounds server mode attempts restarts) :
    attempts * (restarts + 1) = attempts + restarts := by
  cases bounds <;> omega

end Bounds

/-- Units of work are run a bounded number of times. On PostgreSQL and MySQL a call that joins no
transaction runs its unit of work once in an attempt, each on a new connection, and makes no more
attempts than the policy allows. On CockroachDB it makes one attempt, and runs the unit of work on
the one connection of that, no more often than once and once after each restart, which only
transactions that write have. If every single run comes to an end, so does the call. The numbers of
attempts and of restarts stay within the bounds, so counters of 32 bits hold them if they hold the
bounds. -/
theorem call_runs_bounded (server : Server H) (store : Store H) (mode : Mode)
    (attempts restarts : Nat) (ctx : RequestContext) (work : UnitOfWork H α) (s : State H)
    {held : List Connection} (bounds : store.Bounds server mode attempts restarts)
    (working : ∀ inner, (work inner).run.Attended True fun _ => True)
    (keeps : ∀ inner, (work inner).run.Keeps held) (sound : s.Sound)
    (known : ∀ d ∈ held, d ∈ s.connections) (own : ctx.active? store.channel = none) :
    ∃ outcome s' ms ts, (store.call mode ctx work).run.run s = (outcome, s') ∧
      outcome ≠ .error .dropped ∧
      (store.policy mode).RunTo ctx store.retries (store.attempt ctx mode work)
        ((store.policy mode).maxAttempts - 1) 1 s ms outcome s' ∧
      store.Took ctx mode work ms ts ∧ ms.length ≤ attempts ∧
      (ts.map (·.connection)).Nodup ∧
      (∀ t ∈ ts, t.connection ∉ s.connections ∧ t.runs.length ≤ restarts + 1 ∧
        runsOn t.connection s'.trace = t.runs.map (·.start ctx)) ∧
      (ts.flatMap (·.runs)).length ≤ attempts + restarts ∧
      (∀ m ∈ ms, m.number ≤ attempts) ∧ (∀ t ∈ ts, ∀ r ∈ t.runs, r.restarts ≤ restarts) ∧
      (∀ handle failure k s₁ s₂,
        RestartTo store mode handle failure k s₁ (.ok true) s₂ → k + 1 ≤ restarts) ∧
      (attempts < 2 ^ 32 → ∀ m ∈ ms, m.number < 2 ^ 32) ∧
      (restarts < 2 ^ 32 → ∀ t ∈ ts, ∀ r ∈ t.runs, r.restarts < 2 ^ 32) := by
  rcases ran : (store.call mode ctx work).run.run s with ⟨outcome, s'⟩
  have completed := (call_attended bounds.lawful bounds.attends working).ran ran
  have own_run := ran
  rw [call_own own bounds.supported] at own_run
  obtain ⟨ms, account⟩ := RetryPolicy.runFrom_account own_run
  obtain ⟨ts, took, distinct, fresh⟩ :=
    attempts_took bounds.lawful keeps account completed sound known
  have bound := (store.policy mode).run_bound
  rw [bounds.maxAttempts_eq] at bound
  have made : ms.length ≤ attempts := by
    have := account.length_le
    rw [bounds.maxAttempts_eq] at this
    omega
  have numbers : ∀ m ∈ ms, m.number ≤ attempts := by
    intro m mem
    have := account.number_le m mem
    rwa [bounds.maxAttempts_eq, bound] at this
  have runs : ∀ t ∈ ts, t.runs.length ≤ restarts + 1 ∧ (∀ r ∈ t.runs, r.restarts ≤ restarts) ∧
      runsOn t.connection s'.trace = t.runs.map (·.start ctx) := by
    intro t mem
    obtain ⟨m, hm, takes⟩ := took.exists_made t mem
    obtain ⟨before, -, -, after⟩ :=
      (attempts_keep bounds.lawful keeps account completed sound known).2 m hm
    have known' := fun d hd => before.known (known d hd)
    obtain ⟨total, counted⟩ := takes.rounds.bounded bounds.below (Nat.zero_le _)
    obtain ⟨here, -⟩ := takes.out_of_reach bounds.lawful keeps before.sound known'
    refine ⟨by omega, counted, ?_⟩
    rw [after.runsOn_eq here, takes.runsOn_eq bounds.lawful keeps before.sound known']
  have total : (ts.flatMap (·.runs)).length ≤ attempts + restarts := by
    rw [← bounds.sum_of_product]
    exact Nat.le_trans (Transaction.length_runs_le fun t mem => (runs t mem).1)
      (Nat.mul_le_mul_right _ (Nat.le_trans took.length_le made))
  exact ⟨outcome, s', ms, ts, rfl, completed, account, took, made, distinct,
    fun t mem => ⟨fresh t mem, (runs t mem).1, (runs t mem).2.2⟩, total, numbers,
    fun t mem => (runs t mem).2.1, fun _ _ _ _ _ granted => granted.below bounds.below,
    fun fits m mem => Nat.lt_of_le_of_lt (numbers m mem) fits,
    fun fits t mem r hr => Nat.lt_of_le_of_lt ((runs t mem).2.1 r hr) fits⟩

/-- A unit of work that never serializes is run three times where two restarts are allowed. -/
theorem call_runs_bounded_restarted :
    let server : Server ⟨Unit, Unit⟩ := ⟨fun _ _ host => ({ reply := .ok {} }, host)⟩
    let store := Cockroach.store server { maxRestarts := 2 }
    let failure := Failure.ofDriver (.database (.state (some "40001") "restart transaction"))
    let work : UnitOfWork ⟨Unit, Unit⟩ Unit := fun _ => throw failure
    ∃ (s' : State ⟨Unit, Unit⟩) (ms : List (Made ⟨Unit, Unit⟩ Unit))
      (ts : List (Transaction ⟨Unit, Unit⟩ Unit)),
      (store.call .readWrite .background work).run.run { host := () } =
        (.ok (.error failure), s') ∧
      runsOn ⟨"cockroach", 1⟩ s'.trace = [(0, none), (1, none), (2, none)] ∧
      store.Took .background .readWrite work ms ts ∧ ms.length ≤ 1 ∧
      (ts.flatMap (·.runs)).length ≤ 3 := by
  intro server store failure work
  have keeps : ∀ inner, (work inner).run.Keeps [] := fun _ => .of_confined trivial
  obtain ⟨outcome, s', ms, ts, ran, -, -, took, made, -, -, total, -⟩ :=
    call_runs_bounded server store .readWrite 1 2 .background work { host := () }
      (.cockroach { maxRestarts := 2 }) (fun _ => trivial) keeps (State.sound_of_empty rfl rfl rfl)
      (by simp) rfl
  have gave : ((store.call .readWrite .background work).run.run { host := () }).1 =
      .ok (.error failure) := by decide +kernel
  have starts : runsOn ⟨"cockroach", 1⟩
      ((store.call .readWrite .background work).run.run { host := () }).2.trace =
        [(0, none), (1, none), (2, none)] := by decide +kernel
  rw [ran] at gave starts
  obtain rfl : outcome = .ok (.error failure) := gave
  exact ⟨s', ms, ts, ran, starts, took, made, total⟩

end Store

end SessionKeeper
