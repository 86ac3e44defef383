import SessionKeeper.Proofs.Program.Passage
import SessionKeeper.Proofs.Retry.Cancellation
import SessionKeeper.Proofs.Transaction.Conduct
import SessionKeeper.Proofs.Transaction.Joining

/-!
Units of work run in a transaction of their mode. A context that carries nothing but handles that
attempts gave is genuine, and no program can make it anything else (`RequestContext.Genuine`). Under
such a context a call is either refused, before anything is started (`Store.call_refused`), or every
run of its unit of work has an open transaction to run in: the one that is active already, or that
of the attempt. The transaction stays open as long as the unit of work runs, since whoever conducts
himself well spares the leases of others (`Conduct.spares`).

`Store.Turns` are the runs of the unit of work in a call, the first, those of further attempts and
those after restarts. There are no others: a call depends on its unit of work by way of them alone
(`Store.call_eq_of_turns`).

Correspondence: `Store.Refuses` lists the refusals of `ro_tx` and `transact`: no read-only
transactions, a read-write one inside a read-only one, a context that outlived its transaction.
-/

namespace SessionKeeper

variable {H : Host} {α β : Type}

/-! ## Handles and the contexts that carry them -/

namespace Handle

/-- The attempt that gave the handle began on `c`, in the mode of the handle, and is not over. -/
structure Open (handle : Handle) (channel : Channel) (c : Connection) (s : State H) : Prop where
  connected : s.Connected handle.lease c
  began : ∃ time, (time, .began c channel handle.mode handle.attempt) ∈ s.trace

/-- The handle was given by an attempt on the channel, which may be over by now. -/
def Issued (handle : Handle) (channel : Channel) (s : State H) : Prop :=
  s.Ended handle.lease ∨ ∃ c, handle.Open channel c s

variable {handle : Handle} {channel : Channel} {c : Connection} {s s' : State H}

theorem Open.isFinished (is_open : handle.Open channel c s) :
    handle.isFinished.run s = (.ok false, s) := by
  rw [Handle.isFinished, Program.run_leaseEnded, is_open.connected]
  rfl

theorem Issued.isFinished (issued : handle.Issued channel s)
    (unfinished : handle.isFinished.run s = (.ok false, s)) : ∃ c, handle.Open channel c s := by
  refine issued.resolve_left fun ended => ?_
  rw [Handle.isFinished, Program.run_leaseEnded, ended] at unfinished
  cases unfinished

theorem began_later (later : s.Later s')
    (began : ∃ time, (time, .began c channel handle.mode handle.attempt) ∈ s.trace) :
    ∃ time, (time, .began c channel handle.mode handle.attempt) ∈ s'.trace := by
  obtain ⟨time, mem⟩ := began
  exact ⟨time, later.trace.subset mem⟩

theorem Open.spared {p : Program H α} (is_open : handle.Open channel c s)
    (passes : p.Passes s s') (spares : ∀ k, p.Spares k) : handle.Open channel c s' where
  connected :=
    (spares s.holdings.length).connected (Nat.le_refl _) passes
      (List.getElem?_eq_some_iff.mp is_open.connected).1 is_open.connected
  began := began_later passes.later is_open.began

theorem Issued.passes {p : Program H α} (issued : handle.Issued channel s)
    (passes : p.Passes s s') : handle.Issued channel s' := by
  rcases issued with ended | ⟨c, is_open⟩
  · exact .inl (passes.later.ended _ ended)
  · rcases passes.connected is_open.connected with connected | ended
    · exact .inr ⟨c, connected, began_later passes.later is_open.began⟩
    · exact .inl ended

end Handle

/-- All that the context carries are handles that attempts gave. -/
def RequestContext.Genuine (ctx : RequestContext) (s : State H) : Prop :=
  ∀ channel handle, ctx.active? channel = some handle → handle.Issued channel s

namespace RequestContext.Genuine

variable {ctx inner : RequestContext} {s s' : State H}

theorem background : RequestContext.Genuine .background s := by
  intro channel handle carried
  cases carried

theorem derives (genuine : ctx.Genuine s) (derived : ctx.Derives inner) : inner.Genuine s := by
  intro channel handle carried
  exact genuine channel handle (derived.active? channel ▸ carried)

/-- A context that somebody keeps stays genuine, whatever is run meanwhile. -/
theorem passes {p : Program H α} (genuine : ctx.Genuine s) (passes : p.Passes s s') :
    ctx.Genuine s' :=
  fun channel handle carried => (genuine channel handle carried).passes passes

theorem bind (genuine : ctx.Genuine s) {channel : Channel} {handle : Handle} {c : Connection}
    (is_open : handle.Open channel c s) : (ctx.bind channel handle).Genuine s := by
  intro other carried_handle carried
  by_cases same : channel = other
  · subst same
    rw [active?_bind_self] at carried
    cases carried
    exact .inr ⟨c, is_open⟩
  · rw [active?_bind_of_ne _ _ same] at carried
    exact genuine other carried_handle carried

end RequestContext.Genuine

/-! ## Sparing the leases of others -/

/-- Sparing leases goes through whatever a transaction is made of. -/
def Program.sparing (H : Host) (k : Nat) : Program.Congruence H where
  rel p _ := p.Spares k
  own lease := k ≤ lease.id
  done _ := trivial
  stop _ := trivial
  bind first later := first.bind later
  catchPanic spares := spares.catchPanic
  ask r core := by
    cases r with
    | openLease c => exact core.elim
    | endLease lease => exact core.elim
    | _ => exact fun _ => trivial
  openLease _ _ _ later := fun lease new => later lease new
  endLease _ own := ⟨own, fun _ => trivial⟩
  pause ctx length := by
    intro wake
    cases wake <;> trivial

theorem Store.Lawful.spares {store : Store H} (lawful : store.Lawful) (k : Nat) :
    store.Respects (Program.sparing H k) where
  start ctx mode := .of_confined (ctx.guard_confined (Store.request_confined lawful mode))
  prepare mode c := .of_confined (lawful.prepare mode c).confined
  restart mode c failure n := .of_confined (lawful.restart mode c failure n).confined
  commit c := .of_confined (lawful.commit c).confined
  rollback c := .of_confined (lawful.rollback c).confined

/-- Whoever conducts himself well spares the leases of others: he ends none himself, and the
attempts of his calls end their own. -/
theorem Conduct.spares {chained : Prop} {ctx : RequestContext} {held : List Connection}
    {p : Program H α} (conduct : Conduct chained ctx held p) (k : Nat) : p.Spares k := by
  induction conduct with
  | confined h => exact .of_confined h
  | bind _ _ ih ihf => exact ih.bind ihf
  | catchPanic _ ih => exact ih.catchPanic
  | borrow _ ih => exact fun found => ih found
  | derived _ _ ih => exact ih
  | @call ctx _ _ store mode work lawful _ ih =>
    have called : (Program.sparing H k).rel (store.call mode ctx work).run
      (store.call mode ctx work).run := Program.Congruence.call (lawful.spares k) ih
    exact called
  | @attempt ctx _ _ store mode work n lawful _ _ ih =>
    have attempted : (Program.sparing H k).rel (store.attempt ctx mode work n).run
      (store.attempt ctx mode work n).run := Program.Congruence.attempt (lawful.spares k) ih
    exact attempted

namespace Store

/-! ## Calls that are refused -/

/-- The call could not be right: its store has no transactions of its mode, or the active one of the
channel is over, or is read-only while the call wants to write. -/
inductive Refuses (store : Store H) (mode : Mode) (ctx : RequestContext) (s : State H) : Prop
  | unsupported (reading : mode = .readOnly) (lacking : store.readOnly = false)
  | finished {active : Handle} (carried : ctx.active? store.channel = some active)
      (ended : active.isFinished.run s = (.ok true, s))
  | incompatible {active : Handle} (carried : ctx.active? store.channel = some active)
      (reading : active.mode = .readOnly) (writing : mode = .readWrite)

variable {store : Store H} {mode : Mode} {ctx : RequestContext} {s : State H}

theorem joins_or_own (allowed : ¬ store.Refuses mode ctx s) :
    (∃ active, store.Joins mode ctx active s) ∨ ctx.active? store.channel = none := by
  cases carried : ctx.active? store.channel with
  | none => exact .inr rfl
  | some active =>
    refine .inl ⟨active, carried, ?_, fun reading => ?_, fun reading => ?_⟩
    · rw [Handle.isFinished, Program.run_leaseEnded]
      cases ended : s.holdings[active.lease.id]?.any (·.ended) with
      | false => rfl
      | true =>
        refine absurd (.finished carried ?_) allowed
        rw [Handle.isFinished, Program.run_leaseEnded, ended]
    · cases mode with
      | readOnly => rfl
      | readWrite => exact absurd (.incompatible carried reading rfl) allowed
    · cases supported : store.readOnly with
      | true => rfl
      | false => exact absurd (.unsupported reading supported) allowed

/-- Under a transaction that is over, or that may not be written in, nothing is started. -/
theorem transact_refused {active : Handle} (carried : ctx.active? store.channel = some active)
    (wrong : active.isFinished.run s = (.ok true, s) ∨ active.mode = .readOnly ∧ mode = .readWrite) :
    ∃ failure, failure.kind = .misconfigured ∧ ∀ {β : Type} (work : UnitOfWork H β),
      (store.transact ctx mode work).run.run s = (.ok (.error failure), s) := by
  have asked : active.isFinished.run s = (.ok (s.holdings[active.lease.id]?.any (·.ended)), s) :=
    Program.run_leaseEnded s _
  cases ended : s.holdings[active.lease.id]?.any (·.ended) with
  | true =>
    refine ⟨.misconfigured
      "context outlived its transaction; derive from the request context instead", rfl, ?_⟩
    intro β work
    unfold transact
    simp only [carried, ExceptT.run_mk, Program.bind_eq_bind]
    rw [Program.run_bind_ok asked, ended]
    rfl
  | false =>
    have incompatible : active.mode = .readOnly ∧ mode = .readWrite := by
      refine wrong.resolve_left fun finished => ?_
      rw [asked, ended] at finished
      cases finished
    refine ⟨.misconfigured "read-write transaction requested inside a read-only one", rfl, ?_⟩
    intro β work
    unfold transact
    simp only [carried, ExceptT.run_mk, Program.bind_eq_bind]
    rw [Program.run_bind_ok asked, ended]
    simp only [Bool.false_eq_true, if_false, if_pos incompatible]
    rfl

theorem call_refused (refuses : store.Refuses mode ctx s) :
    ∃ failure, failure.kind = .misconfigured ∧ ∀ {β : Type} (work : UnitOfWork H β),
      (store.call mode ctx work).run.run s = (.ok (.error failure), s) := by
  by_cases unsupported : mode = .readOnly ∧ store.readOnly = false
  · obtain ⟨rfl, lacking⟩ := unsupported
    refine ⟨.misconfigured s!"{store.name} backend has no read-only transactions", rfl, ?_⟩
    intro β work
    simp only [call, readOnlyTransaction, lacking]
    rfl
  · have transacted : ∃ failure, failure.kind = .misconfigured ∧
        ∀ {β : Type} (work : UnitOfWork H β),
          (store.transact ctx mode work).run.run s = (.ok (.error failure), s) := by
      cases refuses with
      | unsupported reading lacking => exact absurd ⟨reading, lacking⟩ unsupported
      | finished carried ended => exact transact_refused carried (.inl ended)
      | incompatible carried reading writing =>
        exact transact_refused carried (.inr ⟨reading, writing⟩)
    cases mode with
    | readWrite => exact transacted
    | readOnly =>
      have supported : store.readOnly = true := by simpa using unsupported
      simpa only [call, readOnlyTransaction, supported, if_true] using transacted

/-! ## The runs of the unit of work -/

/-- The rounds from `restarts` restarts on, begun in the surroundings given, start a run of the unit
of work: their first, or a later one, after a round that failed and a restart that was granted. -/
inductive RoundTurns (store : Store H) (mode : Mode) (handle : Handle) (begun : Connection)
    (work : UnitOfWork H α) (ctx : RequestContext) : Nat → State H → State H → Prop
  | first {restarts : Nat} {s : State H} :
      RoundTurns store mode handle begun work ctx restarts s
        (s.noted (.running begun restarts (s.timeline.status ctx.signal)))
  | again {restarts : Nat} {s s₁ s₂ t : State H} {failure : Failure} :
      (store.round mode handle begun work ctx restarts).run s = (.ok (.failed failure), s₁) →
      (store.startOver mode handle ctx failure restarts).run.run s₁ = (.ok (.ok ()), s₂) →
      RoundTurns store mode handle begun work ctx (restarts + 1) s₂ t →
      RoundTurns store mode handle begun work ctx restarts s t

/-- Attempt `n`, made in `s`, starts a run of the unit of work: under this context, from there. -/
inductive AttemptTurns (store : Store H) (mode : Mode) (ctx : RequestContext)
    (work : UnitOfWork H α) (n : Nat) (s : State H) : RequestContext → State H → Prop
  | begun {c : Connection} {given t : State H} :
      (ctx.guard (store.request mode)).run.run s = (.ok (.ok c), given) →
      store.RoundTurns mode (handleIn given mode n) c work ctx 0 (store.begunIn given c mode n) t →
      AttemptTurns store mode ctx work n s (ctx.bind store.channel (handleIn given mode n)) t

/-- A call from `s` on starts a run of its unit of work: where it joins, or in an attempt. -/
inductive Turns (store : Store H) (mode : Mode) (ctx : RequestContext) (work : UnitOfWork H α)
    (s : State H) : RequestContext → State H → Prop
  | joined {active : Handle} :
      store.Joins mode ctx active s →
      Turns store mode ctx work s ctx (s.logged .debug (joiningText store.name active))
  | own {ms : List (Made H α)} {m : Made H α} {outcome : Except Stop (Except Failure α)}
      {s' t : State H} {inner : RequestContext} :
      ctx.active? store.channel = none → (mode = .readOnly → store.readOnly = true) →
      (store.policy mode).RunTo ctx store.retries (store.attempt ctx mode work)
        ((store.policy mode).maxAttempts - 1) 1 s ms outcome s' →
      m ∈ ms → store.AttemptTurns mode ctx work m.number m.before inner t →
      Turns store mode ctx work s inner t

/-- Where a program runs from `s` on, `inner` carries a transaction of the channel that allows what
`mode` does, and that is open all the way. -/
structure Sheltered (channel : Channel) (mode : Mode) (inner : RequestContext) (p : Program H α)
    (s : State H) : Prop where
  genuine : inner.Genuine s
  active : ∃ handle c, inner.active? channel = some handle ∧
    (mode = .readWrite → handle.mode = .readWrite) ∧
      ∀ s', p.Passes s s' → handle.Open channel c s'

variable {work work' : UnitOfWork H α} {handle : Handle} {channel : Channel} {begun c : Connection}
  {inner : RequestContext} {restarts left n : Nat} {t : State H}

theorem open_begunIn (store : Store H) (given : State H) (c : Connection) (mode : Mode) (n : Nat) :
    (handleIn given mode n).Open store.channel c (store.begunIn given c mode n) where
  connected := by
    simp [State.Connected, handleIn, begunIn, State.logged, State.noted, State.leasing]
  began := by
    refine ⟨given.timeline.now, List.mem_append_right _ ?_⟩
    exact List.mem_singleton_self _

/-- A transaction that is open where rounds begin is open where they start a run. -/
theorem RoundTurns.open_at (lawful : store.Lawful)
    (spares : ∀ inner k, (work inner).run.Spares k)
    (turn : store.RoundTurns mode handle begun work ctx restarts s t)
    (genuine : inner.Genuine s) (is_open : handle.Open channel c s) :
    inner.Genuine t ∧ handle.Open channel c t := by
  induction turn with
  | @first restarts s =>
    have noted := Program.Passes.of_run (Program.run_record s
      (.running begun restarts (s.timeline.status ctx.signal)))
    exact ⟨genuine.passes noted, is_open.spared noted fun _ _ => trivial⟩
  | @again restarts _ _ _ _ failure ran restarted _ ih =>
    have round : ∀ k, (Program.sparing H k).rel (store.round mode handle begun work ctx restarts)
        (store.round mode handle begun work ctx restarts) :=
      fun k => Program.Congruence.round (lawful.spares k) fun inner => spares inner k
    have anew : ∀ k, (Program.sparing H k).rel
        (store.startOver mode handle ctx failure restarts).run
        (store.startOver mode handle ctx failure restarts).run :=
      fun k => Program.Congruence.startOver (lawful.spares k) failure
    have ran := Program.Passes.of_run ran
    have restarted := Program.Passes.of_run restarted
    have is_open := (is_open.spared ran round).spared restarted anew
    exact ih ((genuine.passes ran).passes restarted) is_open

/-- Each run of the unit of work in an attempt has the transaction of the attempt. -/
theorem AttemptTurns.sheltered (lawful : store.Lawful)
    (spares : ∀ inner k, (work inner).run.Spares k)
    (turn : store.AttemptTurns mode ctx work n s inner t) (genuine : ctx.Genuine s) :
    Sheltered store.channel mode inner (work inner).run t := by
  cases turn with
  | @begun c given _ obtained rounds =>
    have genuine := genuine.passes (.of_run obtained)
    -- From here to the first round the lease is opened, and the beginning recorded and logged.
    have begins : ((Program.openLease c).bind fun _ =>
        (Program.record (.began c store.channel mode n)).bind fun _ =>
          Program.log .debug s!"{store.name}: began {mode.text} transaction, attempt {n}").run
        given = (.ok (), store.begunIn given c mode n) := rfl
    have is_open := store.open_begunIn given c mode n
    have bound := (genuine.passes (.of_run begins)).bind is_open
    obtain ⟨genuine, is_open⟩ := rounds.open_at lawful spares bound is_open
    refine ⟨genuine, _, c, RequestContext.active?_bind_self _ _ _, id, fun s' passes => ?_⟩
    exact is_open.spared passes (spares _)

/-- Each run of the unit of work in a call has an open transaction. -/
theorem Turns.sheltered (lawful : store.Lawful) (spares : ∀ inner k, (work inner).run.Spares k)
    (turn : store.Turns mode ctx work s inner t) (genuine : ctx.Genuine s) :
    (mode = .readOnly → store.readOnly = true) ∧
      Sheltered store.channel mode inner (work inner).run t := by
  cases turn with
  | @joined active joins =>
    obtain ⟨c, is_open⟩ := (genuine _ active joins.carried).isFinished joins.unfinished
    have logged := Program.Passes.of_run
      (Program.run_log s .debug (joiningText store.name active))
    refine ⟨joins.supported, genuine.passes logged, active, c, joins.carried, ?_, ?_⟩
    · rintro rfl
      cases writing : active.mode with
      | readWrite => rfl
      | readOnly => cases joins.compatible writing
    · intro s' passes
      have is_open := is_open.spared logged fun _ _ => trivial
      exact is_open.spared passes (spares _)
  | own inactive supported account mem turn =>
    refine ⟨supported, turn.sheltered lawful spares ?_⟩
    refine account.until_made (P := fun s s' => ctx.Genuine s → ctx.Genuine s') ?_ ?_ ?_ _ mem genuine
    · exact fun _ => id
    · exact fun first second genuine => second (first genuine)
    · exact fun ran genuine => genuine.passes (.of_run ran)

/-! ## There are no other runs -/

theorem round_run_congr (same : (work' (ctx.bind store.channel handle)).run.run
      (s.noted (.running begun restarts (s.timeline.status ctx.signal))) =
      (work (ctx.bind store.channel handle)).run.run
        (s.noted (.running begun restarts (s.timeline.status ctx.signal)))) :
    (store.round mode handle begun work' ctx restarts).run s =
      (store.round mode handle begun work ctx restarts).run s := by
  unfold round
  simp only [Program.bind_eq_bind, Context.status, Program.run_bind, Program.run_status,
    Program.run_record, Program.run_catchPanic, same]

/-- Rounds go on alike after a restart, if they go on with what runs alike. -/
theorem followed_run_congr {next next' : Program H (Ending α)}
    (same : (store.round mode handle begun work' ctx restarts).run s =
      (store.round mode handle begun work ctx restarts).run s)
    (later : ∀ failure s₁ s₂,
      (store.round mode handle begun work ctx restarts).run s = (.ok (.failed failure), s₁) →
      (store.startOver mode handle ctx failure restarts).run.run s₁ = (.ok (.ok ()), s₂) →
      next'.run s₂ = next.run s₂) :
    ((store.round mode handle begun work' ctx restarts).bind
        (store.followUp mode handle ctx restarts next')).run s =
      ((store.round mode handle begun work ctx restarts).bind
        (store.followUp mode handle ctx restarts next)).run s := by
  rw [Program.run_bind, Program.run_bind, same]
  rcases hround : (store.round mode handle begun work ctx restarts).run s with ⟨cause | ending, s₁⟩
  · rfl
  · cases ending with
    | succeeded value => rfl
    | panicked message => rfl
    | failed failure =>
      simp only [followUp, Program.run_bind]
      rcases hover : (store.startOver mode handle ctx failure restarts).run.run s₁ with
        ⟨cause | (final | _), s₂⟩
      · rfl
      · rfl
      · exact later failure s₁ s₂ hround hover

theorem rounds_eq_of_turns
    (same : ∀ t, store.RoundTurns mode handle begun work ctx restarts s t →
      (work' (ctx.bind store.channel handle)).run.run t =
        (work (ctx.bind store.channel handle)).run.run t) :
    (store.rounds mode handle begun work' ctx left restarts).run s =
      (store.rounds mode handle begun work ctx left restarts).run s := by
  have round : (store.round mode handle begun work' ctx restarts).run s =
      (store.round mode handle begun work ctx restarts).run s := round_run_congr (same _ .first)
  induction left generalizing restarts s with
  | zero =>
    rw [rounds_eq, rounds_eq]
    exact followed_run_congr round fun _ _ _ _ _ => rfl
  | succ left ih =>
    rw [rounds_eq, rounds_eq]
    refine followed_run_congr round fun failure s₁ s₂ ran restarted => ?_
    have later := fun t turn => same t (.again ran restarted turn)
    exact ih later (round_run_congr (later _ .first))

theorem attempt_eq_of_turns
    (same : ∀ inner t, store.AttemptTurns mode ctx work n s inner t →
      (work' inner).run.run t = (work inner).run.run t) :
    (store.attempt ctx mode work' n).run.run s = (store.attempt ctx mode work n).run.run s := by
  unfold attempt
  simp only [ExceptT.run_mk, Program.bind_eq_bind]
  rw [Program.run_bind, Program.run_bind]
  rcases obtained : (ctx.guard (store.request mode)).run.run s with ⟨cause | (failure | c), given⟩
  · rfl
  · rfl
  · -- Both attempts are under way on `c`, and go through their rounds.
    have rounds : (store.rounds mode (handleIn given mode n) c work' ctx store.restartLimit 0).run
        (store.begunIn given c mode n) =
        (store.rounds mode (handleIn given mode n) c work ctx store.restartLimit 0).run
          (store.begunIn given c mode n) :=
      rounds_eq_of_turns fun t turn => same _ t (.begun obtained turn)
    simp only [Program.run_bind, Program.run_openLease, Program.run_record, Program.run_log]
    unfold handleIn begunIn at rounds
    rw [rounds]

/-- A call depends on its unit of work by way of its runs alone. -/
theorem call_eq_of_turns
    (same : ∀ inner t, store.Turns mode ctx work s inner t →
      (work' inner).run.run t = (work inner).run.run t) :
    (store.call mode ctx work').run.run s = (store.call mode ctx work).run.run s := by
  by_cases refuses : store.Refuses mode ctx s
  · obtain ⟨failure, -, refused⟩ := call_refused refuses
    rw [refused, refused]
  · have supported : mode = .readOnly → store.readOnly = true := by
      intro reading
      cases lacking : store.readOnly with
      | true => rfl
      | false => exact absurd (.unsupported reading lacking) refuses
    rcases joins_or_own refuses with ⟨active, joins⟩ | inactive
    · rw [call_joined joins, call_joined joins]
      exact same _ _ (.joined joins)
    · rw [call_own inactive supported, call_own inactive supported]
      rcases ran : ((store.policy mode).run ctx store.retries (store.attempt ctx mode work)).run.run s
        with ⟨outcome, s'⟩
      obtain ⟨ms, account⟩ := RetryPolicy.runFrom_account ran
      refine (account.congr fun m mem => attempt_eq_of_turns fun inner t turn => ?_).run
      exact same inner t (.own inactive supported account mem turn)

end Store

/-- Units of work run in a transaction of their mode. For any call of a lawful store, under any
context that carries handles which attempts gave, wherever it was kept or derived, and whatever calls
and attempts of lawful stores its unit of work makes in turn:

* a call that cannot be right fails as misconfigured and leaves everything as it was, so nothing was
  started, the store was asked for nothing, and no connection was touched; any other joins the
  active transaction of the channel, or there is none;
* whenever its unit of work runs, in a joined transaction, in an attempt, or again after a restart,
  the transaction that its context carries for the channel is open from beginning to end, and was
  begun as read-write if the call wants to write; a read-only one runs only if its store has
  read-only transactions;
* the same goes for the unit of work of an attempt that is made under the context outside any policy;
* there are no other runs: what the unit of work does elsewhere makes no difference to the call, nor
  to the attempt;
* a background context is genuine, one that is genuine stays so whatever is run meanwhile, and so do
  those derived from it. The contexts that units of work are given are genuine too, so all of this
  holds of the calls that are made with them, at whatever depth, then and later. -/
theorem calls_run_in_their_mode {held : List Connection} (store : Store H) (mode : Mode)
    (ctx : RequestContext) (work : UnitOfWork H α) (s : State H) (lawful : store.Lawful)
    (conduct : ∀ inner, Conduct False inner held (work inner).run) (genuine : ctx.Genuine s) :
    (store.Refuses mode ctx s → ∃ failure, failure.kind = .misconfigured ∧
      ∀ {β : Type} (other : UnitOfWork H β),
        (store.call mode ctx other).run.run s = (.ok (.error failure), s)) ∧
    (¬ store.Refuses mode ctx s →
      (∃ active, store.Joins mode ctx active s) ∨ ctx.active? store.channel = none) ∧
    (∀ inner t, store.Turns mode ctx work s inner t → (mode = .readOnly → store.readOnly = true) ∧
      Store.Sheltered store.channel mode inner (work inner).run t) ∧
    (∀ n inner t, store.AttemptTurns mode ctx work n s inner t →
      Store.Sheltered store.channel mode inner (work inner).run t) ∧
    (∀ work' : UnitOfWork H α,
      (∀ inner t, store.Turns mode ctx work s inner t →
        (work' inner).run.run t = (work inner).run.run t) →
      (store.call mode ctx work').run.run s = (store.call mode ctx work).run.run s) ∧
    (∀ n (work' : UnitOfWork H α),
      (∀ inner t, store.AttemptTurns mode ctx work n s inner t →
        (work' inner).run.run t = (work inner).run.run t) →
      (store.attempt ctx mode work' n).run.run s = (store.attempt ctx mode work n).run.run s) ∧
    RequestContext.Genuine .background s ∧
    ∀ (outer other : RequestContext) {β : Type} (q : Program H β) (s₁ s₂ : State H),
      outer.Genuine s₁ → q.Passes s₁ s₂ → outer.Derives other → other.Genuine s₂ := by
  have spares : ∀ inner k, (work inner).run.Spares k := fun inner k => (conduct inner).spares k
  refine ⟨fun refuses => Store.call_refused refuses, Store.joins_or_own, ?_, ?_, ?_, ?_,
    .background, ?_⟩
  · intro inner t turn
    exact turn.sheltered lawful spares genuine
  · intro n inner t turn
    exact turn.sheltered lawful spares genuine
  · intro work' same
    exact Store.call_eq_of_turns same
  · intro n work' same
    exact Store.attempt_eq_of_turns same
  · intro outer other β q s₁ s₂ genuine passes derived
    exact (genuine.passes passes).derives derived

open Rehearsal in
/-- Inside a read-only transaction of the ledger, the audit is refused a read-write one on the same
channel. A read-only call of the ledger joins, and whatever it calls in turn, the transaction is
unfinished at its end. -/
theorem calls_run_in_their_mode_reading :
    let ledger : Player := {
      name := "ledger", readOnly := true, retries := fun _ => true, policy := fun _ => .default }
    let audit : Player := { ledger with name := "audit" }
    let reading : State (host Nat) :=
      ledger.store.begunIn { host := {} } ⟨"ledger", 1⟩ .readOnly 1
    let ctx := RequestContext.bind .background ⟨0⟩ ⟨⟨0⟩, .readOnly, 1⟩
    let work : UnitOfWork (host Nat) Nat := fun inner =>
      audit.store.call .readOnly inner fun _ => ExceptT.mk (.done (.error (.conflict "deadlock")))
    (∃ failure, failure.kind = .misconfigured ∧
      (audit.store.call .readWrite ctx work).run.run reading = (.ok (.error failure), reading)) ∧
    ∃ joined, (ledger.store.call .readOnly ctx work).run.run reading =
        (work ctx).run.run joined ∧
      ∃ handle, ctx.active? ⟨0⟩ = some handle ∧
        handle.isFinished.run ((work ctx).run.run joined).2 =
          (.ok false, ((work ctx).run.run joined).2) := by
  intro ledger audit reading ctx work
  have is_open : Handle.Open ⟨⟨0⟩, .readOnly, 1⟩ ⟨0⟩ ⟨"ledger", 1⟩ reading :=
    ledger.store.open_begunIn { host := {} } ⟨"ledger", 1⟩ .readOnly 1
  have genuine : ctx.Genuine reading := RequestContext.Genuine.background.bind is_open
  have carried : ctx.active? ⟨0⟩ = some ⟨⟨0⟩, .readOnly, 1⟩ := RequestContext.active?_bind_self _ _ _
  have conduct : ∀ inner, Conduct False inner [] (work inner).run :=
    fun inner => .call audit.store_lawful fun _ => .confined trivial
  refine ⟨?_, ?_⟩
  · have refuses : audit.store.Refuses .readWrite ctx reading := .incompatible carried rfl rfl
    obtain ⟨failure, kind, refused⟩ := (calls_run_in_their_mode audit.store .readWrite ctx work
      reading audit.store_lawful conduct genuine).1 refuses
    exact ⟨failure, kind, refused work⟩
  · have joins : ledger.store.Joins .readOnly ctx ⟨⟨0⟩, .readOnly, 1⟩ reading :=
      ⟨carried, rfl, fun _ => rfl, fun _ => rfl⟩
    obtain ⟨-, -, sheltered, -⟩ := calls_run_in_their_mode ledger.store .readOnly ctx work
      reading ledger.store_lawful conduct genuine
    obtain ⟨-, -, handle, c, active, -, still⟩ := sheltered ctx _ (.joined joins)
    have is_open := still _ (.of_run rfl)
    exact ⟨_, Store.call_joined joins work, handle, active, is_open.isFinished⟩

end SessionKeeper
