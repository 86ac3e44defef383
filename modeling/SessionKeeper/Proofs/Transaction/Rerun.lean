import SessionKeeper.Proofs.Program.Race
import SessionKeeper.Proofs.Sql.Stores
import SessionKeeper.Proofs.Transaction.Terminator

/-!
Running the unit of work again. Every run of it is in the trace, with the number of restarts before
it and with what the context said of itself by then (`Store.Takes.runsOn_eq`). The loop is that of
`run_tx`: a failed run is followed by a look at the context, then by the store's restart, then by a
pause unless its length is zero.

So a run that follows a restart was started under a context that was live when the run before it had
failed (`Store.Restarted`), and live still, with two exceptions. Where there is no pause nobody looks
at the context after the restart. And a context that is done at the very instant at which the pause
is over may go unnoticed, since the pause prefers neither of the two (`Context.FiresAtEnd`).
-/

namespace SessionKeeper

variable {H : Host} {α : Type}

/-! ## Runs in the trace -/

namespace Event

variable {N : Type} {c : Connection} {e : Event N}

/-- What the event says of a run of the unit of work on `c`, if it starts one. -/
def started? (c : Connection) : Event N → Option (Nat × Option Cancellation)
  | .running d restarts reason => if d = c then some (restarts, reason) else none
  | _ => none

theorem Use.started?_eq (h : e.Use) (c : Connection) : e.started? c = none := by
  cases e <;> first | rfl | exact h.elim

theorem Aside.started?_eq (h : e.Aside) (c : Connection) : e.started? c = none := by
  cases e <;> first | rfl | exact h.elim

theorem started?_eq_of_ne (h : e.connection? ≠ some c) : e.started? c = none := by
  cases e with
  | running d restarts reason => exact if_neg fun same => h (congrArg some same)
  | _ => rfl

theorem started?_terminator (commits : Bool) :
    (terminator c commits : Event N).started? c = none := by
  cases commits <;> rfl

end Event

/-- The runs of the unit of work on `c`, in order: the restarts before each, and whether the context
was done by then. -/
def runsOn {N : Type} (c : Connection) (trace : Trace N) : List (Nat × Option Cancellation) :=
  trace.filterMap (·.2.started? c)

theorem runsOn_append {N : Type} (c : Connection) (trace later : Trace N) :
    runsOn c (trace ++ later) = runsOn c trace ++ runsOn c later := List.filterMap_append

theorem runsOn_eq_nil {N : Type} {c : Connection} {trace : Trace N}
    (h : ∀ e ∈ trace, e.2.started? c = none) : runsOn c trace = [] :=
  List.filterMap_eq_nil_iff.mpr h

/-- What the trace says of the run. -/
def WorkRun.start (ctx : RequestContext) (r : WorkRun H α) : Nat × Option Cancellation :=
  (r.restarts, r.before.timeline.status ctx.signal)

theorem Steady.runsOn_eq {c : Connection} {held : List Connection} {s₀ s s' : State H}
    (steady : Steady (Footprint.unit.reach held s₀) s s') (here : c ∈ s.connections) :
    runsOn c s'.trace = runsOn c s.trace := by
  obtain ⟨added, htrace, use⟩ := steady.trace
  have quiet : runsOn c added = [] := by
    refine runsOn_eq_nil fun e mem => ?_
    by_cases about : e.2.connection? = some c
    · exact (use e mem c here about).1.started?_eq c
    · exact Event.started?_eq_of_ne about
  rw [htrace, runsOn_append, quiet, List.append_nil]

theorem Alone.runsOn_eq {c : Connection} {held : List Connection} {s s' : State H}
    (alone : Alone held s s') : runsOn c s'.trace = runsOn c s.trace := by
  obtain ⟨added, htrace, aside⟩ := alone.added
  rw [htrace, runsOn_append, runsOn_eq_nil fun e mem => (aside e mem).started?_eq c,
    List.append_nil]

namespace Store

variable {store : Store H} {mode : Mode} {handle : Handle} {c : Connection}
  {work : UnitOfWork H α} {ctx : RequestContext} {held : List Connection} {restarts n : Nat}
  {s s' : State H}

theorem Runs.runsOn_eq {r : WorkRun H α} (runs : store.Runs handle c work ctx restarts s r)
    (keeps : ∀ inner, (work inner).run.Keeps held) (underway : Underway handle c held s) :
    runsOn c r.after.trace = runsOn c s.trace ++ [r.start ctx] := by
  rw [(runs.worked keeps underway).runsOn_eq (underway.step (runs.noted underway)).here,
    WorkRun.start, runs.number, runs.before]
  simp [State.noted, runsOn, Event.started?]

/-- The rounds of an attempt record the runs that they are made of. -/
theorem RoundsTo.runsOn_eq (lawful : store.Lawful) (keeps : ∀ inner, (work inner).run.Keeps held)
    {rs : List (WorkRun H α)} {ending : Ending α}
    (account : RoundsTo store mode handle c work ctx restarts s rs ending s')
    (underway : Underway handle c held s) :
    runsOn c s'.trace = runsOn c s.trace ++ rs.map (·.start ctx) := by
  have round : ∀ {restarts s s' r ending}, Underway handle c held s →
      RoundTo store mode handle c work ctx restarts s r ending s' →
      runsOn c s'.trace = runsOn c s.trace ++ [r.start ctx] := by
    intro restarts s s' r ending underway account
    rw [(account.alone lawful (account.runs.underway keeps underway)).runsOn_eq,
      account.runs.runsOn_eq keeps underway]
  induction account with
  | succeeded account => exact round underway account
  | panicked account => exact round underway account
  | failed account anew =>
    rw [(anew.alone lawful (account.underway lawful keeps underway)).runsOn_eq,
      round underway account]
    rfl
  | again account anew tos ih =>
    have ended := account.underway lawful keeps underway
    rw [ih (anew.underway lawful ended), (anew.alone lawful ended).runsOn_eq,
      round underway account, List.append_assoc]
    rfl

theorem Takes.runsOn_eq {outcome : Except Stop (Except Failure α)} {t : Transaction H α}
    (takes : store.Takes ctx mode work n s t outcome s') (lawful : store.Lawful)
    (keeps : ∀ inner, (work inner).run.Keeps held) (sound : s.Sound)
    (known : ∀ d ∈ held, d ∈ s.connections) :
    runsOn t.connection s'.trace = t.runs.map (·.start ctx) := by
  have earlier : runsOn t.connection s.trace = [] := by
    refine runsOn_eq_nil fun e mem => Event.started?_eq_of_ne fun about => ?_
    exact takes.fresh lawful sound (sound.traced e mem _ about)
  have given : runsOn t.connection (store.begunIn t.given t.connection mode n).trace = [] := by
    have begun : (store.begunIn t.given t.connection mode n).trace = t.given.trace ++
        [(t.given.timeline.now, .began t.connection store.channel mode n)] := rfl
    rw [begun, runsOn_append, (request_alone lawful sound takes.given).runsOn_eq, earlier]
    rfl
  have ended : runsOn t.connection t.ended.trace = t.runs.map (·.start ctx) := by
    rw [takes.rounds.runsOn_eq lawful keeps (takes.underway lawful sound known), given,
      List.nil_append]
  obtain ⟨finishing, hfinishing, plain⟩ := takes.finishing lawful
  obtain ⟨closing, hclosing, committed⟩ := takes.closing_trace
  have finished : runsOn t.connection finishing = [] := by
    refine runsOn_eq_nil fun e mem => ?_
    rcases plain e mem with h | ⟨d, h⟩
    · exact h.use.started?_eq _
    · rw [h]
      rfl
  have closed : runsOn t.connection closing = [] := by
    refine runsOn_eq_nil fun e mem => ?_
    rw [committed e mem]
    rfl
  rw [hclosing, hfinishing, List.append_cons]
  simp only [runsOn_append, ended, finished, closed, List.append_nil]
  simp [runsOn, Event.started?_terminator]

/-! ## Restarts -/

/-- A restart is followed by no pause at all, or by one that the context cuts short if it is done
before the pause is over, and after which it is live or was done at the very end. -/
theorem rest_account {failure : Failure} {found : Option Cancellation}
    (ran : (store.rest handle ctx failure n).run s = (.ok found, s')) :
    ((store.restartPause n).isZero = true ∧ s'.timeline = s.timeline) ∨
      (store.restartPause n).isZero = false ∧
        (ctx.FiresBefore s.timeline (store.restartPause n) → found.isSome) ∧
        (found = none → s'.timeline.status ctx.signal = none ∨
          ctx.FiresAtEnd s.timeline (store.restartPause n)) := by
  unfold rest at ran
  simp only [Program.bind_eq_bind, Program.run_bind, Program.run_log] at ran
  generalize hlogged : s.logged .debug _ = s₁ at ran
  have same : s₁.timeline = s.timeline := by rw [← hlogged]; rfl
  cases hzero : (store.restartPause n).isZero with
  | true =>
    rw [hzero] at ran
    cases ran
    exact .inl ⟨rfl, same⟩
  | false =>
    rw [hzero] at ran
    change (ctx.pause _).run s₁ = _ at ran
    rw [← same]
    refine .inr ⟨rfl, (Context.pausesTo_of_run ran).2.cut, fun elapsed => ?_⟩
    exact Context.live_or_tied (elapsed ▸ ran)

/-- How the unit of work came to run again as `r` after the run `q` on `c`: its failure found the
context live, and the store readied the transaction. By then the context is still live, or there was
no pause in which it would have been looked at, or it was done just when the pause was over and the
end of the pause was noticed first. -/
structure Restarted (store : Store H) (mode : Mode) (handle : Handle) (c : Connection)
    (ctx : RequestContext) (q r : WorkRun H α) : Prop where
  next : r.restarts = q.restarts + 1
  readied : ∃ failure s₁ s₂, store.FailsTo mode c q failure s₁ ∧
    s₁.timeline.status ctx.signal = none ∧
    RestartTo store mode handle failure q.restarts s₁ (.ok true) s₂ ∧
    (r.before.timeline.status ctx.signal = none ∨
      (store.restartPause r.restarts).isZero = true ∧ s₂.timeline.status ctx.signal ≠ none ∨
      (store.restartPause r.restarts).isZero = false ∧
        ctx.FiresAtEnd s₂.timeline (store.restartPause r.restarts))

/-- After a run that fails so, the context is looked at and found done: at once, or before the end of
the pause that follows restart `n`. -/
inductive Interrupted (store : Store H) (mode : Mode) (handle : Handle) (ctx : RequestContext)
    (failure : Failure) (n : Nat) (s₁ : State H) : Prop
  | failing : s₁.timeline.status ctx.signal ≠ none → Interrupted store mode handle ctx failure n s₁
  | resting {s₂ : State H} : RestartTo store mode handle failure n s₁ (.ok true) s₂ →
      (store.restartPause (n + 1)).isZero = false →
      ctx.FiresBefore s₂.timeline (store.restartPause (n + 1)) →
      Interrupted store mode handle ctx failure n s₁

theorem RestartTo.unique {failure : Failure} {answer answer' : Except Failure Bool}
    {s₁ s₂ : State H} (account : RestartTo store mode handle failure restarts s answer s₁)
    (other : RestartTo store mode handle failure restarts s answer' s₂) :
    answer = answer' ∧ s₁ = s₂ := by
  cases account with
  | escaped none => cases other with
    | escaped _ => exact ⟨rfl, rfl⟩
    | refused some _ => cases none.symm.trans some
    | answered some _ => cases none.symm.trans some
  | refused leads ran => cases other with
    | escaped none => cases none.symm.trans leads
    | refused leads' ran' =>
      obtain rfl := Option.some.inj (leads.symm.trans leads')
      cases ran.symm.trans ran'
      exact ⟨rfl, rfl⟩
    | answered leads' ran' =>
      obtain rfl := Option.some.inj (leads.symm.trans leads')
      cases ran.symm.trans ran'
  | answered leads ran => cases other with
    | escaped none => cases none.symm.trans leads
    | refused leads' ran' =>
      obtain rfl := Option.some.inj (leads.symm.trans leads')
      cases ran.symm.trans ran'
    | answered leads' ran' =>
      obtain rfl := Option.some.inj (leads.symm.trans leads')
      cases ran.symm.trans ran'
      exact ⟨rfl, rfl⟩

theorem Interrupted.not_ready {failure : Failure} {s₁ : State H}
    (interrupted : Interrupted store mode handle ctx failure restarts s)
    (anew : StartOverTo store mode handle ctx failure restarts s (.ok ()) s₁) : False := by
  cases anew with
  | ready status restart ran =>
    cases interrupted with
    | failing done => exact done status
    | resting readied paused fires =>
      obtain ⟨-, rfl⟩ := restart.unique readied
      rcases rest_account ran with ⟨zero, -⟩ | ⟨-, woken, -⟩
      · rw [paused] at zero
        cases zero
      · exact absurd (woken fires) (by simp)

theorem Runs.restarted {q r : WorkRun H α} {failure : Failure} {s₁ s₂ : State H}
    (runs : store.Runs handle c work ctx (restarts + 1) s₂ r) (number : q.restarts = restarts)
    (fails : store.FailsTo mode c q failure s₁)
    (anew : StartOverTo store mode handle ctx failure restarts s₁ (.ok ()) s₂) :
    store.Restarted mode handle c ctx q r := by
  have seen : r.before.timeline = s₂.timeline := by rw [runs.before]; rfl
  subst number
  cases anew with
  | ready status restart ran =>
    refine ⟨runs.number, _, s₁, _, fails, status, restart, ?_⟩
    rw [seen, runs.number]
    rcases rest_account ran with ⟨zero, same⟩ | ⟨pausing, -, elapsed⟩
    · rw [same]
      exact (Decidable.em _).imp_right fun done => .inl ⟨zero, done⟩
    · exact (elapsed rfl).imp_right fun tied => .inr ⟨pausing, tied⟩

/-- Each run but the first was restarted after one before it. -/
theorem RoundsTo.restarted (lawful : store.Lawful) (keeps : ∀ inner, (work inner).run.Keeps held)
    {rs : List (WorkRun H α)} {ending : Ending α}
    (account : RoundsTo store mode handle c work ctx restarts s rs ending s')
    (underway : Underway handle c held s) :
    ∀ r ∈ rs, store.Runs handle c work ctx restarts s r ∨
      ∃ q ∈ rs, store.Restarted mode handle c ctx q r := by
  have only : ∀ {restarts s} {r : WorkRun H α}, store.Runs handle c work ctx restarts s r →
      ∀ x ∈ [r], store.Runs handle c work ctx restarts s x ∨
        ∃ q ∈ [r], store.Restarted mode handle c ctx q x := by
    intro restarts s r runs x mem
    rw [List.mem_singleton.mp mem]
    exact .inl runs
  induction account with
  | succeeded account => exact only account.runs
  | panicked account => exact only account.runs
  | failed account anew => exact only account.runs
  | again account anew tos ih =>
    intro r mem
    rcases List.mem_cons.mp mem with rfl | mem
    · exact .inl account.runs
    · have fails := account.failsTo (account.runs.underway keeps underway).leads
      have ended := account.underway lawful keeps underway
      refine .inr ?_
      -- The first of the later runs was restarted after the run of this round.
      rcases ih (anew.underway lawful ended) r mem with runs | ⟨q, earlier, restarted⟩
      · exact ⟨_, List.mem_cons_self, runs.restarted account.runs.number fails anew⟩
      · exact ⟨q, List.mem_cons_of_mem _ earlier, restarted⟩

/-- A run after which the context is found done is the last one, and the rounds end with a
failure. -/
theorem RoundsTo.last_of_interrupted (lawful : store.Lawful)
    (keeps : ∀ inner, (work inner).run.Keeps held) {rs : List (WorkRun H α)} {ending : Ending α}
    (account : RoundsTo store mode handle c work ctx restarts s rs ending s')
    (underway : Underway handle c held s) :
    ∀ r ∈ rs, ∀ failure s₁, store.FailsTo mode c r failure s₁ →
      store.Interrupted mode handle ctx failure r.restarts s₁ →
      rs.getLast? = some r ∧ ∃ final, ending = .failed final := by
  induction account with
  | succeeded account =>
    intro r mem failure s₁ fails
    obtain rfl := List.mem_singleton.mp mem
    cases (fails.ends account (account.runs.underway keeps underway).leads).1
  | panicked account =>
    intro r mem failure s₁ fails
    obtain rfl := List.mem_singleton.mp mem
    cases (fails.ends account (account.runs.underway keeps underway).leads).1
  | failed account anew =>
    intro r mem failure s₁ fails interrupted
    obtain rfl := List.mem_singleton.mp mem
    exact ⟨rfl, _, rfl⟩
  | again account anew tos ih =>
    intro r mem failure s₁ fails interrupted
    have ended := account.underway lawful keeps underway
    rcases List.mem_cons.mp mem with rfl | mem
    · obtain ⟨failed, rfl⟩ := fails.ends account (account.runs.underway keeps underway).leads
      cases failed
      rw [account.runs.number] at interrupted
      exact (interrupted.not_ready anew).elim
    · obtain ⟨last, final⟩ := ih (anew.underway lawful ended) r mem failure s₁ fails interrupted
      exact ⟨by rw [List.getLast?_cons, last]; rfl, final⟩

/-- No run of the unit of work in an attempt is started under a context that is done, unless it is
the first, or the context was done only after the restart before it was asked for and there is no
pause after that, or just when that pause was over. If the context is done when a run fails, or
before the pause that follows the restart is over, that run is the last one and the attempt ends
with a rollback. -/
theorem reruns_live_or_unpaused (store : Store H) (ctx : RequestContext) (mode : Mode)
    (work : UnitOfWork H α) (n : Nat) (s s' : State H) (outcome : Except Stop (Except Failure α))
    {held : List Connection} (lawful : store.Lawful)
    (keeps : ∀ inner, (work inner).run.Keeps held) (sound : s.Sound)
    (known : ∀ d ∈ held, d ∈ s.connections)
    (ran : (store.attempt ctx mode work n).run.run s = (outcome, s'))
    (completed : outcome ≠ .error .dropped) :
    (∃ failure, (ctx.guard (store.request mode)).run.run s = (.ok (.error failure), s') ∧
      outcome = .ok (.error failure)) ∨
    ∃ t, store.Takes ctx mode work n s t outcome s' ∧
      runsOn t.connection s'.trace = t.runs.map (·.start ctx) ∧
      (∀ r ∈ t.runs, r.restarts ≠ 0 →
        ∃ q ∈ t.runs, store.Restarted mode (handleIn t.given mode n) t.connection ctx q r) ∧
      ∀ r ∈ t.runs, ∀ failure s₁, store.FailsTo mode t.connection r failure s₁ →
        store.Interrupted mode (handleIn t.given mode n) ctx failure r.restarts s₁ →
        t.runs.getLast? = some r ∧
        terminators t.connection s'.trace = [.rollingBack t.connection] := by
  rcases attempt_takes lawful keeps sound known ran completed with refused | ⟨t, takes⟩
  · exact .inl refused
  · have underway := takes.underway lawful sound known
    refine .inr ⟨t, takes, takes.runsOn_eq lawful keeps sound known, fun r mem later => ?_, ?_⟩
    · rcases takes.rounds.restarted lawful keeps underway r mem with runs | restarted
      · exact absurd runs.number later
      · exact restarted
    · intro r mem failure s₁ fails interrupted
      obtain ⟨last, final, ending⟩ := takes.rounds.last_of_interrupted lawful keeps underway r mem
        failure s₁ fails interrupted
      have once := takes.terminators_eq lawful keeps sound known
      rw [ending] at once
      exact ⟨last, once⟩

/-- A unit of work that fails with a serialization failure is not run again if the context was
canceled meanwhile. -/
theorem reruns_live_or_unpaused_canceled :
    let server : Server ⟨Unit, Unit⟩ := ⟨fun _ _ host => ({ reply := .ok {} }, host)⟩
    let ctx : RequestContext := Context.background.within ⟨0⟩
    let failure := Failure.ofDriver (.database (.state (some "40001") "restart transaction"))
    let work : UnitOfWork ⟨Unit, Unit⟩ Unit := fun _ => ExceptT.mk do
      .cancel ⟨0⟩
      return .error failure
    let s : State ⟨Unit, Unit⟩ := { host := () }
    let ran := ((Cockroach.store server {}).attempt ctx .readWrite work 1).run.run s
    ran.1 = .ok (.error failure) ∧
    ∃ t r, (Cockroach.store server {}).Takes ctx .readWrite work 1 s t ran.1 ran.2 ∧
      r.verdict = .ok (.error failure) ∧ t.runs.getLast? = some r ∧
      terminators t.connection ran.2.trace = [.rollingBack t.connection] := by
  intro server ctx failure work s ran
  have gave : ran.1 = .ok (.error failure) := by decide +kernel
  have given : ((ctx.guard ((Cockroach.store server {}).request .readWrite)).run.run s).1 =
      .ok (.ok ⟨"cockroach", 1⟩) := by decide +kernel
  have keeps : ∀ inner, (work inner).run.Keeps [] :=
    fun _ => .of_confined ⟨trivial, fun _ => trivial⟩
  have sound : s.Sound := State.sound_of_empty rfl rfl rfl
  have known : ∀ d ∈ ([] : List Connection), d ∈ s.connections := by simp
  have lawful := Cockroach.store_lawful server {}
  refine ⟨gave, ?_⟩
  rcases reruns_live_or_unpaused (Cockroach.store server {}) ctx .readWrite work 1 s ran.2 ran.1
    lawful keeps sound known rfl (by rw [gave]; simp) with
    ⟨refusal, refused, -⟩ | ⟨t, takes, -, -, stops⟩
  · rw [refused] at given
    cases given
  · have underway := takes.underway lawful sound known
    obtain ⟨_, r, mem, last⟩ := takes.rounds.lastRun lawful keeps underway
    obtain ⟨restarts, runs⟩ := last.runs
    have verdict : r.verdict = .ok (.error failure) :=
      (Except.ok.inj (congrArg Prod.fst runs.ran)).symm
    have after : r.after.timeline = r.before.timeline.cancel ⟨0⟩ :=
      (congrArg (·.2.timeline) runs.ran).symm
    have canceled : r.after.timeline.status ctx.signal = some .canceled :=
      (Timeline.status_eq_canceled_iff _ _).mpr
        ⟨⟨0⟩, List.mem_cons_self, after ▸ List.mem_cons_self⟩
    obtain ⟨only, once⟩ := stops r mem failure r.after (.worked verdict)
      (.failing (by simp [canceled]))
    exact ⟨t, r, takes, verdict, only, once⟩

/-- With no pause after the restart it is not seen: the unit of work is run again, and committed. -/
theorem rerun_under_dead_context :
    ¬ ∀ (server : Server ⟨Nat, Unit⟩) (settings : Cockroach.Settings) (ctx : RequestContext)
      (work : UnitOfWork ⟨Nat, Unit⟩ Unit) (n : Nat) (s : State ⟨Nat, Unit⟩) (c : Connection),
      ∀ start ∈ runsOn c
          (((Cockroach.store server settings).attempt ctx .readWrite work n).run.run s).2.trace,
        start.1 ≠ 0 → start.2 = none := by
  intro never
  let server : Server ⟨Nat, Unit⟩ := ⟨fun _ statement host =>
    ({ reply := .ok {}, cancels := if statement = Cockroach.rewind then [⟨0⟩] else [] }, host)⟩
  let work : UnitOfWork ⟨Nat, Unit⟩ Unit := fun _ => ExceptT.mk do
    let before ← Program.modifyGet fun runs : Nat => (runs, runs + 1)
    return if before = 0 then
        .error (.ofDriver (.database (.state (some "40001") "restart transaction")))
      else .ok ()
  have starts : runsOn ⟨"cockroach", 1⟩ (((Cockroach.store server
      { maxRestarts := 1, pauseUnit := .zero }).attempt (Context.background.within ⟨0⟩) .readWrite
        work 1).run.run { host := 0 }).2.trace = [(0, none), (1, some .canceled)] := by
    decide +kernel
  have live := never server { maxRestarts := 1, pauseUnit := .zero } (Context.background.within ⟨0⟩)
    work 1 { host := 0 } ⟨"cockroach", 1⟩
  rw [starts] at live
  exact absurd (live (1, some .canceled) (by simp) (by simp)) (by simp)

end Store

end SessionKeeper
