import SessionKeeper.Proofs.Session.Ledger
import SessionKeeper.Proofs.Session.Rotation
import SessionKeeper.Proofs.Sql.Pool
import SessionKeeper.Proofs.Transaction.Expiry

/-!
Units of work that ask queries of the table of refresh tokens, and what comes of a call of one. All
that is executed in the course of the call is on connections of its own, and no `COMMIT` succeeds
but that of its last attempt. So a call that fails leaves the table as it was, and one that gives a
value changes it as the queries of the last run do, which were answered from the table itself
(`Database.Enquires.call_ledger`).

The draft of a transaction is carried through its attempt: nothing is in it when a run of the unit
of work starts, be it the first or one after a rewind (`blank_of_last`), and what the last run has
put there is what the `COMMIT` does to the table (`table_committed`).
-/

namespace SessionKeeper

variable {H : Host} {N : Type} {α β : Type}

/-- If the event is a statement, it is a query on the connection `target`. -/
def Event.AsksOn (target : Option Connection) (e : Event N) : Prop :=
  ∀ connection statement reply, e = .executed connection statement reply →
    connection = target ∧ connection ≠ none ∧ ∃ q : TokenQuery, statement = q.statement

/-- On the pool nothing is asked. -/
def Event.Inside (e : Event N) : Prop :=
  ∀ statement reply, e = .executed none statement reply → statement.args = []

/-- What is sent of a transaction between its savepoint and its end, none of it on the pool. -/
def Event.Proceeds (e : Event N) : Prop :=
  e.Inside ∧ e.Sends fun statement => statement ≠ Server.committing ∧
    statement ≠ Cockroach.savepoint

theorem Event.AsksOn.asks {c : Connection} {e : Event N} (h : e.AsksOn (some c)) : e.Asks c := by
  rintro connection statement reply rfl
  obtain ⟨same, -, asked⟩ := h _ _ _ rfl
  exact ⟨same, asked⟩

theorem Event.AsksOn.proceeds {target : Option Connection} {e : Event N} (h : e.AsksOn target) :
    e.Proceeds := by
  refine ⟨?_, ?_⟩
  · rintro statement reply rfl
    exact absurd rfl (h _ _ _ rfl).2.1
  · cases e with
    | executed connection statement reply =>
      obtain ⟨-, -, q, rfl⟩ := h _ _ _ rfl
      exact ⟨Draft.query_ne_control q rfl, Draft.query_ne_control q rfl⟩
    | _ => trivial

/-- Statements without arguments are no queries. -/
theorem Event.Sends.inside {e : Event N} (h : e.Sends (·.args = [])) : e.Inside := by
  rintro statement reply rfl
  exact h

theorem Event.Inside.spares {e : Event N} (inside : e.Inside)
    (commits : ∀ connection, ¬ e.Commits connection) : e.Spares := by
  refine ⟨commits, ?_⟩
  rintro q answer rfl
  exact q.args_ne_nil (inside _ _ rfl)

theorem State.Adds.and {Q R : Event H.Note → Prop} {s s' : State H} (first : s.Adds Q s')
    (second : s.Adds R s') : s.Adds (fun e => Q e ∧ R e) s' := by
  obtain ⟨added, trace, as⟩ := first
  obtain ⟨same, trace', as'⟩ := second
  rw [trace'] at trace
  obtain rfl := List.append_cancel_left trace
  exact ⟨same, trace', fun e mem => ⟨as e mem, as' e mem⟩⟩

/-- What was recorded up to a moment in between, and from there on. -/
theorem State.Adds.split {Q : Event H.Note → Prop} {s s₁ s' : State H} (adds : s.Adds Q s')
    (before : s.trace <+: s₁.trace) (after : s₁.trace <+: s'.trace) : s.Adds Q s₁ ∧ s₁.Adds Q s' := by
  obtain ⟨added, trace, as⟩ := adds
  obtain ⟨first, hfirst⟩ := before
  obtain ⟨second, hsecond⟩ := after
  rw [← hsecond, ← hfirst, List.append_assoc] at trace
  obtain rfl := List.append_cancel_left trace
  exact ⟨⟨first, hfirst.symm, fun e mem => as e (List.mem_append_left _ mem)⟩,
    ⟨second, hsecond.symm, fun e mem => as e (List.mem_append_right _ mem)⟩⟩

theorem State.Later.relogged (s : State H) (logs : List LogRecord) : s.Later (s.relogged logs) :=
  ⟨.refl _, List.prefix_refl _, Nat.le_refl _, fun _ ended => ended, rfl, rfl, Nat.le_refl _⟩

theorem Program.Includes.later {γ : Type} {p : Program H α} {q : Program H γ} {s s₁ : State H}
    (includes : p.Includes s q s₁) : s.Later s₁ := by
  induction includes with
  | here => exact .refl _
  | first includes ih => exact ih
  | second ran includes ih => exact (Program.later_of_run ran).trans ih
  | caught includes ih => exact ih

theorem RetryPolicy.RunTo.later_before {κ : Type} {V : κ → Type} {policy : RetryPolicy}
    {ctx : Context V} {retries : Failure → Bool} {attempt : Nat → Work H α} {left n : Nat}
    {s s' : State H} {ms : List (Made H α)} {outcome : Except Stop (Except Failure α)}
    (account : policy.RunTo ctx retries attempt left n s ms outcome s') :
    ∀ m ∈ ms, s.Later m.before := by
  refine account.until_made (P := State.Later) .refl ?_ ?_
  · exact State.Later.trans
  · exact Program.later_of_run

theorem Store.Takes.later {store : Store H} {ctx : RequestContext} {mode : Mode}
    {work : UnitOfWork H α} {n : Nat} {s s' : State H} {t : Transaction H α}
    {outcome : Except Stop (Except Failure α)}
    (takes : store.Takes ctx mode work n s t outcome s') : t.ended.Later s' := by
  have answered : t.ended.Later t.answered :=
    ((State.Later.releasing t.ended _).trans (.recorded _ _)).trans
      (Program.later_of_run takes.answered)
  have closed : t.answered.Later (t.ending.closed t.connection t.answer t.answered) := by
    cases t.ending with
    | succeeded value =>
      cases t.answer with
      | ok done => exact .recorded _ _
      | error failure => exact .refl _
    | failed failure => exact .refl _
    | panicked message => exact .refl _
  obtain ⟨logs, rfl⟩ := takes.after
  exact (answered.trans closed).trans (.relogged _ _)

/-! ## Units of work -/

/-- From `s` to `s'` no lease was touched, and queries were asked in the transaction of the handle. -/
structure Handle.Asks (handle : Handle) (s s' : State H) : Prop where
  holdings : s'.holdings = s.holdings
  adds : s.Adds (Event.AsksOn (s.connectionOf handle.lease)) s'

namespace Handle.Asks

variable {handle : Handle} {s s₁ s' : State H}

theorem of_eq (holdings : s'.holdings = s.holdings) (trace : s'.trace = s.trace) :
    handle.Asks s s' := ⟨holdings, .of_trace_eq trace⟩

theorem trans (first : handle.Asks s s₁) (second : handle.Asks s₁ s') : handle.Asks s s' := by
  have same : s₁.connectionOf handle.lease = s.connectionOf handle.lease := by
    rw [State.connectionOf, State.connectionOf, first.holdings]
  have later := second.adds
  rw [same] at later
  exact ⟨second.holdings.trans first.holdings, first.adds.trans later⟩

theorem step {w : Work H α} {f : α → Work H β} {outcome : Except Stop (Except Failure β)}
    (ran : (w >>= f).run.run s = (outcome, s'))
    (hw : ∀ {outcome s₁}, w.run.run s = (outcome, s₁) → handle.Asks s s₁)
    (hf : ∀ {a s₁ outcome s'}, (f a).run.run s₁ = (outcome, s') → handle.Asks s₁ s') :
    handle.Asks s s' := by
  rw [ExceptT.run_bind] at ran
  rcases Program.run_bind_inv ran with ⟨answer, s₁, first, rest⟩ | ⟨cause, stopped, -⟩
  · cases answer with
    | error failure =>
      cases rest
      exact hw first
    | ok a => exact (hw first).trans (hf rest)
  · exact hw stopped

theorem query {e : Executor H} (target : e.target = some handle) (q : TokenQuery)
    {read : Answer → Except DriverFailure α} {outcome : Except Stop (Except Failure α)}
    (ran : (e.query q.statement read).run.run s = (outcome, s')) : handle.Asks s s' := by
  refine ⟨Executor.query_holdings ran, ?_⟩
  rcases Executor.query_asks target ran with nothing | ⟨c, time, reply, leads, executed⟩
  · exact .of_trace_eq nothing
  · refine .of_append executed ?_
    rintro connection statement reply ⟨⟩
    exact ⟨leads.symm, by simp, q, rfl⟩

end Handle.Asks

/-- The unit of work asks queries in its transaction, and sends nothing else. -/
structure Database.Enquires (db : Database H) (work : UnitOfWork H α) : Prop where
  keeps : ∀ inner, (work inner).run.Keeps []
  sends : ∀ inner, (work inner).run.Confined
    ⟨Event.Sends fun statement => ∃ q : TokenQuery, statement = q.statement, fun _ => True⟩ []
  asks : ∀ {inner : RequestContext} {handle : Handle} {s s' : State H}
    {outcome : Except Stop (Except Failure α)}, inner.active? db.store.channel = some handle →
    (work inner).run.run s = (outcome, s') → handle.Asks s s'

/-! ## Rounds -/

/-- What the runs of a unit of work add to the trace, and what the store adds between them. -/
theorem Store.RoundsTo.adds {store : Store H} {mode : Mode} {handle : Handle} {begun : Connection}
    {work : UnitOfWork H α} {ctx : RequestContext} {restarts : Nat} {s s' : State H}
    {Q : Event H.Note → Prop} (silent : ∀ e : Event H.Note,
      (∀ connection statement reply, e ≠ .executed connection statement reply) → Q e)
    (prepare : ∀ c, (store.prepare mode c).run.Confined (.own Q) [c])
    (restart : ∀ c failure n, (store.restart mode c failure n).run.Confined (.own Q) [c])
    (worked : ∀ {restarts s r}, store.Runs handle begun work ctx restarts s r →
      r.before.Adds Q r.after)
    {rs : List (WorkRun H α)} {ending : Ending α}
    (account : RoundsTo store mode handle begun work ctx restarts s rs ending s') :
    s.Adds Q s' := by
  have opened : ∀ c, Q (.opened c) := fun c => silent _ (by simp)
  have running : ∀ c restarts reason, Q (.running c restarts reason) := fun _ _ _ =>
    silent _ (by simp)
  have preparing : ∀ c, Q (.preparing c) := fun _ => silent _ (by simp)
  have restarting : ∀ c restarts failure, Q (.restarting c restarts failure) := fun _ _ _ =>
    silent _ (by simp)
  have round : ∀ {s s' restarts r ending}, RoundTo store mode handle begun work ctx restarts s r
      ending s' → s.Adds Q s' := by
    intro s s' restarts r ending account
    have runs := account.runs
    have started : s.Adds Q r.before := runs.before ▸ .noted _ (running _ _ _)
    have ran := started.trans (worked runs)
    have prepared : ∀ {c : Connection} {answer : Except Stop (Except Failure Unit)} {s' : State H},
        (store.prepare mode c).run.run (r.after.noted (.preparing c)) = (answer, s') →
        s.Adds Q s' := fun prepared =>
      (ran.trans (.noted (.preparing _) (preparing _))).trans
        (.of_confined (prepare _) (fun _ h => h) opened prepared)
    cases account with
    | panicked runs verdict => exact ran
    | failed runs verdict => exact ran
    | escaped runs verdict hlease => exact ran
    | unprepared runs verdict hlease ran => exact prepared ran
    | succeeded runs verdict hlease ran => exact prepared ran
  have readied : ∀ {s s' failure restarts answer},
      StartOverTo store mode handle ctx failure restarts s answer s' → s.Adds Q s' := by
    intro s s' failure restarts answer account
    have restarted : ∀ {answer : Except Failure Bool} {s' : State H},
        RestartTo store mode handle failure restarts s answer s' → s.Adds Q s' := by
      intro answer s' account
      cases account with
      | escaped hlease => exact .of_trace_eq rfl
      | refused hlease ran =>
        exact (State.Adds.noted _ (restarting _ _ _)).trans
          (.of_confined (restart _ _ _) (fun _ h => h) opened ran)
      | answered hlease ran =>
        exact (State.Adds.noted _ (restarting _ _ _)).trans
          (.of_confined (restart _ _ _) (fun _ h => h) opened ran)
    cases account with
    | interrupted status => exact .of_trace_eq rfl
    | unable status restart => exact restarted restart
    | declined status restart => exact restarted restart
    | cut status restart ran => exact (restarted restart).trans (.of_trace_eq (rest_quiet ran).trace)
    | ready status restart ran =>
      exact (restarted restart).trans (.of_trace_eq (rest_quiet ran).trace)
  induction account with
  | succeeded account => exact round account
  | panicked account => exact round account
  | failed account anew => exact (round account).trans (readied anew)
  | again account anew tos ih => exact ((round account).trans (readied anew)).trans ih

/-- Between its savepoint and its end a transaction sends statements that rewind or release the
savepoint, and those of its unit of work. -/
theorem Database.SpeaksPostgres.between {db : Database H} (speaks : db.SpeaksPostgres)
    {Q : Event H.Note → Prop}
    (released : Server.Allows Q [Cockroach.releaseSavepoint])
    (rewound : Server.Allows Q [Cockroach.rewind]) :
    (∀ c, (db.store.prepare .readWrite c).run.Confined (.own Q) [c]) ∧
      ∀ c failure n, (db.store.restart .readWrite c failure n).run.Confined (.own Q) [c] := by
  cases speaks with
  | postgres server policy isolation => exact ⟨fun _ => trivial, fun _ _ _ => trivial⟩
  | cockroach server settings =>
    exact ⟨fun c => (Cockroach.prepare_tame server released .readWrite c).confined,
      fun c failure n =>
        (Cockroach.restart_tame server rewound settings .readWrite c failure n).confined⟩

namespace Database.Enquires

variable {db : Database H} {work : UnitOfWork H α} {ctx : RequestContext} {n : Nat}
  {s s' : State H} {t : Transaction H α} {outcome : Except Stop (Except Failure α)}

theorem opened (speaks : db.SpeaksPostgres) {answer : Except Stop (Except Failure Connection)}
    (ran : (ctx.guard (db.store.request .readWrite)).run.run s = (answer, s')) :
    s.Adds (Event.Sends (·.args = [])) s' :=
  Store.request_sends (speaks.sends fun _ bare _ => bare) ran

/-- From its beginning to its end a transaction takes no savepoint and commits nothing. -/
theorem proceeds (enquires : db.Enquires work) (speaks : db.SpeaksPostgres)
    (takes : db.store.Takes ctx .readWrite work n s t outcome s') :
    (db.store.begunIn t.given t.connection .readWrite n).Adds Event.Proceeds t.ended := by
  have bare : ∀ statement : Statement, statement.args = [] → statement ≠ Server.committing →
      statement ≠ Cockroach.savepoint →
      Server.Allows (Event.Proceeds : Event H.Note → Prop) [statement] := by
    rintro statement bare commits saves _ mem connection reply
    obtain rfl := List.mem_singleton.mp mem
    refine ⟨?_, commits, saves⟩
    rintro _ _ ⟨⟩
    exact bare
  have silent : ∀ e : Event H.Note,
      (∀ connection statement reply, e ≠ .executed connection statement reply) →
      e.Proceeds := by
    intro e other
    refine ⟨fun statement reply same => absurd same (other _ _ _), ?_⟩
    cases e with
    | executed connection statement reply => exact absurd rfl (other _ _ _)
    | _ => trivial
  obtain ⟨prepare, restart⟩ := speaks.between
    (bare Cockroach.releaseSavepoint rfl (by decide) (by decide))
    (bare Cockroach.rewind rfl (by decide) (by decide))
  refine takes.rounds.adds silent prepare restart fun {restarts s r} runs => ?_
  have asks := enquires.asks (RequestContext.active?_bind_self ctx db.store.channel _)
    (Program.run_of_catchPanic runs.ran)
  exact asks.adds.mono fun e h => h.proceeds

theorem attempt_inside (enquires : db.Enquires work) (speaks : db.SpeaksPostgres)
    (sound : s.Sound) (ran : (db.store.attempt ctx .readWrite work n).run.run s = (outcome, s'))
    (completed : outcome ≠ .error .dropped) : s.Adds Event.Inside s' := by
  rcases Store.attempt_takes speaks.lawful enquires.keeps sound (by simp) ran completed with
    ⟨failure, refused, -⟩ | ⟨t, takes⟩
  · exact (opened speaks refused).mono fun e h => h.inside
  · obtain ⟨finish, added, closing, -, events, committed, trace⟩ :=
      takes.finish_account speaks.endsBy
    have begun : t.given.Adds Event.Inside
        (db.store.begunIn t.given t.connection .readWrite n) := .of_append rfl (by rintro _ _ ⟨⟩)
    have given := (opened speaks takes.given).mono fun e h => h.inside
    have proceeds := (enquires.proceeds speaks takes).mono fun e (h : e.Proceeds) => h.1
    refine ((given.trans begun).trans proceeds).trans ⟨_, trace, ?_⟩
    rintro e mem statement reply same
    rcases List.mem_cons.mp mem with rfl | mem
    · cases h : t.ending.commits <;> simp [h, Event.terminator] at same
    · rcases List.mem_append.mp mem with mem | mem
      · have exchanged : e.2 ∈ finish.map (Exchange.event t.connection) :=
          events ▸ List.mem_map_of_mem mem
        obtain ⟨exchange, -, same'⟩ := List.mem_map.mp exchanged
        rw [same, Exchange.event] at same'
        cases same'
      · rw [committed e mem] at same
        cases same

/-- The draft of a transaction is blank where the last run of its unit of work starts. -/
theorem blank_of_last (enquires : db.Enquires work) (speaks : db.SpeaksPostgres)
    (takes : db.store.Takes ctx .readWrite work n s t outcome s') (sound : s.Sound)
    {s₁ : State H} {r : WorkRun H α}
    (last : db.store.LastRun .readWrite (Store.handleIn t.given .readWrite n) t.connection
      work ctx [] (db.store.begunIn t.given t.connection .readWrite n) t.ending t.ended s₁ r)
    (within : s₁.trace <+: t.ended.trace) :
    (({} : Draft).enterAll (sent t.connection s₁.trace)).queries = [] := by
  obtain ⟨opening, hopening, bare⟩ := (opened speaks takes.given).sent t.connection
  rw [sound.sent_eq_nil (takes.fresh speaks.lawful sound), List.nil_append] at hopening
  have begun : sent t.connection (db.store.begunIn t.given t.connection .readWrite n).trace =
      opening := (sent_noted rfl).trans hopening
  rcases last.first_or_again with rfl | ⟨failure, restarts, s₀, underway, anew⟩
  · rw [begun, Draft.enterAll_bare bare]
  · obtain ⟨earlier, answer, hsent⟩ := speaks.rewound anew underway.leads
    -- No other savepoint was taken meanwhile, so the mark is where the transaction began.
    obtain ⟨added, trace, -⟩ := last.earlier.trace
    obtain ⟨proceeds, -⟩ := (enquires.proceeds speaks takes).split ⟨added, trace.symm⟩ within
    obtain ⟨exchanges, since, others⟩ := (proceeds.mono fun e h => h.2).sent t.connection
    have unmarked : (({} : Draft).enterAll (sent t.connection s₁.trace)).mark = [] := by
      rw [since, begun, Draft.enterAll_append, Draft.enterAll_bare bare]
      exact Draft.mark_enterAll rfl fun x mem => (others x mem).2
    have rewound : ({} : Draft).enterAll (sent t.connection s₁.trace) =
        { ({} : Draft).enterAll earlier with
          queries := (({} : Draft).enterAll earlier).mark } := by
      rw [hsent, Draft.enterAll_append]
      exact Draft.enter_rewind _ answer
    rw [rewound] at unmarked ⊢
    exact unmarked

theorem view_prepared {l l' : Ledger} {c : Connection} (turns : l.Turns s l' s')
    (spares : s.Adds Event.Spares s') {prepared : List Exchange}
    (hsent : sent c s'.trace = sent c s.trace ++ prepared)
    (released : ∀ x ∈ prepared, x.1 = Cockroach.releaseSavepoint) :
    l'.view (some c) = l.view (some c) := by
  rw [Ledger.view, Ledger.view, turns.table_eq spares, turns.drafts_eq hsent,
    Draft.enterAll_released released]

/-- Up to its end a transaction changes nothing that was committed. -/
theorem spares (enquires : db.Enquires work) (speaks : db.SpeaksPostgres)
    (takes : db.store.Takes ctx .readWrite work n s t outcome s') :
    s.Adds Event.Spares t.ended := by
  have opened := Store.request_sends (P := fun statement =>
    statement.args = [] ∧ statement ≠ Server.committing)
    (speaks.sends fun _ bare other => ⟨bare, other⟩) takes.given
  have given : s.Adds Event.Spares t.given := opened.mono fun e h => by
    have bare : e.Sends (·.args = []) := by
      cases e <;> first | exact h.1 | trivial
    have others : e.Sends (· ≠ Server.committing) := by
      cases e <;> first | exact h.2 | trivial
    exact bare.inside.spares others.not_commits
  have begun : t.given.Adds Event.Spares
      (db.store.begunIn t.given t.connection .readWrite n) := by
    refine .of_append rfl ⟨?_, ?_⟩
    · rintro connection ⟨answer, ⟨⟩⟩
    · simp
  refine (given.trans begun).trans ((enquires.proceeds speaks takes).mono fun e h => ?_)
  have others : e.Sends (· ≠ Server.committing) := by
    obtain ⟨-, h⟩ := h
    cases e <;> first | exact h.1 | trivial
  exact h.1.spares others.not_commits

/-- A `COMMIT` that succeeds does the draft to the table. -/
theorem table_committed (speaks : db.SpeaksPostgres) {value : α}
    (takes : db.store.Takes ctx .readWrite work n s t (.ok (.ok value)) s') {l l' : Ledger}
    (turns : l.Turns t.ended l' s') : l'.table = l.view (some t.connection) := by
  obtain ⟨finish, added, closing, ending, events, committed, trace⟩ :=
    takes.finish_account speaks.endsBy
  obtain ⟨succeeded, done⟩ := takes.of_ok
  rw [succeeded, done] at ending
  generalize t.ended.unreadOn t.connection = unread at ending
  cases ending with
  | answered reply =>
    obtain ⟨⟨time, event⟩, rfl, rfl⟩ := List.map_eq_singleton_iff.mp events
    obtain ⟨-, rfl⟩ := turns.of_added trace
    have closes : ∀ e ∈ closing, e.2.Spares := by
      intro e mem
      rw [committed e mem]
      refine ⟨?_, by simp⟩
      rintro connection ⟨answer, ⟨⟩⟩
    have entered : l.enterAll (((t.ended.timeline.now,
        (.terminator t.connection t.ending.commits : Event H.Note)) ::
          ([(time, Exchange.event t.connection
            (Store.endingStatement (Ending.commits (.succeeded value)), .ok reply))] ++
          closing)).map (·.2)) =
        (l.enter (Exchange.event t.connection (Server.committing, .ok reply) :
          Event H.Note)).enterAll (closing.map (·.2)) := by
      rw [succeeded]
      rfl
    rw [entered, Ledger.table_enterAll (List.forall_mem_map.mpr closes)]
    exact l.enter_commit t.connection reply

end Database.Enquires

/-- In the run `r`, somewhere from `s` to `s'` and in the transaction on `c`, the unit of work gave the
value, and what it had asked made `t'` of the table `t`. -/
structure Database.Obtained (db : Database H) (work : UnitOfWork H α) (ctx : RequestContext)
    (s s' : State H) (value : α) (t t' : TokenTable) (c : Connection) (handle : Handle)
    (r : WorkRun H α) : Prop where
  runs : ∃ restarts s₁, db.store.Runs handle c work ctx restarts s₁ r
  leads : r.before.connectionOf handle.lease = some c
  verdict : r.verdict = .ok (.ok value)
  before : s.Later r.before
  after : r.after.Later s'
  serves : t.Serves (r.sent c) t'

namespace Database.Enquires

variable {db : Database H} {work : UnitOfWork H α} {ctx : RequestContext} {n : Nat}
  {s s' : State H} {t : Transaction H α} {outcome : Except Stop (Except Failure α)} {l l' : Ledger}

theorem view_of_last (enquires : db.Enquires work) (speaks : db.SpeaksPostgres)
    (takes : db.store.Takes ctx .readWrite work n s t outcome s') (sound : s.Sound)
    {s₁ : State H} {r : WorkRun H α}
    (last : db.store.LastRun .readWrite (Store.handleIn t.given .readWrite n) t.connection
      work ctx [] (db.store.begunIn t.given t.connection .readWrite n) t.ending t.ended s₁ r)
    (within : r.before.trace <+: t.ended.trace) (spares : s.Adds Event.Spares r.before)
    (turns : l.Turns s l' r.before) (blank : l.drafts t.connection = {}) :
    l'.view (some t.connection) = l.table := by
  obtain ⟨restarts, runs⟩ := last.runs
  have same : sent t.connection r.before.trace = sent t.connection s₁.trace := by
    rw [runs.before]
    exact sent_noted rfl
  have since : sent t.connection r.before.trace =
      sent t.connection s.trace ++ sent t.connection s₁.trace := by
    rw [same, sound.sent_eq_nil (takes.fresh speaks.lawful sound), List.nil_append]
  have started : s₁.trace <+: r.before.trace := by
    rw [runs.before]
    exact List.prefix_append _ _
  have nothing := enquires.blank_of_last speaks takes sound last (started.trans within)
  rw [Ledger.view, turns.table_eq spares, turns.drafts_eq since, blank, nothing]
  rfl

/-- In a transaction that gives a value, the last run of its unit of work is served from the table,
and what it has made of it is committed. -/
theorem takes_ledger (enquires : db.Enquires work) (speaks : db.SpeaksPostgres) {value : α}
    (takes : db.store.Takes ctx .readWrite work n s t (.ok (.ok value)) s') (sound : s.Sound)
    (turns : l.Turns s l' s') (blank : l.drafts t.connection = {}) :
    ∃ handle r, db.Obtained work ctx s s' value l.table l'.table t.connection handle r := by
  have underway := takes.underway speaks.lawful sound (List.forall_mem_nil _)
  obtain ⟨s₁, r, mem, last⟩ := takes.rounds.lastRun speaks.lawful enquires.keeps underway
  obtain ⟨restarts, runs⟩ := last.runs
  obtain ⟨succeeded, -⟩ := takes.of_ok
  obtain ⟨verdict, -⟩ := (last.succeeded_iff _).mp succeeded
  have leads : r.before.connectionOf (Store.handleIn t.given .readWrite n).lease =
      some t.connection := by
    rw [runs.before]
    exact (underway.step last.earlier).leads
  have before : s.Later r.before := (takes.includes r mem).later
  have during : r.before.Later r.after := Program.later_of_run runs.ran
  have ended : r.after.Later t.ended := takes.rounds.later_after r mem
  refine ⟨_, r, ⟨restarts, s₁, runs⟩, leads, verdict, before, ended.trans takes.later, ?_⟩
  -- The ledger before and after the last run, and where the transaction ends.
  obtain ⟨l₃, turns, ending⟩ := turns.split
    ((before.trace.trans during.trace).trans ended.trace) takes.later.trace
  obtain ⟨l₂, turns, preparing⟩ := turns.split (before.trace.trans during.trace) ended.trace
  obtain ⟨l₁, starting, running⟩ := turns.split before.trace during.trace
  obtain ⟨spares, spared⟩ :=
    (enquires.spares speaks takes).split (before.trace.trans during.trace) ended.trace
  obtain ⟨spares, -⟩ := spares.split before.trace during.trace
  have view := enquires.view_of_last speaks takes sound last (during.trace.trans ended.trace)
    spares starting blank
  obtain ⟨agrees, rfl⟩ := running.of_added runs.trace
  have asks := (enquires.asks (RequestContext.active?_bind_self ctx db.store.channel _)
    (Program.run_of_catchPanic runs.ran)).adds
  rw [leads] at asks
  have served := Ledger.serves agrees fun e mem => (r.added_as asks e mem).asks
  obtain ⟨prepared, hprepared, released⟩ := speaks.prepare_sent (last.prepared _ succeeded)
  rw [sent_noted rfl] at hprepared
  rw [table_committed speaks takes ending, view_prepared preparing spared hprepared released, ← view]
  exact served

section Attempts

variable {policy : RetryPolicy} {left : Nat} {ms : List (Made H α)}

theorem sends_no_commit (enquires : db.Enquires work) (inner : RequestContext) :
    (work inner).run.Confined ⟨Event.Sends (· ≠ Server.committing), fun _ => True⟩ [] := by
  refine (enquires.sends inner).mono ⟨fun e h => ?_, fun _ h => h⟩ (List.Subset.refl _)
  cases e with
  | executed connection statement reply =>
    obtain ⟨q, rfl⟩ := h
    exact Draft.query_ne_control q rfl
  | _ => trivial

/-- In the course of attempts nothing is asked on the pool, and no `COMMIT` succeeds but that of the
last one. -/
theorem attempts_inside (enquires : db.Enquires work) (speaks : db.SpeaksPostgres)
    {answer : Except Failure α} (sound : s.Sound)
    (account : policy.RunTo ctx db.store.retries (db.store.attempt ctx .readWrite work) left n s ms
      (.ok answer) s') (bound : n + left = policy.maxAttempts) :
    s.Adds (fun e => e.Inside ∧ ∀ connection, e.Commits connection →
      (∃ value, answer = .ok value) ∧ ∃ m c, ms.getLast? = some m ∧
        db.store.Obtains ctx .readWrite m c ∧ connection = some c) s' := by
  have commits := Store.attempts_commits speaks.lawful speaks.endsBy
    (speaks.sends fun _ _ other => other) enquires.sends_no_commit enquires.keeps account bound
    (by simp) sound (by simp)
  obtain ⟨-, attempts⟩ := Store.attempts_keep speaks.lawful enquires.keeps account (by simp) sound
    (by simp)
  have inside : s.Adds Event.Inside s' :=
    account.along_made State.Adds.trans (fun quiet => .of_trace_eq quiet.trace) fun m mem => by
      obtain ⟨before, ran, completed, -⟩ := attempts m mem
      exact enquires.attempt_inside speaks before.sound ran completed
  refine (inside.and commits).mono fun e h => ⟨h.1, fun connection done => ?_⟩
  obtain ⟨⟨value, gave⟩, obtained⟩ := h.2 connection done
  exact ⟨⟨value, Except.ok.inj gave⟩, obtained⟩

/-- Of attempts that give a value the last one alone changes the table. -/
theorem attempts_ledger (enquires : db.Enquires work) (speaks : db.SpeaksPostgres) {value : α}
    (sound : s.Sound)
    (account : policy.RunTo ctx db.store.retries (db.store.attempt ctx .readWrite work) left n s ms
      (.ok (.ok value)) s') (bound : n + left = policy.maxAttempts) (turns : l.Turns s l' s')
    (blank : ∀ c ∉ s.connections, l.drafts c = {}) :
    ∃ c handle r, db.Obtained work ctx s s' value l.table l'.table c handle r := by
  have recorded := enquires.attempts_inside speaks sound account bound
  obtain ⟨-, attempts⟩ := Store.attempts_keep speaks.lawful enquires.keeps account (by simp) sound
    (by simp)
  obtain ⟨earlier, m, rfl, gives, rfl⟩ := account.last_of_ok
  obtain ⟨before, attempted, -⟩ := attempts m (by simp)
  rw [gives] at attempted
  rcases Store.attempt_takes speaks.lawful enquires.keeps before.sound (by simp) attempted
    (by simp) with ⟨failure, -, failed⟩ | ⟨t, takes⟩
  · cases failed
  have later := account.later_before m (by simp)
  have fresh := takes.fresh speaks.lawful before.sound
  obtain ⟨l₁, earlier, last⟩ := turns.split later.trace (Program.later_of_run attempted).trace
  -- The last attempt commits on a connection of its own, of which nothing was recorded before.
  have spares : s.Adds Event.Spares m.before := by
    obtain ⟨added, trace, as⟩ :=
      (recorded.split later.trace (Program.later_of_run attempted).trace).1
    refine ⟨added, trace, fun e mem => ?_⟩
    obtain ⟨inside, commits⟩ := as e mem
    refine inside.spares fun connection done => ?_
    obtain ⟨-, m', d, last, obtained, rfl⟩ := commits connection done
    obtain rfl : m = m' := by simpa using last
    obtain ⟨answer, executed⟩ := done
    have known := before.sound.traced e (trace ▸ List.mem_append_right _ mem) d
      (by rw [executed]; rfl)
    exact obtained.fresh speaks.lawful before.sound known
  have draft : l₁.drafts t.connection = {} := by
    have unknown : t.connection ∉ s.connections := fun known => fresh (before.known known)
    have nothing : sent t.connection m.before.trace = sent t.connection s.trace ++ [] := by
      rw [before.sound.sent_eq_nil fresh, sound.sent_eq_nil unknown, List.append_nil]
    rw [earlier.drafts_eq nothing, blank _ unknown, Draft.enterAll_nil]
  obtain ⟨handle, r, obtained⟩ := enquires.takes_ledger speaks takes before.sound last draft
  rw [earlier.table_eq spares] at obtained
  exact ⟨t.connection, handle, r, { obtained with before := later.trans obtained.before }⟩

end Attempts

/-- A call that fails leaves the table as it was, and one that gives a value changes it as what was
asked in the last run of its unit of work does. -/
theorem call_ledger (enquires : db.Enquires work) (speaks : db.SpeaksPostgres) (sound : s.Sound)
    (own : ctx.active? db.store.channel = none) {answer : Except Failure α}
    (ran : (db.store.call .readWrite ctx work).run.run s = (.ok answer, s'))
    (turns : l.Turns s l' s') (blank : ∀ c ∉ s.connections, l.drafts c = {}) :
    (∀ failure, answer = .error failure → l'.table = l.table) ∧
      ∀ value, answer = .ok value →
        ∃ c handle r, db.Obtained work ctx s s' value l.table l'.table c handle r := by
  rw [Store.call_own own (by simp)] at ran
  obtain ⟨ms, account⟩ := RetryPolicy.runFrom_account ran
  refine ⟨?_, ?_⟩
  · rintro failure rfl
    have recorded := enquires.attempts_inside speaks sound account (RetryPolicy.run_bound _)
    refine turns.table_eq (recorded.mono fun e h => h.1.spares fun connection done => ?_)
    obtain ⟨⟨value, gave⟩, -⟩ := h.2 connection done
    cases gave
  · rintro value rfl
    exact enquires.attempts_ledger speaks sound account (RetryPolicy.run_bound _) turns blank

end Database.Enquires

end SessionKeeper
