import SessionKeeper.Proofs.Sql.Exchange
import SessionKeeper.Proofs.Sql.Stores
import SessionKeeper.Proofs.Transaction.AllOrNothing

/-!
Which transactions a server commits. A store that ends its transactions with the statements of a
server sends `COMMIT` nowhere else, if its unit of work does not. So a `COMMIT` that succeeds in the
course of a call is that of its last attempt, which gives a value (`attempts_commits`).

`Store.Sends P` says that whatever the primitives of a store send is in `P`, and `Store.EndsBy
server` that its `commit` and `rollback` are those of the server. The statements of a whole attempt
are then those of its parts, one lemma for each constructor of its account.
-/

namespace SessionKeeper

variable {H : Host} {N : Type} {α : Type}

/-- With the event a server has committed the transaction on a connection. -/
def Event.Commits (connection : Option Connection) (e : Event N) : Prop :=
  ∃ answer, e = .executed connection Server.committing (.ok answer)

theorem Event.Sends.not_commits {e : Event N} (h : e.Sends (· ≠ Server.committing))
    (connection : Option Connection) : ¬ e.Commits connection := by
  rintro ⟨answer, rfl⟩
  exact h rfl

theorem State.Adds.sent {P : Statement → Prop} {s s' : State H} (h : s.Adds (Event.Sends P) s')
    (c : Connection) : ∃ exchanges, SessionKeeper.sent c s'.trace =
      SessionKeeper.sent c s.trace ++ exchanges ∧ ∀ x ∈ exchanges, P x.1 := by
  obtain ⟨added, trace, as⟩ := h
  refine ⟨SessionKeeper.sent c added, by rw [trace, sent_append], ?_⟩
  intro x mem
  obtain ⟨e, mem, exchanged⟩ := List.mem_filterMap.mp mem
  have allowed := as e mem
  cases hevent : e.2 with
  | executed connection statement reply =>
    rw [hevent] at exchanged allowed
    simp only [Event.exchange?, Option.ite_none_right_eq_some, Option.some.injEq] at exchanged
    obtain ⟨-, rfl⟩ := exchanged
    exact allowed
  | _ => simp [hevent, Event.exchange?] at exchanged

namespace Store

variable {store : Store H} {mode : Mode} {handle : Handle} {begun : Connection}
  {work : UnitOfWork H α} {ctx : RequestContext} {held : List Connection} {restarts n : Nat}
  {s s' : State H}

/-- Until the end of a transaction the primitives of the store send only statements of `P`. -/
structure Sends (store : Store H) (mode : Mode) (P : Statement → Prop) : Prop where
  start : (store.start mode).run.Confined (.own (Event.Sends P)) []
  prepare : ∀ c, (store.prepare mode c).run.Confined (.own (Event.Sends P)) [c]
  restart : ∀ c failure n, (store.restart mode c failure n).run.Confined (.own (Event.Sends P)) [c]

variable {P : Statement → Prop}

theorem RoundTo.sends {r : WorkRun H α} {ending : Ending α} (sends : store.Sends mode P)
    (working : ∀ inner, (work inner).run.Confined ⟨Event.Sends P, fun _ => True⟩ held)
    (account : RoundTo store mode handle begun work ctx restarts s r ending s') :
    s.Adds (Event.Sends P) s' := by
  have worked : s.Adds (Event.Sends P) r.after := by
    have runs := account.runs
    have started : s.Adds (Event.Sends P) r.before := runs.before ▸ .noted _ trivial
    exact started.trans (.of_confined (working _) (fun _ h => h) (fun _ => trivial)
      (Program.run_of_catchPanic runs.ran))
  have prepared : ∀ {c : Connection} {answer : Except Stop (Except Failure Unit)} {s' : State H},
      (store.prepare mode c).run.run (r.after.noted (.preparing c)) = (answer, s') →
      s.Adds (Event.Sends P) s' := fun ran =>
    (worked.trans (.noted (.preparing _) trivial)).trans
      (.of_confined (sends.prepare _) (fun _ h => h) (fun _ => trivial) ran)
  cases account with
  | panicked runs verdict => exact worked
  | failed runs verdict => exact worked
  | escaped runs verdict hlease => exact worked
  | unprepared runs verdict hlease ran => exact prepared ran
  | succeeded runs verdict hlease ran => exact prepared ran

theorem StartOverTo.sends {failure : Failure} {answer : Except Failure Unit}
    (sends : store.Sends mode P)
    (account : StartOverTo store mode handle ctx failure restarts s answer s') :
    s.Adds (Event.Sends P) s' := by
  have restarted : ∀ {answer : Except Failure Bool} {s' : State H},
      RestartTo store mode handle failure restarts s answer s' →
      s.Adds (Event.Sends P) s' := by
    intro answer s' account
    have asked : ∀ {c : Connection} {answer : Except Stop (Except Failure Bool)} {s' : State H},
        (store.restart mode c failure restarts).run.run
          (s.noted (.restarting c restarts failure)) = (answer, s') →
        s.Adds (Event.Sends P) s' := fun ran =>
      (State.Adds.noted _ trivial).trans
        (.of_confined (sends.restart _ _ _) (fun _ h => h) (fun _ => trivial) ran)
    cases account with
    | escaped hlease => exact .of_trace_eq rfl
    | refused hlease ran => exact asked ran
    | answered hlease ran => exact asked ran
  cases account with
  | interrupted status => exact .of_trace_eq rfl
  | unable status restart => exact restarted restart
  | declined status restart => exact restarted restart
  | cut status restart ran => exact (restarted restart).trans (.of_trace_eq (rest_quiet ran).trace)
  | ready status restart ran =>
    exact (restarted restart).trans (.of_trace_eq (rest_quiet ran).trace)

theorem RoundsTo.sends {rs : List (WorkRun H α)} {ending : Ending α}
    (sends : store.Sends mode P)
    (working : ∀ inner, (work inner).run.Confined ⟨Event.Sends P, fun _ => True⟩ held)
    (account : RoundsTo store mode handle begun work ctx restarts s rs ending s') :
    s.Adds (Event.Sends P) s' := by
  induction account with
  | succeeded account => exact account.sends sends working
  | panicked account => exact account.sends sends working
  | failed account anew => exact (account.sends sends working).trans (anew.sends sends)
  | again account anew tos ih =>
    exact ((account.sends sends working).trans (anew.sends sends)).trans ih

theorem request_sends (sends : store.Sends mode P)
    {answer : Except Stop (Except Failure Connection)}
    (ran : (ctx.guard (store.request mode)).run.run s = (answer, s')) :
    s.Adds (Event.Sends P) s' := by
  have requesting : (store.request mode).run.Confined (.own (Event.Sends P)) [] :=
    ⟨⟨trivial, fun _ h => by cases h⟩, fun _ => sends.start⟩
  exact .of_confined (ctx.guard_confined requesting) (fun _ h => h) (fun _ => trivial) ran

/-- The store ends its transactions with the statements of a server. -/
structure EndsBy (store : Store H) (server : Server H) : Prop where
  commit : store.commit = server.commit
  rollback : store.rollback = server.rollback

/-- The statement that ends a transaction. -/
def endingStatement (commits : Bool) : Statement :=
  if commits then Server.committing else Server.rollingBack

theorem commits_of_mem {commits : Bool} {unread : Option DriverFailure}
    {answer : Except Failure Unit} {finish : List Exchange} {reply : Answer}
    (ends : Server.EndsWith (endingStatement commits) unread answer finish)
    (mem : (Server.committing, .ok reply) ∈ finish) : commits = true ∧ answer = .ok () := by
  have other : Server.committing ≠ Server.rollingBack := by decide
  cases ends with
  | answered answer =>
    simp only [List.mem_singleton, Prod.mk.injEq] at mem
    cases commits with
    | true => exact ⟨rfl, rfl⟩
    | false => exact absurd mem.1 other
  | refused error discarded => simp [other] at mem
  | unread error discarded => simp [other] at mem

namespace Takes

variable {server : Server H} {t : Transaction H α} {outcome : Except Stop (Except Failure α)}

/-- Up to its end a transaction sends nothing that its parts do not. -/
theorem sends (takes : store.Takes ctx mode work n s t outcome s') (sends : store.Sends mode P)
    (working : ∀ inner, (work inner).run.Confined ⟨Event.Sends P, fun _ => True⟩ held) :
    s.Adds (Event.Sends P) t.ended := by
  have begun : t.given.Adds (Event.Sends P) (store.begunIn t.given t.connection mode n) :=
    .of_append rfl trivial
  exact ((request_sends sends takes.given).trans begun).trans
    (takes.rounds.sends sends working)

/-- What was recorded at the end of a transaction: the exchanges with which the store ended it. -/
theorem finish_account (takes : store.Takes ctx mode work n s t outcome s')
    (ends : store.EndsBy server) :
    ∃ finish added closing,
      Server.EndsWith (endingStatement t.ending.commits) (t.ended.unreadOn t.connection) t.answer
        finish ∧
      added.map (·.2) = finish.map (Exchange.event t.connection) ∧
      (∀ e ∈ closing, e.2 = .committed t.connection) ∧
      s'.trace = t.ended.trace ++
        (t.ended.timeline.now, .terminator t.connection t.ending.commits) :: (added ++ closing) := by
  have answered := takes.answered
  have same : store.finish t.connection t.ending.commits =
      server.finish (endingStatement t.ending.commits) t.connection := by
    unfold finish
    rw [ends.commit, ends.rollback]
    cases t.ending.commits <;> rfl
  rw [same] at answered
  obtain ⟨finish, added, ending, trace, events⟩ := Server.finish_account answered
  obtain ⟨closing, hclosing, committed⟩ := takes.closing_trace
  refine ⟨finish, added, closing, ending, events, committed, ?_⟩
  rw [hclosing, trace]
  simp [State.noted, State.releasing]

theorem finish_sent (takes : store.Takes ctx mode work n s t outcome s')
    (ends : store.EndsBy server) :
    ∃ finish, Server.EndsWith (endingStatement t.ending.commits) (t.ended.unreadOn t.connection)
        t.answer finish ∧
      sent t.connection s'.trace = sent t.connection t.ended.trace ++ finish := by
  obtain ⟨finish, added, closing, ending, events, committed, trace⟩ := takes.finish_account ends
  refine ⟨finish, ending, ?_⟩
  have nothing : sent t.connection closing = [] := by
    apply sent_eq_nil
    intro e mem
    rw [committed e mem]
    rfl
  have terminator : sent t.connection [(t.ended.timeline.now,
      (.terminator t.connection t.ending.commits : Event H.Note))] = [] := by
    cases t.ending.commits <;> rfl
  rw [trace, List.append_cons, sent_append, sent_append, sent_append, terminator,
    nothing, sent_of_events events, List.append_nil, List.append_nil]

/-- The last thing that is sent in an attempt that gives a value is a `COMMIT` that succeeds. -/
theorem commit_sent {value : α} (takes : store.Takes ctx mode work n s t (.ok (.ok value)) s')
    (ends : store.EndsBy server) :
    ∃ reply, sent t.connection s'.trace =
      sent t.connection t.ended.trace ++ [(Server.committing, .ok reply)] := by
  obtain ⟨finish, ending, hfinish⟩ := takes.finish_sent ends
  obtain ⟨succeeded, done⟩ := takes.of_ok
  rw [succeeded, done] at ending
  generalize t.ended.unreadOn t.connection = unread at ending
  cases ending with
  | answered reply => exact ⟨reply, hfinish⟩

/-- A `COMMIT` that succeeds is that of an attempt that gives a value, on its connection. -/
theorem commits (takes : store.Takes ctx mode work n s t outcome s') (ends : store.EndsBy server)
    (sends : store.Sends mode (· ≠ Server.committing))
    (working : ∀ inner,
      (work inner).run.Confined ⟨Event.Sends (· ≠ Server.committing), fun _ => True⟩ held) :
    s.Adds (fun e => ∀ connection, e.Commits connection →
      connection = some t.connection ∧ ∃ value, outcome = .ok (.ok value)) s' := by
  obtain ⟨finish, added, closing, ending, events, committed, trace⟩ := takes.finish_account ends
  refine ((takes.sends sends working).mono fun e h connection commits => ?_).trans ⟨_, trace, ?_⟩
  · exact absurd commits (h.not_commits connection)
  · rintro e mem connection ⟨reply, commits⟩
    rcases List.mem_cons.mp mem with rfl | mem
    · cases h : t.ending.commits <;> simp [h, Event.terminator] at commits
    · rcases List.mem_append.mp mem with mem | mem
      · -- The one statement of the end that commits is that of an ending that has succeeded.
        have exchanged : e.2 ∈ finish.map (Exchange.event t.connection) :=
          events ▸ List.mem_map_of_mem mem
        obtain ⟨⟨statement, answer⟩, mem, same⟩ := List.mem_map.mp exchanged
        rw [commits, Exchange.event] at same
        cases same
        obtain ⟨hcommits, hanswer⟩ := commits_of_mem ending mem
        refine ⟨rfl, ?_⟩
        rw [takes.outcome, hanswer]
        cases hending : t.ending with
        | succeeded value => exact ⟨value, rfl⟩
        | failed failure => simp [hending, Ending.commits] at hcommits
        | panicked message => simp [hending, Ending.commits] at hcommits
      · rw [committed e mem] at commits
        cases commits

end Takes

/-- A `COMMIT` that succeeds in the course of attempts is that of the last one, on the connection
that this one got, and their value is its own. -/
theorem attempts_commits {server : Server H} (lawful : store.Lawful) (ends : store.EndsBy server)
    (sends : store.Sends mode (· ≠ Server.committing))
    (working : ∀ inner,
      (work inner).run.Confined ⟨Event.Sends (· ≠ Server.committing), fun _ => True⟩ held)
    (keeps : ∀ inner, (work inner).run.Keeps held) {policy : RetryPolicy}
    {retries : Failure → Bool} {left : Nat} {ms : List (Made H α)}
    {outcome : Except Stop (Except Failure α)}
    (account : policy.RunTo ctx retries (store.attempt ctx mode work) left n s ms outcome s')
    (bound : n + left = policy.maxAttempts) (completed : outcome ≠ .error .dropped)
    (sound : s.Sound) (known : ∀ d ∈ held, d ∈ s.connections) :
    s.Adds (fun e => ∀ connection, e.Commits connection →
      (∃ value, outcome = .ok (.ok value)) ∧
        ∃ m c, ms.getLast? = some m ∧ store.Obtains ctx mode m c ∧ connection = some c) s' := by
  refine account.along_made (P := State.Adds _) State.Adds.trans
    (fun quiet => .of_trace_eq quiet.trace) fun m mem => ?_
  obtain ⟨-, ⟨failure, refused, -⟩ | ⟨t, takes⟩⟩ :=
    attempts_take lawful keeps account completed sound known mem
  · exact (request_sends sends refused).mono fun e h connection commits =>
      absurd commits (h.not_commits connection)
  · refine (takes.commits ends sends working).mono fun e h connection commits => ?_
    obtain ⟨rfl, value, gives⟩ := h connection commits
    obtain ⟨earlier, later, rfl⟩ := List.append_of_mem mem
    -- An attempt that gives a value is the last one.
    obtain ⟨rfl, final⟩ := (account.heeds bound earlier m later rfl).succeeded value gives
    exact ⟨⟨value, final⟩, m, t.connection, by simp, ⟨t.given, takes.given⟩, rfl⟩

/-- A `COMMIT` that succeeds in the course of a call that opens its own transactions is that of its
last attempt. -/
theorem call_commits {server : Server H} (lawful : store.Lawful) (ends : store.EndsBy server)
    (sends : store.Sends mode (· ≠ Server.committing))
    (working : ∀ inner,
      (work inner).run.Confined ⟨Event.Sends (· ≠ Server.committing), fun _ => True⟩ held)
    (keeps : ∀ inner, (work inner).run.Keeps held) (own : ctx.active? store.channel = none)
    (supported : mode = .readOnly → store.readOnly = true)
    {outcome : Except Stop (Except Failure α)}
    (ran : (store.call mode ctx work).run.run s = (outcome, s'))
    (completed : outcome ≠ .error .dropped) (sound : s.Sound)
    (known : ∀ d ∈ held, d ∈ s.connections) : ∃ ms added,
      (store.policy mode).RunTo ctx store.retries (store.attempt ctx mode work)
        ((store.policy mode).maxAttempts - 1) 1 s ms outcome s' ∧
      s'.trace = s.trace ++ added ∧
      ∀ e ∈ added, ∀ connection, e.2.Commits connection →
        (∃ value, outcome = .ok (.ok value)) ∧
          ∃ m c, ms.getLast? = some m ∧ store.Obtains ctx mode m c ∧ connection = some c := by
  rw [call_own own supported] at ran
  obtain ⟨ms, account⟩ := RetryPolicy.runFrom_account ran
  obtain ⟨added, trace, commits⟩ := attempts_commits lawful ends sends working keeps account
    (RetryPolicy.run_bound _) completed sound known
  exact ⟨ms, added, account, trace, commits⟩

end Store

end SessionKeeper
