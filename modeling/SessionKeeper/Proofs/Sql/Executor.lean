import SessionKeeper.Proofs.Sql.Reply
import SessionKeeper.Proofs.Sql.Stores

/-!
Statements of an executor. Each is sent at most once, and nothing else is. It is sent on the route
of the executor, which is the pool or the connection that the lease of a transaction leads to, and
it is answered with the reply unless the context is done by the time of it (`Executor.AnswersTo`,
`Executor.query_run`). So a statement that was read on the connection of a transaction was sent
there (`Executor.QueryTo.of_ok`).

`Executor.query` is what `execute`, `fetch_one`, `fetch_optional`, `fetch_all` and `ping` have in
common: the connection is looked up, the statement is raced against the context, and the answer is
read. A constructor of `Executor.AnswersTo` is one way through that. Nothing is assumed of the
server, nor of what it replies.
-/

namespace SessionKeeper

variable {H : Host} {α : Type}

theorem Dialect.readFirst_eq_ok {d : Dialect} {row : List Datum} {n : Int}
    (h : d.readFirst row = .ok n) : ∃ rest, row = .int n :: rest := by
  cases row with
  | nil => cases h
  | cons value rest =>
    cases value with
    | int m =>
      cases h
      exact ⟨rest, rfl⟩
    | null => cases h
    | text text => cases h
    | time time => cases h

namespace Executor

variable {held : List Connection} {may : Event H.Note → Prop} {statement : Statement}

/-- Sends a statement, and reads the answer to it. -/
def sending (e : Executor H) (statement : Statement) (read : Answer → Except DriverFailure α)
    (connection : Option Connection) : Program H (Except Failure α) :=
  (e.context.guard (e.server.send connection statement)).run.bind fun
    | .error failure => .done (.error failure)
    | .ok answer => .done ((read answer).mapError .ofDriver)

theorem query_of_pool {e : Executor H} (target : e.target = none) (statement : Statement)
    (read : Answer → Except DriverFailure α) :
    (e.query statement read).run = e.sending statement read none := by
  unfold query connection
  rw [target]
  rfl

/-- A statement in a transaction is sent on its connection, if the context is live and the
transaction lasts. -/
theorem query_of_handle {e : Executor H} {handle : Handle} (target : e.target = some handle)
    (statement : Statement) (read : Answer → Except DriverFailure α) :
    (e.query statement read).run = Program.bind e.context.status fun
      | some reason => .done (.error (.canceled reason))
      | none => (Program.borrow handle.lease).bind fun
        | none => .done (.error Handle.escaped)
        | some c => e.sending statement read (some c) := by
  unfold query connection
  simp only [target, ExceptT.run_mk, Program.bind_eq_bind, Program.bind_assoc, Handle.guard_lock]
  congr 1
  funext status
  cases status with
  | some reason => rfl
  | none =>
    change Program.ask _ _ = Program.ask _ _
    congr 1
    funext found
    cases found <;> rfl

theorem sending_confined {lent : Lease → Prop} (e : Executor H)
    (allowed : Server.Allows may [statement]) {connection : Option Connection}
    (mem : ∀ c, connection = some c → c ∈ held) (read : Answer → Except DriverFailure α) :
    (e.sending statement read connection).Confined ⟨may, lent⟩ held := by
  have sent : (e.server.send connection statement).run.Confined ⟨may, lent⟩ held :=
    (e.server.send_tame allowed mem).confined.mono ⟨fun _ h => h, fun _ h => h.elim⟩
      (List.Subset.refl _)
  refine (e.context.guard_confined sent).bind ?_
  intro answer
  cases answer <;> trivial

theorem query_confined (e : Executor H) (allowed : Server.Allows may [statement])
    (read : Answer → Except DriverFailure α) :
    (e.query statement read).run.Confined ⟨may, fun _ => True⟩ held := by
  cases target : e.target with
  | none =>
    rw [query_of_pool target]
    exact e.sending_confined allowed (by simp) read
  | some handle =>
    rw [query_of_handle target]
    refine ⟨trivial, fun status => ?_⟩
    cases status with
    | some reason => trivial
    | none =>
      refine ⟨trivial, fun found => ?_⟩
      cases found with
      | none => trivial
      | some c =>
        exact e.sending_confined allowed (Server.mem_of_some List.mem_cons_self) read

theorem query_holdings {e : Executor H} {read : Answer → Except DriverFailure α} {s s' : State H}
    {outcome : Except Stop (Except Failure α)}
    (ran : (e.query statement read).run.run s = (outcome, s')) : s'.holdings = s.holdings := by
  have confined : (e.query statement read).run.Confined ⟨fun _ => True, fun _ => True⟩ [] :=
    e.query_confined (fun _ _ _ _ => trivial) read
  have holdings := confined.holdings s
  rwa [ran] at holdings

theorem sending_calm (e : Executor H) (statement : Statement)
    (read : Answer → Except DriverFailure α) (connection : Option Connection) :
    (e.sending statement read connection).Calm := by
  have tame : (e.server.send connection statement).run.Tame Event.Plain connection.toList :=
    e.server.send_tame (Server.allows_plain _) fun c hc => Option.mem_toList.mpr hc
  refine (e.context.guard_calm tame.calm).bind ?_
  intro answer
  cases answer <;> trivial

theorem query_calm (e : Executor H) (statement : Statement)
    (read : Answer → Except DriverFailure α) : (e.query statement read).run.Calm := by
  cases target : e.target with
  | none =>
    rw [query_of_pool target]
    exact e.sending_calm statement read none
  | some handle =>
    rw [query_of_handle target]
    intro status
    cases status with
    | some reason => trivial
    | none =>
      intro found
      cases found with
      | none => trivial
      | some c => exact e.sending_calm statement read (some c)

/-! ## What a statement comes to -/

/-- Where the next statement goes: to the pool, to the connection of the transaction, or nowhere if
the transaction is over. -/
def route (e : Executor H) (s : State H) : Option (Option Connection) :=
  match e.target with
  | none => some none
  | some handle => (s.connectionOf handle.lease).map some

theorem route_of_pool {e : Executor H} (target : e.target = none) (s : State H) :
    e.route s = some none := by
  rw [route, target]

theorem route_of_handle {e : Executor H} {handle : Handle} (target : e.target = some handle)
    (s : State H) : e.route s = (s.connectionOf handle.lease).map some := by
  rw [route, target]

/-- How a call of `e` in `s` turns out that asks for a statement and reads the answer with `read`:
what it is answered, and what becomes of `s`. -/
inductive AnswersTo (e : Executor H) (statement : Statement)
    (read : Answer → Except DriverFailure α) (s : State H) : Except Failure α → State H → Prop
  /-- The context is done already, and the server sees nothing. -/
  | done {reason : Cancellation} : s.timeline.status e.context.signal = some reason →
      AnswersTo e statement read s (.error (.canceled reason)) s
  /-- The transaction is over, and the server sees nothing. -/
  | ended : s.timeline.status e.context.signal = none → e.route s = none →
      AnswersTo e statement read s (.error Handle.escaped) s
  /-- The error of an abandoned statement is still to be read on the connection. It is taken for the
  reply, and the server sees nothing. -/
  | unread {c : Connection} {error : DriverFailure} {s' : State H} :
      s.timeline.status e.context.signal = none → e.route s = some (some c) →
      s.unreadOn c = some error →
      s'.trace = s.trace → s'.host = s.host → s'.timeline = s.timeline →
      AnswersTo e statement read s (.error (.ofDriver error)) s'
  /-- The statement is executed, and the context is live until the reply has come. -/
  | replied {connection : Option Connection} {s' : State H} :
      s.timeline.status e.context.signal = none → e.route s = some connection →
      (∀ c, connection = some c → s.unreadOn c = none) →
      (¬ ∃ first, e.server.FiresAt connection statement e.context.signal s first) →
      e.server.Executed connection statement s (e.server.due connection statement s) s' →
      AnswersTo e statement read s
        (((e.server.response connection statement s).reply.bind read).mapError .ofDriver) s'
  /-- The statement is executed, and the context is done first. -/
  | interrupted {connection : Option Connection} {first : Instant} {reason : Cancellation}
      {s' : State H} :
      s.timeline.status e.context.signal = none → e.route s = some connection →
      (∀ c, connection = some c → s.unreadOn c = none) →
      e.server.FiresAt connection statement e.context.signal s first →
      e.server.Executed connection statement s first s' →
      s'.timeline.DoneFor e.context.signal reason →
      AnswersTo e statement read s (.error (.canceled reason)) s'

section Query

variable {e : Executor H} {read : Answer → Except DriverFailure α}
  {connection : Option Connection} {s : State H}

theorem sending_run (live : s.timeline.status e.context.signal = none) :
    (e.sending statement read connection).run s =
      (((e.server.send connection statement).run.race e.context.signal).bind fun
        | .ok (.ok answer) => .done ((read answer).mapError .ofDriver)
        | .ok (.error failure) => .done (.error failure)
        | .error reason => .done (.error (.canceled reason))).run s := by
  rw [sending, Context.guard_run, Context.status, Program.bind_assoc,
    Program.run_bind_ok (Program.run_status s _), live]
  simp only [Program.bind_assoc]
  congr 2
  funext raced
  rcases raced with reason | (failure | answer) <;> rfl

/-- A statement that reaches the server is answered with the reply, unless the context is done by
the time of it. -/
theorem sending_run_of_clear (live : s.timeline.status e.context.signal = none)
    (route : e.route s = some connection)
    (clear : ∀ c, connection = some c → s.unreadOn c = none) :
    ∃ answer s', (e.sending statement read connection).run s = (.ok answer, s') ∧
      e.AnswersTo statement read s answer s' := by
  by_cases fires : ∃ first, e.server.FiresAt connection statement e.context.signal s first
  · obtain ⟨first, fires⟩ := fires
    obtain ⟨reason, s', raced, executed, done⟩ := Server.race_send_of_fires clear fires
    rw [sending_run live, Program.run_bind_ok raced]
    exact ⟨_, s', rfl, .interrupted live route clear fires executed done⟩
  · obtain ⟨s', raced, executed⟩ := Server.race_send_of_unfired clear fires
    have replied : e.AnswersTo statement read s
        (((e.server.response connection statement s).reply.bind read).mapError .ofDriver) s' :=
      .replied live route clear fires executed
    rw [sending_run live, Program.run_bind_ok raced]
    cases reply : (e.server.response connection statement s).reply with
    | ok answer =>
      rw [reply] at replied
      exact ⟨_, s', rfl, replied⟩
    | error error =>
      rw [reply] at replied
      exact ⟨_, s', rfl, replied⟩

/-- A statement with a route is answered, whether or not it reaches the server. -/
theorem sending_run_of_route (live : s.timeline.status e.context.signal = none)
    (route : e.route s = some connection) :
    ∃ answer s', (e.sending statement read connection).run s = (.ok answer, s') ∧
      e.AnswersTo statement read s answer s' := by
  by_cases clear : ∀ c, connection = some c → s.unreadOn c = none
  · exact sending_run_of_clear live route clear
  · obtain ⟨c, rfl, left⟩ : ∃ c, connection = some c ∧ s.unreadOn c ≠ none := by
      simpa using clear
    obtain ⟨error, unread⟩ := Option.ne_none_iff_exists'.mp left
    rw [sending_run live, Program.run_bind_ok (Server.race_send_of_unread unread)]
    exact ⟨_, _, rfl, .unread live route unread rfl rfl rfl⟩

theorem query_run_of_done {reason : Cancellation}
    (done : s.timeline.status e.context.signal = some reason) :
    (e.query statement read).run.run s = (.ok (.error (.canceled reason)), s) := by
  cases target : e.target with
  | none =>
    rw [query_of_pool target, sending, Context.guard_run, Context.status, Program.bind_assoc,
      Program.run_bind_ok (Program.run_status s _), done]
    rfl
  | some handle =>
    rw [query_of_handle target, Context.status, Program.run_bind_ok (Program.run_status s _), done]
    rfl

/-- A query is always answered, in one of the five ways. -/
theorem query_run (e : Executor H) (statement : Statement) (read : Answer → Except DriverFailure α)
    (s : State H) : ∃ answer s', (e.query statement read).run.run s = (.ok answer, s') ∧
      e.AnswersTo statement read s answer s' := by
  cases status : s.timeline.status e.context.signal with
  | some reason => exact ⟨_, s, query_run_of_done status, .done status⟩
  | none =>
    cases target : e.target with
    | none =>
      rw [query_of_pool target]
      exact sending_run_of_route status (route_of_pool target s)
    | some handle =>
      rw [query_of_handle target, Context.status, Program.run_bind_ok (Program.run_status s _),
        status, Program.run_bind_ok (Program.run_borrow s _)]
      have route := route_of_handle target s
      cases lease : s.connectionOf handle.lease with
      | none => exact ⟨_, s, rfl, .ended status (by rw [route, lease]; rfl)⟩
      | some c => exact sending_run_of_route status (by rw [route, lease]; rfl)

theorem answersTo_of_run {answer : Except Failure α} {s' : State H}
    (ran : (e.query statement read).run.run s = (.ok answer, s')) :
    e.AnswersTo statement read s answer s' := by
  obtain ⟨answered, s₁, answering, account⟩ := e.query_run statement read s
  rw [ran] at answering
  cases answering
  exact account

/-- What is recorded of a statement is that it was executed on its route, once, if anything is. -/
theorem AnswersTo.recorded {answer : Except Failure α} {s' : State H}
    (account : e.AnswersTo statement read s answer s') : s'.trace = s.trace ∨
      ∃ connection reply, e.route s = some connection ∧
        s'.trace = s.trace ++ [(s.timeline.now, .executed connection statement reply)] := by
  cases account with
  | done status => exact .inl rfl
  | ended live route => exact .inl rfl
  | unread live route left trace host timeline => exact .inl trace
  | replied live route clear unfired executed => exact .inr ⟨_, _, route, executed.trace⟩
  | interrupted live route clear fires executed done => exact .inr ⟨_, _, route, executed.trace⟩

end Query

/-- What running a statement in the transaction of a handle comes to. -/
inductive QueryTo (signal : Signal) (handle : Handle) (statement : Statement)
    (read : Answer → Except DriverFailure α) (s : State H) : Except Failure α → State H → Prop
  /-- The context was done before the reply. -/
  | interrupted {reason : Cancellation} {s' : State H} :
      s.Adds (Event.Sends (· = statement)) s' → s'.timeline.status signal ≠ none →
      QueryTo signal handle statement read s (.error (.canceled reason)) s'
  /-- The transaction was over, or an error left unread was taken for the reply. -/
  | unsent {failure : Failure} {s' : State H} :
      s'.trace = s.trace → QueryTo signal handle statement read s (.error failure) s'
  | replied {c : Connection} {reply : Reply} {s' : State H} :
      s.connectionOf handle.lease = some c →
      s'.trace = s.trace ++ [(s.timeline.now, .executed (some c) statement reply)] →
      QueryTo signal handle statement read s ((reply.bind read).mapError .ofDriver) s'

theorem query_account {e : Executor H} {handle : Handle} (target : e.target = some handle)
    {read : Answer → Except DriverFailure α} {answer : Except Failure α} {s s' : State H}
    (ran : (e.query statement read).run.run s = (.ok answer, s')) :
    QueryTo e.context.signal handle statement read s answer s' := by
  cases answersTo_of_run ran with
  | done status => exact .interrupted (.of_trace_eq rfl) (by simp [status])
  | ended live route => exact .unsent rfl
  | unread live route left trace host timeline => exact .unsent trace
  | replied live route clear unfired executed =>
    rw [route_of_handle target] at route
    obtain ⟨c, lease, rfl⟩ := Option.map_eq_some_iff.mp route
    exact .replied lease executed.trace
  | interrupted live route clear fires executed done =>
    exact .interrupted (.of_append executed.trace rfl) done.status_ne_none

namespace QueryTo

variable {signal : Signal} {handle : Handle} {read : Answer → Except DriverFailure α}
  {answer : Except Failure α} {s s' : State H}

theorem adds (account : QueryTo signal handle statement read s answer s') :
    s.Adds (Event.Sends (· = statement)) s' := by
  cases account with
  | interrupted sends done => exact sends
  | unsent trace => exact .of_trace_eq trace
  | replied lease trace => exact .of_append trace rfl

/-- What was read was the answer to the statement, on the connection of the transaction. -/
theorem of_ok {a : α} (account : QueryTo signal handle statement read s (.ok a) s') :
    ∃ c answer, s.connectionOf handle.lease = some c ∧
      s'.trace = s.trace ++ [(s.timeline.now, .executed (some c) statement (.ok answer))] ∧
      read answer = .ok a := by
  generalize given : (.ok a : Except Failure α) = result at account
  cases account with
  | interrupted sends done => cases given
  | unsent trace => cases given
  | @replied c reply _ lease trace =>
    cases reply with
    | error error => cases given
    | ok answer =>
      refine ⟨c, answer, lease, trace, ?_⟩
      change _ = (read answer).mapError _ at given
      cases hread : read answer with
      | error error =>
        rw [hread] at given
        cases given
      | ok b =>
        rw [hread] at given
        cases given
        rfl

end QueryTo

/-- What is read of the answer to a statement that may have no rows. -/
def readOptional (row : List Datum → Except DriverFailure α) (answer : Answer) :
    Except DriverFailure (Option α) :=
  match answer.rows with
  | [] => .ok none
  | first :: _ => (row first).map some

theorem readOptional_eq_none_iff {row : List Datum → Except DriverFailure α} {answer : Answer} :
    readOptional row answer = .ok none ↔ answer.rows = [] := by
  unfold readOptional
  cases answer.rows with
  | nil => simp
  | cons first rest => cases h : row first <;> simp [h, Except.map]

theorem readOptional_eq_some_iff {row : List Datum → Except DriverFailure α} {answer : Answer}
    {a : α} :
    readOptional row answer = .ok (some a) ↔
      ∃ first rest, answer.rows = first :: rest ∧ row first = .ok a := by
  unfold readOptional
  cases answer.rows with
  | nil => simp
  | cons first rest => cases h : row first <;> simp [h, Except.map]

end Executor

end SessionKeeper
