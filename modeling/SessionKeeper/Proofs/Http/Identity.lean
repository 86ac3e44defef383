import SessionKeeper.Proofs.Http.BearerToken
import SessionKeeper.Proofs.Http.Refresh
import SessionKeeper.Proofs.Session.UserLookup

/-!
Nothing is asked of the database before the request has shown who sent it. A request that shows no
user is refused, and nothing happens but that it may be logged (`me_refused`). One that shows a user
is answered with what the lookup of that user came to (`me_known`), of which everything is known
that was sent in the course of it (`me_answered`).

`Request.IsFrom` is who sent a request: the user to whom the token that it bears validates at the
time of day of the request.

Correspondence: `Service.me` is `from_request_parts`, which looks at the request alone, and then
`get_me`, which is `Service.identify` (`me_eq`). Assumed is a database that speaks the protocol of
PostgreSQL, as is every one with which the routes of a session can be set up, and surroundings that
are in order; nothing is assumed of what the server replies.
-/

namespace SessionKeeper

variable {H : Host}

theorem Program.run_wallClock (s : State H) :
    (Program.wallClock : Program H Timestamp).run s =
      (.ok (s.epoch.after s.timeline.now), s) := rfl

namespace Http

/-- The request shows that the user has sent it: it bears a token of theirs that is good at that
point of time. -/
def Request.IsFrom (r : Request) (secret : List UInt8) (now : Timestamp) (user : Int) : Prop :=
  ∃ token, r.Bears token ∧ AccessToken.validate token secret now = .ok user

theorem Request.IsFrom.unique {r : Request} {secret : List UInt8} {now : Timestamp}
    {user other : Int} (h : r.IsFrom secret now user) (h' : r.IsFrom secret now other) :
    user = other := by
  obtain ⟨token, bears, valid⟩ := h
  obtain ⟨token', bears', valid'⟩ := h'
  obtain rfl := bears.unique bears'
  exact Except.ok.inj (valid.symm.trans valid')

/-- What a user is told by the outcome of the lookup. -/
def told : Except Failure (Option User) → Response
  | .error failure => ⟨failure.kind.status, none⟩
  | .ok none => ⟨401, none⟩
  | .ok (some user) =>
    ⟨200, some (.ofMembers [("id", .ofInt user.id), ("username", .ofText user.username)])⟩

namespace Service

variable {s : Service H} {r : Request} {st : State H}

theorem answerWith_run (report : Report) (st : State H) :
    ∃ logs, (answerWith report).run st = (.ok ⟨report.status, none⟩, st.relogged logs) :=
  ⟨_, rfl⟩

/-- What is answered once the lookup has come to an end. -/
def afterLookup : Except Failure (Option User) → Program H Response
  | .error failure => answerWith (.ofFailure "Get user by ID error" failure)
  | .ok none => return ⟨401, none⟩
  | .ok (some user) => return ⟨200, some (.ofMembers [
      ("id", .ofInt user.id),
      ("username", .ofText user.username)])⟩

theorem afterLookup_run (answer : Except Failure (Option User)) (st : State H) :
    ∃ logs, (afterLookup answer).run st = (.ok (told answer), st.relogged logs) := by
  cases answer with
  | error failure => exact answerWith_run _ st
  | ok found => cases found <;> exact ⟨st.logs, rfl⟩

/-- What is done for a user that a request has shown. -/
def identify (s : Service H) (user : Int) : Program H Response :=
  requestContext.bind fun ctx =>
    (s.database.store.readOnlyTransaction ctx (Users.finding s.database user)).run.bind afterLookup

theorem me_eq {token : String} (bearer : bearerToken? r = some token) :
    s.me r = Program.wallClock.bind fun now =>
      match AccessToken.validate token s.secret now with
      | .error fault => answerWith (.withStatus "JWT validation failed" fault.message 401)
      | .ok user => s.identify user := by
  unfold me
  rw [bearer]
  rfl

theorem handle_me (sessions : s.sessions = true) (method : r.method = "GET")
    (path : r.path = "/auth/me") : s.handle r = s.me r := by
  have found : s.routes.find? (·.path == r.path) = some .me := by
    rw [routes, sessions, path]
    rfl
  have answers : Route.me.answers r.method = true := by
    rw [method]
    rfl
  exact handle_eq_answer found answers (by rw [method]; decide)

/-- A request that shows no user is refused, and leaves everything as it is. -/
theorem me_refused (unknown : ∀ user, ¬ r.IsFrom s.secret (st.epoch.after st.timeline.now) user) :
    ∃ logs, (s.me r).run st = (.ok ⟨401, none⟩, st.relogged logs) := by
  cases bearer : bearerToken? r with
  | none =>
    unfold me
    rw [bearer]
    exact ⟨st.logs, rfl⟩
  | some token =>
    rw [me_eq bearer, Program.run_bind_ok (Program.run_wallClock st)]
    cases valid : AccessToken.validate token s.secret (st.epoch.after st.timeline.now) with
    | error fault => exact answerWith_run _ st
    | ok user => exact absurd ⟨token, bearerToken?_eq_some_iff.mp bearer, valid⟩ (unknown user)

/-- A request that shows a user is answered with the outcome of their lookup. -/
theorem me_known {user : Int} (known : r.IsFrom s.secret (st.epoch.after st.timeline.now) user)
    {answer : Except Failure (Option User)} {ended : State H}
    (looked : (s.database.store.readOnlyTransaction (requestContextIn st)
      (Users.finding s.database user)).run.run st = (.ok answer, ended)) :
    ∃ logs, (s.me r).run st = (.ok (told answer), ended.relogged logs) := by
  obtain ⟨token, bears, valid⟩ := known
  obtain ⟨logs, answered⟩ := afterLookup_run answer ended
  refine ⟨logs, ?_⟩
  rw [me_eq (bearerToken?_eq_some_iff.mpr bears), Program.run_bind_ok (Program.run_wallClock st),
    valid]
  simp only [identify]
  rw [Program.run_bind_ok (requestContext_run st), Program.run_bind_ok looked, answered]

/-- Whoever asks who they are is told so only if the request shows it. If it shows no user it is
refused: no transaction is begun and no statement sent, and nothing else happens but that it may be
logged. If it shows one, that user is looked up, in transactions that only read, and what was sent
meanwhile is the question for this user, once at most in each run of the unit of work, and whatever
began and ended its transactions. The request is answered with the user in the row of a transaction
that was committed, it is refused if there was no row, and in every other case nothing was committed
and the answer has the status of the failure. -/
theorem me_answered (s : Service H) (r : Request) (st : State H)
    (speaks : s.database.SpeaksPostgres) (sessions : s.sessions = true)
    (method : r.method = "GET") (path : r.path = "/auth/me") (sound : st.Sound) :
    ∃ response st', (s.handle r).run st = (.ok response, st') ∧
      ((∀ user, ¬ r.IsFrom s.secret (st.epoch.after st.timeline.now) user) →
        response = ⟨401, none⟩ ∧ ∃ logs, st' = st.relogged logs) ∧
      ∀ user, r.IsFrom s.secret (st.epoch.after st.timeline.now) user →
        ∃ ms answer added ended logs,
          Users.Lookup s.database (requestContextIn st) user st ended ms answer added ∧
          st' = ended.relogged logs ∧ response = told answer := by
  rw [handle_me sessions method path]
  by_cases known : ∃ user, r.IsFrom s.secret (st.epoch.after st.timeline.now) user
  · obtain ⟨user, known⟩ := known
    have answers : (s.database.store.call .readOnly (requestContextIn st)
        (Users.finding s.database user)).run.Answers :=
      Store.call_attended speaks.lawful speaks.attends (Users.finding_answers s.database user)
    obtain ⟨answer, ended, looked, -⟩ := answers.gives st
    obtain ⟨ms, added, lookup⟩ := Users.lookup_settles speaks sound rfl looked
    obtain ⟨logs, ran⟩ := me_known known looked
    refine ⟨_, _, ran, fun unknown => absurd known (unknown user), fun other known' => ?_⟩
    obtain rfl := known.unique known'
    exact ⟨ms, answer, added, ended, logs, lookup, rfl, rfl⟩
  · have unknown : ∀ user, ¬ r.IsFrom s.secret (st.epoch.after st.timeline.now) user :=
      not_exists.mp known
    obtain ⟨logs, ran⟩ := me_refused unknown
    exact ⟨_, _, ran, fun _ => ⟨rfl, logs, rfl⟩, fun user known => absurd known (unknown user)⟩

/-- The token was made for the user 7, whom the server knows. -/
theorem me_answered_known :
    let server : Server ⟨Unit, Unit⟩ := ⟨fun _ _ host =>
      (⟨.ok ⟨[[.int 7, .text "ann"]], 1⟩, .zero, []⟩, host)⟩
    let s : Service ⟨Unit, Unit⟩ :=
      ⟨Postgres.database server .default none, Text.Utf8.encode "secret", true⟩
    let token := "eyJ0eXAiOiJKV1QiLCJhbGciOiJIUzI1NiJ9.eyJzdWIiOiI3IiwiZXhwIjo2MDAsImlhdCI6MH0" ++
      ".a8Lf1x3y7NVcR1OWCax2zbKAXIKUZ_FsVJJiYwVF_YI"
    let r : Request := {
      method := "GET", target := "/auth/me"
      headers := [("Authorization", Text.Utf8.encode ("Bearer " ++ token))] }
    let st : State ⟨Unit, Unit⟩ := { host := () }
    ∃ response ended ms added logs,
      (s.handle r).run st = (.ok response, ended.relogged logs) ∧ response.status = 200 ∧
      Users.Lookup s.database (requestContextIn st) 7 st ended ms (.ok (some ⟨7, "ann"⟩))
        added := by
  intro server s token r st
  obtain ⟨response, st', ran, -, known⟩ := me_answered s r st (.postgres server .default none) rfl
    rfl (by decide +kernel) (State.sound_of_empty rfl rfl rfl)
  have shown : r.IsFrom s.secret (st.epoch.after st.timeline.now) 7 :=
    ⟨token, bearerToken?_eq_some_iff.mp (by decide +kernel), by decide +kernel⟩
  obtain ⟨ms, answer, added, ended, logs, lookup, rfl, rfl⟩ := known 7 shown
  have gives : (((s.database.store.policy .readOnly).runFrom (requestContextIn st)
      s.database.store.retries (s.database.store.attempt (requestContextIn st) .readOnly
        (Users.finding s.database 7)) 3 1).run.run st).1 = .ok (.ok (some ⟨7, "ann"⟩)) := by
    decide +kernel
  have found : answer = .ok (some ⟨7, "ann"⟩) := by
    have looked := lookup.account.run
    exact Except.ok.inj ((congrArg Prod.fst looked).symm.trans gives)
  subst found
  exact ⟨_, ended, ms, added, logs, ran, rfl, lookup⟩

end Service

end Http

end SessionKeeper
