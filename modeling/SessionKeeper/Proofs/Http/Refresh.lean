import SessionKeeper.Http.Routes
import SessionKeeper.Proofs.Session.AccessToken
import SessionKeeper.Proofs.Session.Answered
import SessionKeeper.Proofs.Session.Rotation

/-!
What a session is refreshed with, from the request to the answer. A rotation that comes to an end
gives a token just when its transaction was committed (`Session.rotate_settles`), and always comes
to an end, so the route answers every request for another token: with what was committed and an
access token for its user, or with the status of the failure, and then nothing was committed
(`Http.Service.refresh_answered`).

Correspondence: `refresh_session` ↔ `Service.refresh`; what it does after the rotation is
`afterRotation`, and the statuses that it refuses with are those of `refusal`.

Assumed is a request whose body is the form that the route reads, a database that speaks the
protocol of PostgreSQL, and surroundings that are in order. The access token is made after the
commit, at the time of day in the end.
-/

namespace SessionKeeper

variable {H : Host} {N : Type}

theorem event_mem_of_sent {c : Connection} {exchange : Exchange} {trace : Trace N}
    (mem : exchange ∈ sent c trace) : ∃ e ∈ trace, e.2 = exchange.event c := by
  obtain ⟨e, mem, exchanged⟩ := List.mem_filterMap.mp mem
  refine ⟨e, mem, ?_⟩
  cases hevent : e.2 with
  | executed connection statement reply =>
    rw [hevent] at exchanged
    simp only [Event.exchange?, Option.ite_none_right_eq_some, Option.some.injEq] at exchanged
    obtain ⟨rfl, rfl⟩ := exchanged
    rfl
  | _ => simp [hevent, Event.exchange?] at exchanged

namespace Session

variable {db : Database H} {ctx : RequestContext} {old : String} {s s' : State H}
  {answer : Except Failure (Int × String)}

/-- In the surroundings `s'` the old token was exchanged for `token` in a transaction that was
committed, and of what was recorded meanwhile nothing else was committed. -/
structure Renewed (old : String) (user : Int) (token : String) (added : Trace H.Note)
    (s' : State H) (c : Connection) (r : WorkRun H (Int × String)) : Prop where
  committed : CommittedIn c old user token r s'
  only : ∀ e ∈ added, ∀ connection, e.2.Commits connection → connection = some c

/-- A rotation that ends with an answer has committed a transaction just when the answer is a token,
and then it is the token that was stored there. -/
theorem rotate_settles (speaks : db.SpeaksPostgres) (sound : s.Sound)
    (own : ctx.active? db.store.channel = none)
    (ran : (rotate db ctx old).run.run s = (.ok answer, s')) :
    ∃ added, s'.trace = s.trace ++ added ∧
      (∀ failure, answer = .error failure → ∀ e ∈ added, ∀ connection,
        ¬ e.2.Commits connection) ∧
      ∀ user token, answer = .ok (user, token) →
        (∃ e ∈ added, ∃ connection, e.2.Commits connection) ∧
        ∃ c r, Renewed old user token added s' c r := by
  have called : (db.store.call .readWrite ctx (rotation db old)).run.run s = (.ok answer, s') := ran
  obtain ⟨ms, added, account, htrace, commits⟩ := Store.call_commits speaks.lawful speaks.endsBy
    (speaks.sends fun _ _ other => other) (rotation_sends_no_commit db old) (rotation_keeps db old)
    own (by simp) called (by simp) sound (by simp)
  refine ⟨added, htrace, ?_, ?_⟩
  · rintro failure rfl e mem connection hcommits
    obtain ⟨⟨value, gave⟩, -⟩ := commits e mem connection hcommits
    cases gave
  · rintro user token rfl
    obtain ⟨m, c, handle, r, last, obtains, lastOn, committed⟩ :=
      attempts_rotate speaks account sound
    have only : ∀ e ∈ added, ∀ connection, e.2.Commits connection → connection = some c := by
      intro e mem connection hcommits
      obtain ⟨-, m', d, last', obtained, rfl⟩ := commits e mem connection hcommits
      obtain rfl := Option.some.inj (last.symm.trans last')
      rw [obtains.unique obtained]
    refine ⟨?_, c, r, committed, only⟩
    -- The connection of the last attempt is new, so all that was sent on it was sent meanwhile.
    obtain ⟨-, attempts⟩ := Store.attempts_keep speaks.lawful (rotation_keeps db old) account
      (by simp) sound (by simp)
    obtain ⟨before, -⟩ := attempts m (List.mem_of_getLast? last)
    have new : c ∉ s.connections := fun known =>
      obtains.fresh speaks.lawful before.sound (before.known known)
    obtain ⟨earlier, prepared, reply, hsent, -⟩ := committed.sent
    rw [htrace, sent_append, sound.sent_eq_nil new, List.nil_append] at hsent
    have mem : (Server.committing, .ok reply) ∈ sent c added := by simp [hsent]
    obtain ⟨e, mem, commit⟩ := event_mem_of_sent mem
    exact ⟨e, mem, some c, reply, commit⟩

end Session

namespace Http

/-- The status that refuses another token, by the kind of the failure. Whoever presents a token that
is not known is not authorized. -/
def refusal : Failure.Kind → Nat
  | .notFound => 401
  | .canceled => 503
  | .conflict => 409
  | .application => 422
  | .internal | .misconfigured => 500

theorem refusal_of_known {kind : Failure.Kind} (known : kind ≠ .notFound) :
    refusal kind = kind.status := by
  cases kind with
  | notFound => exact absurd rfl known
  | _ => rfl

theorem refusal_ne_ok (kind : Failure.Kind) : refusal kind ≠ 200 := by
  cases kind <;> decide

/-- The context of a request that arrives in the surroundings `st`. -/
def requestContextIn (st : State H) : RequestContext :=
  Context.background.withDeadline (st.timeline.now + requestTimeout.toNanos)

theorem requestContext_run (st : State H) :
    requestContext.run st = (.ok (requestContextIn st), st) := rfl

namespace Service

/-- The response hands out the token `token` of `user`, and an access token for the same user that
was made at the point of time `made`. -/
structure Grants (s : Service H) (response : Response) (user : Int) (token : String)
    (made : Timestamp) : Prop where
  body : response.body = some (.ofMembers [
    ("user_id", .ofInt user),
    ("access_token", .ofText (AccessToken.issue user s.secret made)),
    ("refresh_token", .ofText token)])
  /-- The access token is good until it has expired. -/
  valid : Text.Integer.IsSigned64 user → 0 ≤ (AccessToken.claimsFor user made).expires →
    (AccessToken.claimsFor user made).expires ≤ 9223372036854775807 →
    ∀ now : Timestamp,
      now.seconds - AccessToken.leeway ≤ (AccessToken.claimsFor user made).expires →
      AccessToken.validate (AccessToken.issue user s.secret made) s.secret now = .ok user

/-- The answer to a rotation that gave a token. -/
def granted (s : Service H) (user : Int) (token : String) (made : Timestamp) : Response :=
  ⟨200, some (.ofMembers [
    ("user_id", .ofInt user),
    ("access_token", .ofText (AccessToken.issue user s.secret made)),
    ("refresh_token", .ofText token)])⟩

theorem granted_grants (s : Service H) (user : Int) (token : String) (made : Timestamp) :
    s.Grants (s.granted user token made) user token made := by
  refine ⟨rfl, fun range since ends now unexpired => ?_⟩
  rw [AccessToken.validate_issue s.secret now range since ends]
  exact if_neg (by omega)

/-- What a refresh answers once the rotation has come to an end. -/
def afterRotation (s : Service H) : Except Failure (Int × String) → Program H Response
  | .error failure =>
    if failure.kind = .notFound then return ⟨401, none⟩
    else answerWith (.ofFailure "Refresh token rotation failed" failure)
  | .ok (user, token) => return s.granted user token (← .wallClock)

theorem refresh_eq (s : Service H) (form : Form) :
    s.refresh form = requestContext.bind fun ctx =>
      (Session.rotate s.database ctx form.refreshToken).run.bind s.afterRotation := by
  unfold refresh
  simp only [Program.bind_eq_bind]
  congr 1

variable {s : Service H}

theorem afterRotation_error (s₁ : State H) (failure : Failure) :
    ∃ s', (s.afterRotation (.error failure)).run s₁ = (.ok ⟨refusal failure.kind, none⟩, s') ∧
      s'.trace = s₁.trace := by
  by_cases unknown : failure.kind = .notFound
  · refine ⟨s₁, ?_, rfl⟩
    simp [afterRotation, unknown, refusal]
  · rw [refusal_of_known unknown]
    simp only [afterRotation, if_neg unknown]
    exact ⟨_, rfl, rfl⟩

/-- A request is answered by the route of its path, if that answers its method and not only the head
is asked for. -/
theorem handle_eq_answer {r : Request} {route : Route}
    (found : s.routes.find? (·.path == r.path) = some route)
    (answers : route.answers r.method = true) (whole : r.method ≠ "HEAD") :
    s.handle r = s.answer r route := by
  unfold handle
  simp [found, answers, whole, Program.bind_done]

theorem handle_refresh {r : Request} {form : Form} (sessions : s.sessions = true)
    (method : r.method = "POST") (path : r.path = "/auth/refresh")
    (read : readForm [.refreshToken] r = .ok form) :
    s.handle r = s.refresh form := by
  have found : s.routes.find? (·.path == r.path) = some .refresh := by
    rw [routes, sessions, path]
    rfl
  have answers : Route.refresh.answers r.method = true := by
    rw [method]
    rfl
  rw [handle_eq_answer found answers (by rw [method]; decide), answer, read]

/-- A request for another token is answered with success just when a `COMMIT` has succeeded meanwhile.
The answer then hands out the token that was stored in the transaction that was committed, for the
user that the server gave for the old one, and an access token for the same user. Every other answer
has the status of the failure with which the rotation ended, by its own kind. -/
theorem refresh_answered (s : Service H) (r : Request) (form : Form) (st : State H)
    (speaks : s.database.SpeaksPostgres) (sessions : s.sessions = true)
    (method : r.method = "POST") (path : r.path = "/auth/refresh")
    (read : readForm [.refreshToken] r = .ok form) (sound : st.Sound) :
    ∃ response st' added, (s.handle r).run st = (.ok response, st') ∧
      st'.trace = st.trace ++ added ∧
      (response.status = 200 ↔ ∃ e ∈ added, ∃ connection, e.2.Commits connection) ∧
      (response.status = 200 → ∃ user token c run,
        Session.Renewed form.refreshToken user token added st' c run ∧
        s.Grants response user token (st'.epoch.after st'.timeline.now)) ∧
      (response.status ≠ 200 → ∃ failure ended,
        (Session.rotate s.database (requestContextIn st) form.refreshToken).run.run st =
          (.ok (.error failure), ended) ∧
        response = ⟨refusal failure.kind, none⟩) := by
  have answers : (Session.rotate s.database (requestContextIn st) form.refreshToken).run.Answers :=
    Session.rotate_answers speaks.lawful speaks.attends form.refreshToken
  obtain ⟨answer, s₁, rotated, -⟩ := answers.gives st
  obtain ⟨added, trace, fails, gives⟩ := Session.rotate_settles speaks sound rfl rotated
  have ran : (s.handle r).run st = (s.afterRotation answer).run s₁ := by
    rw [handle_refresh sessions method path read, refresh_eq,
      Program.run_bind_ok (requestContext_run st), Program.run_bind_ok rotated]
  cases answer with
  | error failure =>
    obtain ⟨s', answered, same⟩ := s.afterRotation_error s₁ failure
    refine ⟨_, s', added, ran.trans answered, same.trans trace, ?_, ?_, ?_⟩
    · refine iff_of_false (refusal_ne_ok _) ?_
      rintro ⟨e, mem, connection, commits⟩
      exact fails failure rfl e mem connection commits
    · exact fun ok => absurd ok (refusal_ne_ok _)
    · exact fun _ => ⟨failure, s₁, rotated, rfl⟩
  | ok value =>
    obtain ⟨user, token⟩ := value
    obtain ⟨commit, c, run, renewed⟩ := gives user token rfl
    refine ⟨_, s₁, added, ran, trace, iff_of_true rfl commit, ?_, ?_⟩
    · exact fun _ => ⟨user, token, c, run, renewed, s.granted_grants user token _⟩
    · exact fun refused => absurd rfl refused

/-- The server knows the old token, so the request is answered with another one for its user. -/
theorem refresh_answered_known :
    let server : Server ⟨Unit, Unit⟩ := ⟨fun _ _ host => (⟨.ok ⟨[[.int 7]], 1⟩, .zero, []⟩, host)⟩
    let s : Service ⟨Unit, Unit⟩ :=
      ⟨Postgres.database server .default none, Text.Utf8.encode "secret", true⟩
    let form : Form := { refreshToken := "stale" }
    let r : Request := {
      method := "POST", target := "/auth/refresh"
      headers := [("Content-Type", Text.Utf8.encode "application/json")]
      body := Text.Utf8.encode "\x7b\"refresh_token\":\"stale\"\x7d" }
    let st : State ⟨Unit, Unit⟩ := { host := (), entropy := fun n => [UInt8.ofNat n] }
    ∃ response st' added, (s.handle r).run st = (.ok response, st') ∧ response.status = 200 ∧
      ∃ user token c run, Session.Renewed form.refreshToken user token added st' c run ∧
        s.Grants response user token (st'.epoch.after st'.timeline.now) := by
  intro server s form r st
  obtain ⟨response, st', added, ran, -, -, granted, -⟩ := refresh_answered s r form st
    (.postgres server .default none) rfl rfl (by decide +kernel) (by decide +kernel)
    (State.sound_of_empty rfl rfl rfl)
  have status : ((s.handle r).run st).1.toOption.map (·.status) = some 200 := by decide +kernel
  rw [ran] at status
  have ok : response.status = 200 := Option.some.inj status
  exact ⟨response, st', added, ran, ok, granted ok⟩

end Service

end Http

end SessionKeeper
