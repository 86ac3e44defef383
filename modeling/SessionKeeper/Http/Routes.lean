import SessionKeeper.Http.Form
import SessionKeeper.Http.MediaType
import SessionKeeper.Http.Message
import SessionKeeper.Log
import SessionKeeper.Session.AccessToken
import SessionKeeper.Session.Service
import SessionKeeper.Text.Blank

/-!
The routes of the service, and what each answers. A route is found by its exact path, then by its
method; a failure behind it is logged and answered with the status of its kind.
-/

namespace SessionKeeper.Http

/-- What answers requests. -/
structure Service (H : Host) where
  database : Database H
  /-- The secret that signs access tokens. -/
  secret : List UInt8
  /-- Whether sessions are served. Their statements are written for PostgreSQL. -/
  sessions : Bool

inductive Route where
  /-- Exchanges a refresh token for an access token and another refresh token. -/
  | refresh
  /-- Ends a session, or all sessions of its user. -/
  | logout
  /-- Tells users who they are. -/
  | me
  /-- Tells whether the database can be reached. -/
  | health
  deriving DecidableEq, Repr

namespace Route

def path : Route → String
  | .refresh => "/auth/refresh"
  | .logout => "/auth/logout"
  | .me => "/auth/me"
  | .health => "/health"

/-- Whether the route answers a method. Whatever can be got can be asked for its head. -/
def answers : Route → String → Bool
  | .refresh, method | .logout, method => method == "POST"
  | .me, method | .health, method => method == "GET" || method == "HEAD"

end Route

/-- How long a request may take. -/
def requestTimeout : Duration := .ofSeconds 10

/-- The context of a request. -/
def requestContext {H : Host} : Program H RequestContext :=
  Context.background.withTimeout requestTimeout

/-- The token in an authorization header, without blanks around it. -/
def bearerToken? (r : Request) : Option String :=
  (r.header? "authorization").bind fun value =>
    let scheme := "Bearer ".toList
    if scheme.isPrefixOf value then
      let token := Text.trimList (value.drop scheme.length)
      if token.isEmpty then none else some (String.ofList token)
    else none

/-- The form in the body of a request, or the status that refuses it. -/
def readForm (fields : List Form.Field) (r : Request) : Except Nat Form :=
  match (r.header? "content-type").bind MediaType.ofText? with
  | some type =>
    if type.isJson then (Form.ofBody fields r.body).mapError (·.status) else .error 415
  | none => .error 415

namespace Service

variable {H : Host}

def routes (s : Service H) : List Route :=
  if s.sessions then [.refresh, .logout, .me, .health] else [.health]

/-- Logs what a route reports, and answers with its status. -/
def answerWith (report : Report) : Program H Response := do
  .log report.record.level report.record.text
  return ⟨report.status, none⟩

def refresh (s : Service H) (form : Form) : Program H Response := do
  let ctx ← requestContext
  match ← (Session.rotate s.database ctx form.refreshToken).run with
  | .error failure =>
    if failure.kind = .notFound then return ⟨401, none⟩
    else answerWith (.ofFailure "Refresh token rotation failed" failure)
  | .ok (user, refreshToken) =>
    let accessToken := AccessToken.issue user s.secret (← .wallClock)
    return ⟨200, some (.ofMembers [
      ("user_id", .ofInt user),
      ("access_token", .ofText accessToken),
      ("refresh_token", .ofText refreshToken)])⟩

/-- Ends the sessions that a form asks for. -/
def revoke (s : Service H) (ctx : RequestContext) (form : Form) : Work H Unit := do
  if form.everywhere then
    let _ ← Session.revokeAllOf s.database ctx form.refreshToken
  else Session.revoke s.database ctx form.refreshToken

/-- Logging out never fails from the client's point of view. -/
def logout (s : Service H) (form : Form) : Program H Response := do
  let ctx ← requestContext
  match ← (s.revoke ctx form).run with
  | .ok () => pure ()
  | .error failure =>
    -- A token that is not known has no session left to end.
    if failure.kind ≠ .notFound then
      .log .warn ("Failed to revoke refresh token during logout: " ++ failure.text)
  return ⟨204, none⟩

/-- The user is asked for only once the request has shown who sent it. -/
def me (s : Service H) (r : Request) : Program H Response := do
  match bearerToken? r with
  | none => return ⟨401, none⟩
  | some token =>
    match AccessToken.validate token s.secret (← .wallClock) with
    | .error fault => answerWith (.withStatus "JWT validation failed" fault.message 401)
    | .ok user =>
      let ctx ← requestContext
      let find : UnitOfWork H (Option User) := fun ctx => Users.find? (s.database.executor ctx) user
      match ← (s.database.store.readOnlyTransaction ctx find).run with
      | .error failure => answerWith (.ofFailure "Get user by ID error" failure)
      | .ok none => return ⟨401, none⟩
      | .ok (some user) => return ⟨200, some (.ofMembers [
          ("id", .ofInt user.id),
          ("username", .ofText user.username)])⟩

/-- Goes to the database and back, in a read-only transaction where there are any. -/
def health (s : Service H) : Program H Response := do
  let ctx ← requestContext
  let store := s.database.store
  let ping : UnitOfWork H Unit := fun ctx => (s.database.executor ctx).ping
  match ← (if store.readOnly then store.readOnlyTransaction ctx ping else ping ctx).run with
  | .error failure => answerWith (.ofFailure "Health check failed" failure)
  | .ok () => return ⟨200, some (.ofMembers [
      ("status", .ofText "ok"),
      ("backend", .ofText store.name),
      ("read_only", .flag store.readOnly)])⟩

/-- What a route answers to a request. -/
def answer (s : Service H) (r : Request) : Route → Program H Response
  | .refresh =>
    match readForm [.refreshToken] r with
    | .error status => return ⟨status, none⟩
    | .ok form => s.refresh form
  | .logout =>
    match readForm [.refreshToken, .everywhere] r with
    | .error status => return ⟨status, none⟩
    | .ok form => s.logout form
  | .me => s.me r
  | .health => s.health

/-- Answers a request. The answer to a request for the head of something has no body. -/
def handle (s : Service H) (r : Request) : Program H Response := do
  match s.routes.find? (·.path == r.path) with
  | none => return ⟨404, none⟩
  | some route =>
    if route.answers r.method then
      let response ← s.answer r route
      return if r.method = "HEAD" then ⟨response.status, none⟩ else response
    else return ⟨405, none⟩

end Service

end SessionKeeper.Http
