import SessionKeeper.Config
import SessionKeeper.Http.Routes
import SessionKeeper.Sql.MySql

/-!
Starting the service: read the configuration, connect to the database, listen, and remove expired
refresh tokens for the first time.
-/

namespace SessionKeeper

variable {H : Host}

namespace Config

/-- The database that is configured, behind a server that speaks a protocol. -/
def database (config : Config) (server : Dialect → Server H) : Database H :=
  match config.backend with
  | .postgres => Postgres.database (server .postgres) config.policy config.isolation
  | .cockroach => Cockroach.database (server .postgres) config.cockroach
  | .mysql => MySql.database (server .mysql) config.policy

/-- The service that is configured. -/
def service (config : Config) (server : Dialect → Server H) : Http.Service H :=
  ⟨config.database server, Text.Utf8.encode config.secret, config.backend != .mysql⟩

end Config

/-- Why the service does not start. -/
inductive StartupFault where
  | misconfigured (failure : Failure)
  | unreachable
  | portTaken
  deriving DecidableEq, Repr

/-- A kind as the report of a startup fault spells it. -/
def Failure.Kind.label : Failure.Kind → String
  | .canceled => "Canceled"
  | .conflict => "Conflict"
  | .notFound => "NotFound"
  | .application => "Application"
  | .internal => "Internal"
  | .misconfigured => "Misconfigured"

def StartupFault.text : StartupFault → String
  | .misconfigured failure =>
    let shown := s!"kind: {failure.kind.label}, message: {Text.Quoted.encode failure.message}"
    "Invalid configuration: Error \x7b " ++ shown ++ ", source: None \x7d"
  | .unreachable => "Failed to connect to database"
  | .portTaken => "Failed to bind to 0.0.0.0"

/-- Where the service is started. -/
structure Site (H : Host) where
  server : Dialect → Server H
  /-- Whether a database of a kind is reached under an address. -/
  reaches : BackendKind → String → Bool
  portTaken : Nat → Bool

namespace Startup

/-- Removes expired refresh tokens. -/
def sweep (db : Database H) : Program H Unit := do
  match ← (Session.cleanUp db Context.background).run with
  | .ok _ => pure ()
  | .error failure => .log .error ("[scheduler] refresh token cleanup failed: " ++ failure.text)

/-- Listens for requests. -/
def listen (site : Site H) (port : Nat) : Program H (Except StartupFault Unit) := do
  if site.portTaken port then return .error .portTaken
  else
    .log .info s!"Listening on http://0.0.0.0:{port}"
    return .ok ()

/-- Listens, then sweeps if there are sessions. -/
def serve (site : Site H) (config : Config) : Program H (Except StartupFault (Http.Service H)) := do
  let service := config.service site.server
  -- Nothing is swept unless the port could be bound.
  match ← listen site config.port with
  | .error fault => return .error fault
  | .ok () =>
    if service.sessions then sweep service.database
    return .ok service

/-- Connects to the database that is configured. -/
def connect (site : Site H) (config : Config) : Program H (Except StartupFault Unit) := do
  .log .info s!"Using {config.backend.text} backend"
  if site.reaches config.backend config.databaseUrl then
    if config.backend = .mysql then .log .info "mysql backend serves /health only"
    return .ok ()
  else return .error .unreachable

/-- Starts the service under the given settings. -/
def start (site : Site H) (settings : Settings) :
    Program H (Except StartupFault (Http.Service H)) := do
  match Config.ofSettings settings with
  | .error failure => return .error (.misconfigured failure)
  | .ok config =>
    match ← connect site config with
    | .error fault => return .error fault
    | .ok () => serve site config

end Startup

end SessionKeeper
