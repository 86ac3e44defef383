import SessionKeeper.Startup

/-!
The command line: starts the service under the settings of the environment. No database can be
reached from here, so the start goes as far as the configuration and reports why it ends.
-/

namespace SessionKeeper

/-- A host without a state of its own. -/
@[reducible] def commandHost : Host := ⟨Unit, Empty⟩

/-- A site from which no database is reached. -/
def isolatedSite : Site commandHost where
  server := fun _ => ⟨fun _ _ state => (⟨.error (.io "no route to the server"), .zero, []⟩, state)⟩
  reaches := fun _ _ => false
  portTaken := fun _ => false

/-- The names of all settings. -/
def settingNames : List String :=
  ["DATABASE_URL", "TX_MAX_ATTEMPTS", "TX_BACKOFF_UNIT_MS", "CRDB_RESTART_BACKOFF_MS",
   "DB_MAX_CONNECTIONS", "JWT_SECRET", "DB_BACKEND", "PG_ISOLATION", "CRDB_MAX_RESTARTS",
   "CRDB_FOLLOWER_READS", "PORT"]

/-- The settings of the environment. -/
def environmentSettings : IO Settings := do
  let mut found : List (String × String) := []
  for name in settingNames do
    if let some value ← IO.getEnv name then found := (name, value) :: found
  let pairs := found
  return fun name => (pairs.find? (·.1 == name)).map (·.2)

/-- Starts the service; gives the exit code. -/
def command : IO UInt32 := do
  let settings ← environmentSettings
  let before : State commandHost := { host := () }
  let (result, after) := (Startup.start isolatedSite settings).run before
  let report ← IO.getStderr
  for entry in after.logs do
    report.putStrLn (entry.level.text ++ " " ++ entry.text)
  match result with
  | .ok (.ok _) => return 0
  | .ok (.error fault) =>
    report.putStrLn fault.text
    return 101
  | .error _ => return 101

end SessionKeeper

def main : IO UInt32 := SessionKeeper.command
