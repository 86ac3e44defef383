import SessionKeeper.Failure.Basic

/-!
Log records, and the records with which a route reports what it answers with a status.
-/

namespace SessionKeeper

inductive LogLevel where
  | error
  | warn
  | info
  | debug
  deriving DecidableEq, Repr

def LogLevel.text : LogLevel → String
  | .error => "error"
  | .warn => "warn"
  | .info => "info"
  | .debug => "debug"

structure LogRecord where
  level : LogLevel
  text : String
  deriving DecidableEq, Repr

/-- What a route answers with, and what it logs about it. -/
structure Report where
  record : LogRecord
  status : Nat
  deriving DecidableEq, Repr

namespace Report

/-- An error the service answers for itself: status 500. -/
def serverError (context error : String) : Report := ⟨⟨.error, context ++ ": " ++ error⟩, 500⟩

/-- An error with a status of the route's choice. -/
def withStatus (context error : String) (status : Nat) : Report :=
  ⟨⟨.warn, context ++ ": " ++ error⟩, status⟩

/-- A failure with the status of its kind. The service's own failures are logged as errors, the
caller's for debugging. -/
def ofFailure (context : String) (f : Failure) : Report :=
  ⟨⟨if 500 ≤ f.status then .error else .debug, context ++ ": " ++ f.text⟩, f.status⟩

end Report

end SessionKeeper
