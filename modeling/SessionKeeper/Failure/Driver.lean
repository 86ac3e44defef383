/-!
What can go wrong between a client and a database server: the errors that a server reports, and
those that the client adds on its own.
-/

namespace SessionKeeper

/-- An error reported by a server. -/
inductive ServerError where
  /-- The PostgreSQL protocol: an SQLSTATE, if there is one, and a message. -/
  | state (code : Option String) (message : String)
  /-- The MySQL protocol: an error number, an SQLSTATE if there is one, and a message. -/
  | numbered (number : Nat) (code : Option String) (message : String)
  deriving DecidableEq, Repr

namespace ServerError

/-- The SQLSTATE. -/
def code : ServerError → Option String
  | .state code _ => code
  | .numbered _ code _ => code

/-- The server's own words. -/
def message : ServerError → String
  | .state _ message => message
  | .numbered _ _ message => message

/-- The error as it is shown. -/
def text : ServerError → String
  | .state _ message => message
  | .numbered number none message => s!"{number}: {message}"
  | .numbered number (some code) message => s!"{number} ({code}): {message}"

end ServerError

/-- An error of the client library. Where such an error stands for another one (`configuration`,
`decode`, `column`, `io`), it carries the text of that error. -/
inductive DriverError where
  | rowNotFound
  | poolTimedOut
  | poolClosed
  | workerCrashed
  | beginFailed
  | protocol (detail : String)
  | columnNotFound (name : String)
  | typeNotFound (name : String)
  | indexOutOfBounds (index len : Nat)
  | configuration (cause : String)
  | decode (cause : String)
  | column (name cause : String)
  | io (cause : String)
  | database (error : ServerError)
  deriving DecidableEq, Repr

def DriverError.text : DriverError → String
  | .rowNotFound => "no rows returned by a query that expected to return at least one row"
  | .poolTimedOut => "pool timed out while waiting for an open connection"
  | .poolClosed => "attempted to acquire a connection on a closed pool"
  | .workerCrashed => "attempted to communicate with a crashed background worker"
  | .beginFailed => "got unexpected connection status after attempting to begin transaction"
  | .protocol detail => "encountered unexpected or invalid data: " ++ detail
  | .columnNotFound name => "no column found for name: " ++ name
  | .typeNotFound name => s!"type named {name} not found"
  | .indexOutOfBounds index len =>
    s!"column index out of bounds: the len is {len}, but the index is {index}"
  | .configuration cause => "error with configuration: " ++ cause
  | .decode cause => "error occurred while decoding: " ++ cause
  | .column name cause => s!"error occurred while decoding column {name}: {cause}"
  | .io cause => "error communicating with database: " ++ cause
  | .database error => "error returned from database: " ++ error.text

end SessionKeeper
