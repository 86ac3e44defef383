import SessionKeeper.Failure.Driver

/-!
Failures: every error that crosses the transactional core has a kind, a message and the chain of
causes behind it, outermost first. An error of any sort can stand behind a failure, and as such it
is a `Fault`: its own link, and those of what it reports as its sources. Wrapping a fault puts a
link in front of its chain and keeps the rest, so what happened at the bottom can always be found
again (`serverErrors`, `is`).

`Failure.wrap`, `internal`, `application` and `canceledDuring` are the constructors `with_source`,
`internal`, `application` and `canceled_during` of the core's error, `Failure.canceled` and its
siblings those without a source. A chain holds what can be told of the links by their type, which is
all that the core ever asks of them: a failure's kind and message, a driver error, a server's error,
and the text of anything else.
-/

namespace SessionKeeper

/-- Why a context stopped being live. -/
inductive Cancellation where
  | canceled
  | deadlineExceeded
  deriving DecidableEq, Repr

def Cancellation.text : Cancellation → String
  | .canceled => "context canceled"
  | .deadlineExceeded => "context deadline exceeded"

/-- The category of a failure. -/
inductive Failure.Kind where
  /-- The caller's context was canceled or its deadline passed. -/
  | canceled
  /-- The store reported a deadlock, a serialization failure or a lock timeout. -/
  | conflict
  | notFound
  /-- Returned on purpose by a unit of work. -/
  | application
  /-- Commit or rollback went wrong, or the driver did. -/
  | internal
  /-- A mistake in the program or its configuration. -/
  | misconfigured
  deriving DecidableEq, Repr

namespace Failure.Kind

def text : Failure.Kind → String
  | .canceled => "canceled"
  | .conflict => "conflict"
  | .notFound => "not found"
  | .application => "application"
  | .internal => "internal"
  | .misconfigured => "misconfigured"

/-- The HTTP status that a failure of this kind is answered with. -/
def status : Failure.Kind → Nat
  | .canceled => 503
  | .conflict => 409
  | .notFound => 404
  | .application => 422
  | .internal => 500
  | .misconfigured => 500

/-- Every kind, in the order of severity that reports use. -/
def all : List Failure.Kind :=
  [.canceled, .conflict, .notFound, .application, .internal, .misconfigured]

end Failure.Kind

/-- One link of a chain of causes. -/
inductive Cause where
  /-- A failure of the core: its kind and message. -/
  | failure (kind : Failure.Kind) (message : String)
  /-- An error of the client library. -/
  | driver (error : DriverError)
  /-- A server's error by itself. -/
  | server (error : ServerError)
  /-- Any other error, known by its text. -/
  | foreign (message : String)
  deriving DecidableEq, Repr

namespace Cause

def text : Cause → String
  | .failure kind message => kind.text ++ ": " ++ message
  | .driver error => error.text
  | .server error => error.text
  | .foreign message => message

/-- Whether the link is a failure of the given kind. -/
def isKind (kind : Failure.Kind) : Cause → Bool
  | .failure k _ => k == kind
  | _ => false

/-- The server's error that the client library wrapped, if the link is one. -/
def serverError? : Cause → Option ServerError
  | .driver (.database error) => some error
  | _ => none

def driverError? : Cause → Option DriverError
  | .driver error => some error
  | _ => none

end Cause

/-- An error of any sort: its own link, and those of what it reports as its sources. -/
structure Fault where
  link : Cause
  sources : List Cause
  deriving DecidableEq, Repr

namespace Fault

/-- The links that start at this error, outermost first. -/
def chain (e : Fault) : List Cause := e.link :: e.sources

/-- Whether some failure in the chain is of the given kind. -/
def is (e : Fault) (kind : Failure.Kind) : Bool := e.chain.any (·.isKind kind)

/-- The server's errors anywhere in the chain. -/
def serverErrors (e : Fault) : List ServerError := e.chain.filterMap Cause.serverError?

end Fault

/-- An error of the client library with the causes behind it. -/
structure DriverFailure where
  error : DriverError
  sources : List Cause := []
  deriving DecidableEq, Repr

namespace DriverFailure

/-- What the server reported. -/
def database (error : ServerError) : DriverFailure := ⟨.database error, [.server error]⟩

/-- The connection broke. -/
def io (cause : String) : DriverFailure := ⟨.io cause, [.foreign cause]⟩

/-- A column did not hold what was asked of it. -/
def column (name cause : String) : DriverFailure := ⟨.column name cause, [.foreign cause]⟩

def configuration (cause : Cause) (sources : List Cause) : DriverFailure :=
  ⟨.configuration cause.text, cause :: sources⟩

def decode (cause : Cause) (sources : List Cause) : DriverFailure :=
  ⟨.decode cause.text, cause :: sources⟩

/-- The chain that starts at this error. -/
def chain (e : DriverFailure) : List Cause := .driver e.error :: e.sources

def fault (e : DriverFailure) : Fault := ⟨.driver e.error, e.sources⟩

instance : Coe DriverFailure Fault := ⟨fault⟩

end DriverFailure

/-- A failure: its kind, its message, and the causes behind it, outermost first. -/
structure Failure where
  kind : Failure.Kind
  message : String
  causes : List Cause := []
  deriving DecidableEq, Repr

namespace Failure

/-- The failure itself, then its causes. -/
def chain (f : Failure) : List Cause := .failure f.kind f.message :: f.causes

def text (f : Failure) : String := f.kind.text ++ ": " ++ f.message

/-- Whether the failure, or one that it wraps, is of the given kind. -/
def is (f : Failure) (kind : Kind) : Bool := f.chain.any (·.isKind kind)

/-- The server's errors anywhere in the chain. -/
def serverErrors (f : Failure) : List ServerError := f.chain.filterMap Cause.serverError?

/-- The client library's errors anywhere in the chain. -/
def driverErrors (f : Failure) : List DriverError := f.chain.filterMap Cause.driverError?

def status (f : Failure) : Nat := f.kind.status

def fault (f : Failure) : Fault := ⟨.failure f.kind f.message, f.causes⟩

instance : Coe Failure Fault := ⟨fault⟩

@[simp] theorem chain_fault (f : Failure) : f.fault.chain = f.chain := rfl

@[simp] theorem is_fault (f : Failure) (kind : Kind) : f.fault.is kind = f.is kind := rfl

@[simp] theorem serverErrors_fault (f : Failure) : f.fault.serverErrors = f.serverErrors := rfl

/-! ## Ways to fail -/

def canceled (reason : Cancellation) : Failure := ⟨.canceled, reason.text, []⟩

def conflict (message : String) : Failure := ⟨.conflict, message, []⟩

def notFound (message : String) : Failure := ⟨.notFound, message, []⟩

def misconfigured (message : String) : Failure := ⟨.misconfigured, message, []⟩

/-- A failure with the error that caused it. -/
def wrap (kind : Kind) (message : String) (cause : Fault) : Failure :=
  ⟨kind, message, cause.chain⟩

def internal (message : String) (cause : Fault) : Failure := wrap .internal message cause

/-- The context was done while `cause` was being produced. -/
def canceledDuring (reason : Cancellation) (cause : Fault) : Failure :=
  wrap .canceled reason.text cause

/-- An error of the business logic; the message is that of the error. -/
def application (cause : Cause) (sources : List Cause) : Failure :=
  ⟨.application, cause.text, cause :: sources⟩

/-! ## Chains -/

@[simp] theorem serverErrors_wrap (kind : Kind) (message : String) (cause : Fault) :
    (wrap kind message cause).serverErrors = cause.serverErrors := rfl

/-- Wrapping hides no kind, and adds one. -/
theorem is_wrap (kind other : Kind) (message : String) (cause : Fault) :
    (wrap kind message cause).is other = (kind == other || cause.is other) := rfl

end Failure

end SessionKeeper
