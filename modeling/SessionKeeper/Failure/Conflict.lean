import SessionKeeper.Failure.Basic

/-!
Which failures are conflicts. Each database has its own signature of a conflict worth another
attempt (`ConflictRule`); a wider one, over every supported database, gives a driver error its kind
as it enters the core (`DriverError.kind`).

Correspondence: a conflict classifier ↔ `ConflictRule`, its `is_conflict` ↔ `ConflictRule.holds`,
its `is_retryable` ↔ `ConflictRule.retries`; `is_known_conflict` ↔ `ServerError.isConflict`,
`kind_of` ↔ `DriverError.kind`. `Failure.ofDriver` is the conversion of a driver error into one of
the core.
-/

namespace SessionKeeper

/-- PostgreSQL: serialization failure. -/
def serializationFailure : String := "40001"

/-- PostgreSQL: lock not available. -/
def lockNotAvailable : String := "55P03"

/-- PostgreSQL: deadlock detected. -/
def deadlockDetected : String := "40P01"

/-- MySQL: deadlock. -/
def lockDeadlock : Nat := 1213

/-- MySQL: lock wait timeout. -/
def lockWaitTimeout : Nat := 1205

/-- The signature of a conflict that is worth another attempt. -/
inductive ConflictRule where
  | postgres
  | mysql
  /-- For stores whose own protocol repeats conflicting work. -/
  | never
  deriving DecidableEq, Repr

namespace ConflictRule

/-- Whether a MySQL error number is worth another attempt: a deadlock alone. -/
def retriesNumber (number : Nat) : Bool := number == lockDeadlock

/-- Whether a PostgreSQL error code is worth another attempt. -/
def retriesCode (code : String) : Bool :=
  [serializationFailure, lockNotAvailable, deadlockDetected].contains code

/-- Whether one server error bears the signature. -/
def holds : ConflictRule → ServerError → Bool
  | .postgres, e => e.code.any retriesCode
  | .mysql, .numbered number _ _ => retriesNumber number
  | .mysql, .state _ _ => false
  | .never, _ => false

/-- Whether a failed attempt is worth another: some server error behind the failure bears the
signature, and nothing in the chain was canceled or not found. -/
def retries (rule : ConflictRule) (f : Failure) : Bool :=
  !f.is .canceled && !f.is .notFound && f.serverErrors.any rule.holds

end ConflictRule

/-- Whether a server error is a conflict of any supported database. -/
def ServerError.isConflict : ServerError → Bool
  | .numbered number _ _ => number == lockDeadlock || number == lockWaitTimeout
  | .state code message => ConflictRule.postgres.holds (.state code message)

/-- The kind of failure that a driver error is. -/
def DriverError.kind : DriverError → Failure.Kind
  | .rowNotFound => .notFound
  | .database error => if error.isConflict then .conflict else .internal
  | _ => .internal

/-- The failure that a driver error becomes as it enters the core. -/
def Failure.ofDriver (e : DriverFailure) : Failure := .wrap e.error.kind e.error.text e

theorem Failure.chain_ofDriver (e : DriverFailure) :
    (ofDriver e).chain = .failure e.error.kind e.error.text :: .driver e.error :: e.sources := rfl

end SessionKeeper
