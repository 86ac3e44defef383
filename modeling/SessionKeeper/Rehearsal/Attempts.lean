import SessionKeeper.Rehearsal.Units

/-!
Attempts that play parts, under a retry policy.
-/

namespace SessionKeeper.Rehearsal

/-- How one attempt turns out, unless its part fails before. -/
structure AttemptPart (V : Type) where
  outcome : Outcome
  close : Close V

variable {V : Type}

/-- Attempt `n` plays the n-th part, or the last. -/
def attemptPart (parts : List (AttemptPart V)) (idle : V) (n : Nat) : Work (host V) V :=
  ExceptT.mk do
    .note (.attempt n)
    match parts[min (n - 1) (parts.length - 1)]? with
    | none => return .ok idle
    | some part =>
      match ← (play part.outcome).run with
      | .error failure => return .error failure
      | .ok () =>
        match part.close with
        | .value v => return .ok v
        | .failure failure => return .error failure
        | .panic message => .panic message

/-- Plays attempts under a policy, in a context that is opened for them. -/
def retryAttempts (policy : RetryPolicy) (opening : Opening) (retries : Failure → Bool)
    (parts : List (AttemptPart V)) (idle : V) : Work (host V) V := ExceptT.mk do
  let ctx ← opening.context
  (policy.run ctx retries (attemptPart parts idle)).run

end SessionKeeper.Rehearsal
