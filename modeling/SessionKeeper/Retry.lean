import SessionKeeper.Program.Race

/-!
Bounded repetition of conflicting attempts, with pauses that grow linearly: after attempt `n` the
next one waits `n` times the unit of the policy.

`RetryPolicy.run` starts no attempt once the context is done, returns the last failure as it was,
and never makes more attempts than the policy allows. It is `with_retry`, and `RetryPolicy.runFrom`
is the loop of that: the attempts that are left are counted down, so it ends by recursion on them,
and the number of the attempt is counted up. `RetryPolicy.backoff` is `backoff`, and
`RetryPolicy.make?` is `new`, the only way to a policy of one's own choice.
-/

namespace SessionKeeper

/-- How often an attempt is made, and how patiently. -/
structure RetryPolicy where
  maxAttempts : Nat
  /-- The pause after the first attempt. -/
  unit : Duration
  maxAttempts_pos : 0 < maxAttempts := by decide

namespace RetryPolicy

def make? (maxAttempts : Nat) (unit : Duration) : Except Failure RetryPolicy :=
  if h : 0 < maxAttempts then .ok ⟨maxAttempts, unit, h⟩
  else .error (.misconfigured "retry policy needs at least one attempt")

def default : RetryPolicy := ⟨4, .ofMillis 100, by decide⟩

/-- One attempt, and no other. -/
def single : RetryPolicy := ⟨1, .zero, by decide⟩

/-- The pause after attempt `n`. -/
def backoff (policy : RetryPolicy) (n : Nat) : Duration := policy.unit.scale n

variable {H : Host} {κ : Type} {V : κ → Type} {α : Type}

/-- Attempt `n`, and up to `left` more as long as they fail with something that `retries`. -/
def runFrom (policy : RetryPolicy) (ctx : Context V) (retries : Failure → Bool)
    (attempt : Nat → Work H α) (left n : Nat) : Work H α := ExceptT.mk do
  match ← ctx.status with
  | some reason => return .error (.canceled reason)
  | none =>
    match ← (attempt n).run with
    | .ok a => return .ok a
    | .error failure =>
      match ← ctx.status with
      | some reason =>
        -- A cancellation that the attempt reports itself is passed on as it is.
        return .error (if failure.kind = .canceled then failure else .canceledDuring reason failure)
      | none =>
        if retries failure then
          match left with
          | 0 =>
            Program.log .warn s!"giving up after {n} conflicting attempts: {failure.text}"
            return .error failure
          | left + 1 =>
            let length := policy.backoff n
            Program.log .debug s!"attempt {n} conflicted, retrying in {length.text}: {failure.text}"
            match ← ctx.pause length with
            | some reason => return .error (.canceledDuring reason failure)
            | none => (policy.runFrom ctx retries attempt left (n + 1)).run
        else return .error failure

/-- Makes attempts, numbered from 1, until one succeeds, fails for good, or is the last allowed. -/
def run (policy : RetryPolicy) (ctx : Context V) (retries : Failure → Bool)
    (attempt : Nat → Work H α) : Work H α :=
  policy.runFrom ctx retries attempt (policy.maxAttempts - 1) 1

end RetryPolicy

end SessionKeeper
