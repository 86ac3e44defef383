import SessionKeeper.Proofs.Retry.Cancellation

/-!
When a failed attempt is followed by another. It takes three things: a failure that is worth it, a
context that is live when the attempt ends, and an attempt that the policy still allows. Where one
of the first and the last is missing under a live context the failure is that of the run, as it is;
and a run that ends after a failure ends with that failure or, the context being done, with a
cancellation (`RunTo.settles`).

This is the loop of `with_retry` once more, seen from one attempt: `Settles` lists how things can go
on after it, and what follows is read off the account by cases on its first attempt.
-/

namespace SessionKeeper.RetryPolicy

variable {H : Host} {κ : Type} {V : κ → Type} {α : Type}

/-- What becomes of the attempt `m` that failed with `failure`, after which the attempts `later` were
made, in a run that ends with `outcome` in `s'`. -/
structure Settles (policy : RetryPolicy) (ctx : Context V) (retries : Failure → Bool) (m : Made H α)
    (failure : Failure) (later : List (Made H α)) (outcome : Except Stop (Except Failure α))
    (s' : State H) : Prop where
  again : later ≠ [] → retries failure = true ∧ m.after.timeline.status ctx.signal = none ∧
    m.number < policy.maxAttempts
  final : m.after.timeline.status ctx.signal = none →
    ¬ (retries failure = true ∧ m.number < policy.maxAttempts) →
    later = [] ∧ outcome = .ok (.error failure)
  ended : later = [] → outcome = .ok (.error failure) ∨
    s'.timeline.status ctx.signal ≠ none ∧
      ∃ reported, outcome = .ok (.error reported) ∧ reported.kind = .canceled

variable {policy : RetryPolicy} {ctx : Context V} {retries : Failure → Bool}
  {attempt : Nat → Work H α} {left n : Nat} {s s' : State H}
  {outcome : Except Stop (Except Failure α)}

theorem RunTo.first {m : Made H α} {ms : List (Made H α)}
    (account : RunTo policy ctx retries attempt left n s (m :: ms) outcome s') :
    Makes ctx attempt n s m := by
  cases account <;> assumption

/-- The failed attempts of a run settle it so. -/
theorem RunTo.settles {ms : List (Made H α)}
    (account : RunTo policy ctx retries attempt left n s ms outcome s')
    (bound : n + left = policy.maxAttempts) :
    ∀ earlier m later, ms = earlier ++ m :: later → ∀ failure, m.outcome = .ok (.error failure) →
      Settles policy ctx retries m failure later outcome s' := by
  have last : ∀ {m : Made H α} {own : Failure} {outcome s'}, m.outcome = .ok (.error own) →
      Settles policy ctx retries m own [] outcome s' → ∀ failure,
      m.outcome = .ok (.error failure) → Settles policy ctx retries m failure [] outcome s' := by
    intro m own outcome s' houtcome settles failure hfailure
    rw [houtcome] at hfailure
    cases hfailure
    exact settles
  induction account with
  | refused status => simp
  | stopped makes houtcome => exact Made.forall_split (by simp [houtcome])
  | succeeded makes houtcome => exact Made.forall_split (by simp [houtcome])
  | canceled makes houtcome status =>
    refine Made.forall_split (last houtcome ⟨by simp, by simp [status], fun _ => .inr ⟨?_, ?_⟩⟩)
    · simp [status]
    · obtain ⟨reported, hreported, kind, -⟩ := canceledDuring_heeds _ _
      exact ⟨reported, hreported, kind⟩
  | final makes houtcome status again =>
    exact Made.forall_split
      (last houtcome ⟨by simp, fun _ _ => ⟨rfl, rfl⟩, fun _ => .inl rfl⟩)
  | exhausted makes houtcome status again =>
    exact Made.forall_split
      (last houtcome ⟨by simp, fun _ _ => ⟨rfl, rfl⟩, fun _ => .inl rfl⟩)
  | @cut left n s s' m failure reason makes houtcome status again hpause =>
    have allowed : m.number < policy.maxAttempts := by
      rw [makes.number]
      omega
    refine Made.forall_split (last houtcome ⟨by simp, ?_, fun _ => .inr ⟨?_, _, rfl, rfl⟩⟩)
    · exact fun _ unsettled => absurd ⟨again, allowed⟩ unsettled
    · obtain ⟨rfl, account⟩ := Context.pausesTo_of_run hpause
      exact (account.doneFor _ rfl).status_ne_none
  | @again left n s s₁ s' m ms failure outcome makes houtcome status again hpause tos ih =>
    have allowed : m.number < policy.maxAttempts := by
      rw [makes.number]
      omega
    intro earlier m' later split
    cases earlier with
    | nil =>
      cases split
      intro failure' hfailure
      rw [houtcome] at hfailure
      cases hfailure
      refine ⟨fun _ => ⟨again, status, allowed⟩, ?_, ?_⟩
      · exact fun _ unsettled => absurd ⟨again, allowed⟩ unsettled
      · rintro rfl
        -- No attempt was made after the pause, so the context was done by then.
        cases tos with
        | refused status => exact .inr ⟨by simp [status], _, rfl, rfl⟩
    | cons first earlier =>
      cases split
      exact ih (by omega) earlier m' later rfl

end SessionKeeper.RetryPolicy
