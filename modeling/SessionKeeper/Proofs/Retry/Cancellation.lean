import SessionKeeper.Proofs.Retry.Account
import SessionKeeper.Transaction.Entry

/-!
Cancellation dominates retries. No attempt starts under a context that is done, and a failure is
reported as a cancellation from then on, whatever it was. Only success is not taken back: an attempt
that ends with a value is answered with it, though the context may be done by then.

`RetryPolicy.Heeds` is what the loop of `with_retry` owes to the context at one attempt, and it is
shown for every attempt of every run, by induction on the account of the run. A pause during which
the context is done makes the failure a cancellation as well; where it is done exactly as the pause
ends, the next attempt may be refused instead, which is a cancellation too
(`RunTo.refused_of_done`).

For calls of a store (`rw_tx`, `ro_tx`) it follows that a failure under a context that is done when
the last attempt ends is of the kind `canceled`, and of no other.
-/

namespace SessionKeeper

variable {H : Host} {κ : Type} {V : κ → Type} {α : Type}

namespace RetryPolicy

/-- What becomes of the attempt `m`, after which the attempts `later` were made, in a run that ends
with `outcome` in `s'`. -/
structure Heeds (policy : RetryPolicy) (ctx : Context V) (retries : Failure → Bool) (m : Made H α)
    (later : List (Made H α)) (outcome : Except Stop (Except Failure α)) (s' : State H) : Prop where
  /-- It was started under a live context. -/
  live : m.before.timeline.status ctx.signal = none
  /-- If it failed and the context was done by then, it was the last one, and the run ends with a
  cancellation: its own failure if that is one, or else one with that failure behind it. -/
  interrupted : ∀ failure reason, m.outcome = .ok (.error failure) →
    m.after.timeline.status ctx.signal = some reason → later = [] ∧
      ∃ final, outcome = .ok (.error final) ∧ final.kind = .canceled ∧
        (failure.kind = .canceled → final = failure) ∧
        (failure.kind ≠ .canceled → final.message = reason.text ∧ final.causes = failure.chain)
  /-- If the context was done by the end of the pause after it, it was the last one as well, and the
  run ends with a cancellation. That has the failure behind it, unless the context was done only at
  the very instant at which the pause was over. -/
  paused : ∀ failure, m.outcome = .ok (.error failure) →
    m.after.timeline.status ctx.signal = none → retries failure = true →
    m.number < policy.maxAttempts → ctx.FiresWithin m.after.timeline (policy.backoff m.number) →
    later = [] ∧ ∃ reason, s'.timeline.DoneFor ctx.signal reason ∧
      (outcome = .ok (.error (.canceledDuring reason failure)) ∨
        ctx.FiresAtEnd m.after.timeline (policy.backoff m.number) ∧
          outcome = .ok (.error (.canceled reason)))
  /-- If it succeeded, it was the last one, and the run ends with its value. -/
  succeeded : ∀ value, m.outcome = .ok (.ok value) → later = [] ∧ outcome = .ok (.ok value)
  /-- If it stopped without an answer, it was the last one, and so does the run. -/
  stopped : ∀ cause, m.outcome = .error cause → later = [] ∧ outcome = .error cause

variable {policy : RetryPolicy} {ctx : Context V} {retries : Failure → Bool}
  {attempt : Nat → Work H α} {left n : Nat} {s s' : State H}
  {outcome : Except Stop (Except Failure α)}

theorem canceledDuring_heeds (failure : Failure) (reason : Cancellation) :
    ∃ final, (.ok (.error (if failure.kind = .canceled then failure
        else .canceledDuring reason failure)) : Except Stop (Except Failure α)) =
        .ok (.error final) ∧ final.kind = .canceled ∧
      (failure.kind = .canceled → final = failure) ∧
      (failure.kind ≠ .canceled → final.message = reason.text ∧ final.causes = failure.chain) := by
  refine ⟨_, rfl, ?_⟩
  by_cases h : failure.kind = .canceled
  · simp [h]
  · simp [h, Failure.canceledDuring, Failure.wrap]

theorem RunTo.refused_of_done {ms : List (Made H α)}
    (account : RunTo policy ctx retries attempt left n s ms outcome s')
    (done : s.timeline.status ctx.signal ≠ none) :
    ms = [] ∧ ∃ reason, s'.timeline.status ctx.signal = some reason ∧
      outcome = .ok (.error (.canceled reason)) := by
  cases account with
  | refused status => exact ⟨rfl, _, status, rfl⟩
  | stopped makes _ => exact absurd makes.live done
  | succeeded makes _ => exact absurd makes.live done
  | canceled makes _ _ => exact absurd makes.live done
  | final makes _ _ _ => exact absurd makes.live done
  | exhausted makes _ _ _ => exact absurd makes.live done
  | cut makes _ _ _ _ => exact absurd makes.live done
  | again makes _ _ _ _ _ => exact absurd makes.live done

theorem RunTo.heeds {ms : List (Made H α)}
    (account : RunTo policy ctx retries attempt left n s ms outcome s')
    (bound : n + left = policy.maxAttempts) :
    ∀ earlier m later, ms = earlier ++ m :: later →
      Heeds policy ctx retries m later outcome s' := by
  induction account with
  | refused status => simp
  | stopped makes houtcome =>
    refine Made.forall_split ⟨makes.before ▸ makes.live, ?_, ?_, ?_, ?_⟩ <;> simp [houtcome]
  | succeeded makes houtcome =>
    refine Made.forall_split ⟨makes.before ▸ makes.live, ?_, ?_, ?_, ?_⟩ <;> simp [houtcome]
  | canceled makes houtcome status =>
    refine Made.forall_split ⟨makes.before ▸ makes.live, ?_, ?_, ?_, ?_⟩
    · intro failure reason hfailure hreason
      rw [houtcome] at hfailure
      rw [status] at hreason
      cases hfailure
      cases hreason
      exact ⟨rfl, canceledDuring_heeds _ _⟩
    · simp [status]
    · simp [houtcome]
    · simp [houtcome]
  | final makes houtcome status again =>
    refine Made.forall_split ⟨makes.before ▸ makes.live, ?_, ?_, ?_, ?_⟩
    · simp [status]
    · simp +contextual [houtcome, again]
    · simp [houtcome]
    · simp [houtcome]
  | exhausted makes houtcome status again =>
    refine Made.forall_split ⟨makes.before ▸ makes.live, ?_, ?_, ?_, ?_⟩
    · simp [status]
    · -- There was no pause, as the policy allows no attempt after this one.
      intro failure _ _ _ below
      rw [makes.number] at below
      omega
    · simp [houtcome]
    · simp [houtcome]
  | cut makes houtcome status again hpause =>
    refine Made.forall_split ⟨makes.before ▸ makes.live, ?_, ?_, ?_, ?_⟩
    · simp [status]
    · intro failure hfailure _ _ _ _
      rw [houtcome] at hfailure
      cases hfailure
      obtain ⟨rfl, account⟩ := Context.pausesTo_of_run hpause
      exact ⟨rfl, _, account.doneFor _ rfl, .inl rfl⟩
    · simp [houtcome]
    · simp [houtcome]
  | again makes houtcome status again hpause tos ih =>
    intro earlier m later split
    cases earlier with
    | nil =>
      cases split
      refine ⟨makes.before ▸ makes.live, ?_, ?_, ?_, ?_⟩
      · simp [status]
      · -- The pause was not cut short, so the context was done at its very end.
        intro failure _ _ _ _ fires
        rw [makes.number] at fires ⊢
        obtain ⟨rfl, account⟩ := Context.pausesTo_of_run hpause
        obtain ⟨none_later, reason, status, canceled⟩ := tos.refused_of_done (account.tied fires)
        exact ⟨none_later, reason, Timeline.doneFor_of_status status,
          .inr ⟨⟨fires, fun before => absurd (account.cut before) (by simp)⟩, canceled⟩⟩
      · simp [houtcome]
      · simp [houtcome]
    | cons first earlier =>
      cases split
      exact ih (by omega) earlier m later rfl

/-- An attempt that failed under a live context with what is not worth another one was the last, and
its failure is that of the run. -/
theorem RunTo.final_of_declined {ms : List (Made H α)} {failure : Failure}
    (account : RunTo policy ctx retries attempt left n s ms outcome s')
    (declined : retries failure = false) :
    ∀ earlier m later, ms = earlier ++ m :: later → m.outcome = .ok (.error failure) →
      m.after.timeline.status ctx.signal = none →
      later = [] ∧ outcome = .ok (.error failure) := by
  have only : ∀ {a : Made H α} {outcome : Except Stop (Except Failure α)},
      (a.outcome = .ok (.error failure) → a.after.timeline.status ctx.signal = none →
        outcome = .ok (.error failure)) →
      ∀ earlier m later, [a] = earlier ++ m :: later → m.outcome = .ok (.error failure) →
        m.after.timeline.status ctx.signal = none →
        later = [] ∧ outcome = .ok (.error failure) := by
    intro a outcome h
    exact Made.forall_split fun hm live => ⟨rfl, h hm live⟩
  induction account with
  | refused status => simp
  | stopped makes houtcome => exact only fun hm _ => by simp [houtcome] at hm
  | succeeded makes houtcome => exact only fun hm _ => by simp [houtcome] at hm
  | canceled makes houtcome status => exact only fun _ live => by simp [status] at live
  | final makes houtcome status again => exact only fun hm _ => houtcome.symm.trans hm
  | exhausted makes houtcome status again => exact only fun hm _ => houtcome.symm.trans hm
  | cut makes houtcome status again hpause =>
    refine only fun hm _ => ?_
    rw [houtcome] at hm
    cases hm
    rw [declined] at again
    cases again
  | again makes houtcome status again hpause tos ih =>
    intro earlier m later split hm live
    cases earlier with
    | nil =>
      cases split
      rw [houtcome] at hm
      cases hm
      rw [declined] at again
      cases again
    | cons first earlier =>
      cases split
      exact ih earlier m later rfl hm live

theorem RunTo.canceled_of_nil (account : RunTo policy ctx retries attempt left n s [] outcome s') :
    ∃ reason, outcome = .ok (.error (.canceled reason)) := by
  cases account
  exact ⟨_, rfl⟩

theorem RunTo.last_of_ok {ms : List (Made H α)} {value : α}
    (account : RunTo policy ctx retries attempt left n s ms (.ok (.ok value)) s') :
    ∃ earlier m, ms = earlier ++ [m] ∧ m.outcome = .ok (.ok value) ∧ m.after = s' := by
  generalize houtcome : (.ok (.ok value) : Except Stop (Except Failure α)) = outcome at account
  induction account with
  | succeeded makes hmade =>
    cases houtcome
    exact ⟨[], _, rfl, hmade, rfl⟩
  | again makes hmade status again hpause tos ih =>
    obtain ⟨earlier, m, rfl, hm, after⟩ := ih houtcome
    exact ⟨_ :: earlier, m, rfl, hm, after⟩
  | _ => cases houtcome

end RetryPolicy

/-- A call that joins no transaction is a run of the policy of the store. -/
theorem Store.call_own {store : Store H} {mode : Mode} {ctx : RequestContext}
    {work : UnitOfWork H α} (own : ctx.active? store.channel = none)
    (supported : mode = .readOnly → store.readOnly = true) :
    (store.call mode ctx work).run =
      ((store.policy mode).run ctx store.retries (store.attempt ctx mode work)).run := by
  have transact : (store.transact ctx mode work).run =
      ((store.policy mode).run ctx store.retries (store.attempt ctx mode work)).run := by
    simp only [transact, own, ExceptT.run_mk]
  cases mode with
  | readWrite => exact transact
  | readOnly =>
    unfold call readOnlyTransaction
    simp only [supported rfl, if_true]
    exact transact

/-- What a call that joins no transaction fails with is a cancellation if the context is done when
its last attempt ends. -/
theorem Store.call_canceled {store : Store H} {mode : Mode} {ctx : RequestContext}
    {work : UnitOfWork H α} {s s' : State H} {failure : Failure}
    (own : ctx.active? store.channel = none) (supported : mode = .readOnly → store.readOnly = true)
    (ran : (store.call mode ctx work).run.run s = (.ok (.error failure), s')) :
    ∃ ms, (store.policy mode).RunTo ctx store.retries (store.attempt ctx mode work)
        ((store.policy mode).maxAttempts - 1) 1 s ms (.ok (.error failure)) s' ∧
      ((∀ m, ms.getLast? = some m → m.after.timeline.status ctx.signal ≠ none) →
        failure.kind = .canceled) := by
  rw [call_own own supported] at ran
  obtain ⟨ms, account⟩ := RetryPolicy.runFrom_account ran
  refine ⟨ms, account, ?_⟩
  intro done
  rcases ms.eq_nil_or_concat with rfl | ⟨earlier, m, split⟩
  · obtain ⟨reason, hreason⟩ := account.canceled_of_nil
    cases hreason
    rfl
  · rw [List.concat_eq_append] at split
    subst split
    have heeds := account.heeds (RetryPolicy.run_bound _) earlier m [] rfl
    obtain ⟨reason, hreason⟩ := Option.ne_none_iff_exists'.mp (done m List.getLast?_concat)
    rcases houtcome : m.outcome with cause | (cause | value)
    · cases (heeds.stopped cause houtcome).2
    · obtain ⟨-, final, hfinal, kind, -⟩ := heeds.interrupted cause reason houtcome hreason
      cases hfinal
      exact kind
    · cases (heeds.succeeded value houtcome).2

/-- Cancellation dominates retries. Every run of a policy is made of attempts that heed the context:
none starts once it is done, the first that fails under a context that is done by then, or that is
followed by a pause in which the context is done, is the last and the run ends with a cancellation,
and one that succeeds is answered with its value in any case. So a call that joins no transaction
fails with a cancellation, and with no conflict or internal failure, if the context is done when its
last attempt ends. -/
theorem cancellation_dominates :
    (∀ (policy : RetryPolicy) (ctx : Context V) (retries : Failure → Bool)
      (attempt : Nat → Work H α) (s s' : State H) (outcome : Except Stop (Except Failure α)),
      (policy.run ctx retries attempt).run.run s = (outcome, s') →
      ∃ ms, policy.RunTo ctx retries attempt (policy.maxAttempts - 1) 1 s ms outcome s' ∧
        ∀ earlier m later, ms = earlier ++ m :: later →
          policy.Heeds ctx retries m later outcome s') ∧
    ∀ (store : Store H) (mode : Mode) (ctx : RequestContext) (work : UnitOfWork H α)
      (s s' : State H) (failure : Failure),
      ctx.active? store.channel = none → (mode = .readOnly → store.readOnly = true) →
      (store.call mode ctx work).run.run s = (.ok (.error failure), s') →
      ∃ ms, (store.policy mode).RunTo ctx store.retries (store.attempt ctx mode work)
          ((store.policy mode).maxAttempts - 1) 1 s ms (.ok (.error failure)) s' ∧
        ((∀ m, ms.getLast? = some m → m.after.timeline.status ctx.signal ≠ none) →
          failure.kind = .canceled ∧ failure.kind ≠ .conflict ∧ failure.kind ≠ .internal) := by
  constructor
  · intro policy ctx retries attempt s s' outcome ran
    obtain ⟨ms, account⟩ := RetryPolicy.runFrom_account ran
    exact ⟨ms, account, account.heeds policy.run_bound⟩
  · intro store mode ctx work s s' failure own supported ran
    obtain ⟨ms, account, canceled⟩ := Store.call_canceled own supported ran
    refine ⟨ms, account, ?_⟩
    intro done
    have kind := canceled done
    exact ⟨kind, by simp [kind], by simp [kind]⟩

/-- A deadlock under a context that is canceled meanwhile is not tried again, though a policy of
four attempts retries conflicts, and the failure is the cancellation with the deadlock behind it. -/
theorem cancellation_dominates_deadlock :
    let ctx : RequestContext := Context.background.within ⟨0⟩
    let attempt : Nat → Work ⟨Unit, Unit⟩ Unit := fun _ => ExceptT.mk do
      .cancel ⟨0⟩
      return .error (.conflict "deadlock")
    let outcome : Except Stop (Except Failure Unit) :=
      .ok (.error (.canceledDuring .canceled (Failure.conflict "deadlock")))
    ∃ ms s',
      RetryPolicy.default.RunTo ctx (·.is .conflict) attempt 3 1 { host := () } ms outcome s' ∧
      ∀ earlier m later, ms = earlier ++ m :: later →
        RetryPolicy.default.Heeds ctx (·.is .conflict) m later outcome s' := by
  intro ctx attempt outcome
  have ran : ((RetryPolicy.default.run ctx (·.is .conflict) attempt).run.run { host := () }).1 =
      outcome := by cbv
  obtain ⟨ms, account, heeds⟩ := (cancellation_dominates (H := ⟨Unit, Unit⟩) (V := Slot.Value)
    (α := Unit)).1 .default ctx (·.is .conflict) attempt { host := () } _ outcome (Prod.ext ran rfl)
  exact ⟨ms, _, account, heeds⟩

end SessionKeeper
