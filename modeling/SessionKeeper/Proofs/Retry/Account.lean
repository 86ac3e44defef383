import Mathlib.Data.List.Permutation
import SessionKeeper.Program.Lemmas
import SessionKeeper.Retry

/-!
An account of what a retry policy does: which attempts it makes, in order, with the surroundings
before and after each (`RetryPolicy.RunTo`). Every run of a policy has an account
(`runFrom_account`), and what accounts say of the context is what the policy saw of it at the time.
`RetryPolicy.run` is `with_retry`, and a constructor of `RunTo` is one way through its loop: the
attempt is refused by the context, it stops with a panic, succeeds, fails under a context that is
done, fails for good, is the last allowed, or is followed by a pause that is cut short or not.

A pause is never dropped: it ends because its time is over, or because the context is done
(`Context.PausesTo`). It is cut short if the context is done strictly before its end, and takes its
full length if the context is not done by then. If the context is done at the very instant at which
the pause ends, either may be what the policy learns of, and nothing is assumed about which.
-/

namespace SessionKeeper

variable {H : Host} {κ : Type} {V : κ → Type} {α : Type}

/-! ## Waiting for a signal -/

namespace Timeline

theorem fired?_ne_dropped {tl : Timeline} {due : Instant} {signals : List Signal} {place : Nat}
    {wake : Wake} (fired : tl.fired? due signals place = some wake) : wake ≠ .dropped := by
  induction signals generalizing place with
  | nil => cases fired
  | cons signal signals ih =>
    simp only [fired?] at fired
    cases htold : tl.told signal with
    | some reason =>
      rw [htold] at fired
      cases fired
      nofun
    | none =>
      rw [htold] at fired
      exact ih fired

theorem wait_ne_dropped (tl : Timeline) (length : Duration) (signals : List Signal) :
    (tl.wait length signals).1 ≠ .dropped := by
  simp only [wait]
  cases tl.firstFiring? signals with
  | none => simp
  | some time =>
    by_cases le : time ≤ tl.now + length.toNanos
    · simp only [if_pos le]
      cases fired : (tl.advance time).fired? (tl.now + length.toNanos) signals 0 with
      | none => nofun
      | some wake => exact fired?_ne_dropped fired
    · simp [if_neg le]

theorem mem_canceled_advance {tl : Timeline} {time : Instant} {scope : Scope}
    (h : scope ∈ tl.canceled ∨ ∃ due ≤ time, (due, scope) ∈ tl.alarms) :
    scope ∈ (tl.advance time).canceled := by
  simp only [advance, List.mem_append, List.mem_map, List.mem_filter]
  rcases h with h | ⟨due, le, mem⟩
  · exact .inr h
  · exact .inl ⟨(due, scope), ⟨mem, decide_eq_true (Nat.le_trans le (Nat.le_max_right _ _))⟩, rfl⟩

theorem advance_now (tl : Timeline) (time : Instant) :
    tl.advance (tl.advance time).now = tl.advance time := by
  simp [advance]

/-- Of some instants, one is the earliest. -/
theorem foldl_earlier_mem (times : List Instant) (first : Option Instant) {time : Instant}
    (h : times.foldl (fun first time => earlier first (some time)) first = some time) :
    first = some time ∨ time ∈ times := by
  induction times generalizing first with
  | nil => exact .inl h
  | cons t times ih =>
    rcases ih _ h with h | mem
    · cases first with
      | none =>
        cases h
        exact .inr List.mem_cons_self
      | some f =>
        simp only [earlier, Option.some.injEq] at h
        rcases Nat.le_total f t with le | le
        · rw [Nat.min_eq_left le] at h
          exact .inl (congrArg some h)
        · rw [Nat.min_eq_right le] at h
          exact .inr (h ▸ List.mem_cons_self)
    · exact .inr (List.mem_cons_of_mem _ mem)

theorem status_advance_firing {tl : Timeline} {signal : Signal} {time : Instant}
    (h : tl.firing? signal = some time) : (tl.advance time).status signal ≠ none := by
  have deadline : ∀ d, signal.deadline = some d → d ≤ (tl.advance time).now →
      (tl.advance time).DoneFor signal .deadlineExceeded := fun d hd le => ⟨d, hd, le⟩
  have canceled : ∀ scope ∈ signal.scopes, scope ∈ (tl.advance time).canceled →
      (tl.advance time).DoneFor signal .canceled := fun scope mem gone => ⟨scope, mem, gone⟩
  unfold firing? at h
  split at h
  · rename_i done
    cases h
    obtain ⟨reason, hreason⟩ := Option.isSome_iff_exists.mp done
    cases reason with
    | canceled =>
      obtain ⟨scope, mem, gone⟩ := (status_eq_canceled_iff _ _).mp hreason
      exact (canceled scope mem (mem_canceled_advance (.inl gone))).status_ne_none
    | deadlineExceeded =>
      obtain ⟨_, d, hd, le⟩ := (status_eq_deadlineExceeded_iff _ _).mp hreason
      exact (deadline d hd (Nat.le_trans le (Nat.le_max_left _ _))).status_ne_none
  · -- A signal that is live fires at its deadline, or when an alarm of one of its scopes is due.
    rcases foldl_earlier_mem _ _ h with hd | mem
    · exact (deadline time hd (Nat.le_max_right _ _)).status_ne_none
    · simp only [List.mem_map, List.mem_filter] at mem
      obtain ⟨⟨due, scope⟩, ⟨mem, held⟩, rfl⟩ := mem
      exact (canceled scope (by simpa using held)
        (mem_canceled_advance (.inr ⟨due, Nat.le_refl _, mem⟩))).status_ne_none

theorem told_of_firing {tl : Timeline} {signal : Signal} {time : Instant}
    (firing : tl.firing? signal = some time) :
    ∃ reason, (tl.advance time).told signal = some reason :=
  Option.ne_none_iff_exists'.mp (mt told_eq_none_iff.mp (status_advance_firing firing))

theorem firstFiring?_singleton (tl : Timeline) (signal : Signal) :
    tl.firstFiring? [signal] = tl.firing? signal := rfl

variable {tl : Timeline} {length : Duration} {signal : Signal}

/-- Of the signals that are done the first counts. It is tied only if the time is over. -/
theorem fired?_of_told {reason : Cancellation} (told : tl.told signal = some reason)
    (due : Instant) (signals : List Signal) (place : Nat) :
    ∃ tied, tl.fired? due (signal :: signals) place = some (.fired place reason tied) ∧
      (tied = true → tl.now = due) := by
  generalize htied : (tl.now == due && tl.ties.elapsed due signal) = tied
  refine ⟨tied, by simp only [fired?, told, htied], ?_⟩
  rintro rfl
  exact eq_of_beq (Bool.and_eq_true_iff.mp htied).1

/-- A wait that the signal cuts short ends at the first instant at which the signal is done. It is
tied only if that is its last. -/
theorem wait_fired {first : Instant} (firing : tl.firing? signal = some first)
    (le : first ≤ tl.now + length.toNanos) :
    ∃ reason tied, tl.wait length [signal] = (.fired 0 reason tied, tl.advance first) ∧
      (tl.advance first).told signal = some reason ∧
      (tied = true → (tl.advance first).now = tl.now + length.toNanos) := by
  obtain ⟨reason, told⟩ := told_of_firing firing
  obtain ⟨tied, found, last⟩ := fired?_of_told told (tl.now + length.toNanos) [] 0
  exact ⟨reason, tied, by simp only [wait, firstFiring?_singleton, firing, if_pos le, found], told,
    last⟩

/-- A wait that the signal does not cut short takes its full length. -/
theorem wait_elapsed
    (unfired : ¬ ∃ first ≤ tl.now + length.toNanos, tl.firing? signal = some first) :
    tl.wait length [signal] = (.elapsed, tl.advance (tl.now + length.toNanos)) := by
  simp only [wait, firstFiring?_singleton]
  cases firing : tl.firing? signal with
  | none => rfl
  | some first =>
    have late : ¬ first ≤ tl.now + length.toNanos := fun le => unfired ⟨first, le, firing⟩
    simp only [if_neg late]

end Timeline

/-! ## Pauses -/

/-- The surroundings at a later instant, when nothing but time has passed. -/
def State.advanced (s : State H) (time : Instant) : State H :=
  { s with timeline := s.timeline.advance time }

namespace Context

/-- The surroundings after a pause of the given length under `ctx`. -/
def paused (ctx : Context V) (s : State H) (length : Duration) : State H :=
  { s with timeline := (s.timeline.wait (length.atMost Program.longestSleep) [ctx.signal]).2 }

/-- The context is done by the end of a pause of the given length. -/
def FiresWithin (ctx : Context V) (tl : Timeline) (length : Duration) : Prop :=
  ∃ time ≤ tl.now + (length.atMost Program.longestSleep).toNanos, tl.firing? ctx.signal = some time

/-- The context is done before the end of a pause of the given length. -/
def FiresBefore (ctx : Context V) (tl : Timeline) (length : Duration) : Prop :=
  ∃ time, tl.firing? ctx.signal = some time ∧
    max tl.now time < tl.now + (length.atMost Program.longestSleep).toNanos

/-- The context is done at the very instant at which a pause of the given length is over. -/
def FiresAtEnd (ctx : Context V) (tl : Timeline) (length : Duration) : Prop :=
  ctx.FiresWithin tl length ∧ ¬ ctx.FiresBefore tl length

/-- What a pause of the given length comes to: that its time was over, or why the context is done. -/
structure PausesTo (ctx : Context V) (length : Duration) (s : State H)
    (found : Option Cancellation) : Prop where
  ran : (ctx.pause length).run s = (.ok found, ctx.paused s length)
  cut : ctx.FiresBefore s.timeline length → found.isSome
  doneFor : ∀ reason, found = some reason →
    (ctx.paused s length).timeline.DoneFor ctx.signal reason
  full : found = none →
    ctx.paused s length = s.advanced (s.timeline.now + (length.atMost Program.longestSleep).toNanos)
  /-- The context is not forgotten if it was done by the end. -/
  tied : ctx.FiresWithin s.timeline length → (ctx.paused s length).timeline.status ctx.signal ≠ none

theorem exists_pausesTo (ctx : Context V) (length : Duration) (s : State H) :
    ∃ found, ctx.PausesTo length s found := by
  by_cases fires : ctx.FiresWithin s.timeline length
  · obtain ⟨first, le, firing⟩ := fires
    obtain ⟨reason, tied, waiting, told, last⟩ := Timeline.wait_fired firing le
    have after : ctx.paused s length = s.advanced first := by rw [paused, waiting, State.advanced]
    refine ⟨if tied then none else some reason, ?_, ?_, ?_, ?_, ?_⟩
    · rw [pause, paused, Program.run_wait, waiting]
      rfl
    · rintro ⟨time, found, before⟩
      cases firing.symm.trans found
      cases tied with
      | false => rfl
      | true => exact absurd (last rfl) (Nat.ne_of_lt before)
    · intro why hwhy
      rw [after]
      cases tied with
      | true => cases hwhy
      | false =>
        cases hwhy
        exact Timeline.doneFor_of_told told
    · intro hnone
      cases tied with
      | true => rw [after, ← last rfl, State.advanced, State.advanced, Timeline.advance_now]
      | false => cases hnone
    · intro _
      rw [after]
      exact Timeline.status_advance_firing firing
  · have waiting := Timeline.wait_elapsed fires
    refine ⟨none, ?_, ?_, nofun, fun _ => ?_, fun within => absurd within fires⟩
    · rw [pause, paused, Program.run_wait, waiting]
      rfl
    · rintro ⟨time, firing, before⟩
      exact absurd ⟨time, Nat.le_trans (Nat.le_max_right _ _) (Nat.le_of_lt before), firing⟩ fires
    · rw [paused, waiting, State.advanced]

/-- One second under a deadline that passes just as it is over: either may be what the pause learns. -/
example (elapsed : Bool) (host : H.State) :
    (((Context.background : Context V).withDeadline 1000000000).pause (.ofSeconds 1)).run
        { timeline := { ties := { elapsed := fun _ _ => elapsed } }, host } =
      (.ok (if elapsed then none else some .deadlineExceeded),
        { timeline := { now := 1000000000, ties := { elapsed := fun _ _ => elapsed } }, host }) := by
  cases elapsed <;> cbv

theorem pausesTo_of_run {ctx : Context V} {length : Duration} {s s' : State H}
    {found : Option Cancellation} (ran : (ctx.pause length).run s = (.ok found, s')) :
    s' = ctx.paused s length ∧ ctx.PausesTo length s found := by
  obtain ⟨_, account⟩ := ctx.exists_pausesTo length s
  cases ran.symm.trans account.ran
  exact ⟨rfl, account⟩

theorem pause_quiet {ctx : Context V} {length : Duration} {s s' : State H}
    {outcome : Except Stop (Option Cancellation)}
    (ran : (ctx.pause length).run s = (outcome, s')) : State.Quiet s s' := by
  obtain ⟨_, account⟩ := ctx.exists_pausesTo length s
  cases ran.symm.trans account.ran
  exact ⟨rfl, rfl, rfl⟩

end Context

/-! ## Attempts -/

/-- An attempt that was made. -/
structure Made (H : Host) (α : Type) where
  number : Nat
  before : State H
  outcome : Except Stop (Except Failure α)
  after : State H

theorem Made.forall_split {a : Made H α} {P : Made H α → List (Made H α) → Prop} (h : P a []) :
    ∀ earlier m later, [a] = earlier ++ m :: later → P m later := by
  intro earlier m later split
  cases earlier with
  | nil =>
    cases split
    exact h
  | cons first earlier => simp at split

namespace RetryPolicy

variable {policy : RetryPolicy} {ctx : Context V} {retries : Failure → Bool}
  {attempt : Nat → Work H α} {left n : Nat} {s s' : State H}
  {outcome : Except Stop (Except Failure α)}

/-- `m` is attempt `n`, made in the surroundings `s` under a context that is live. -/
structure Makes (ctx : Context V) (attempt : Nat → Work H α) (n : Nat) (s : State H)
    (m : Made H α) : Prop where
  number : m.number = n
  before : m.before = s
  live : s.timeline.status ctx.signal = none
  ran : (attempt n).run.run s = (m.outcome, m.after)

/-- What is logged before the pause after attempt `n`. -/
def retrying (policy : RetryPolicy) (n : Nat) (failure : Failure) : String :=
  s!"attempt {n} conflicted, retrying in {(policy.backoff n).text}: {failure.text}"

/-- What is done under a context: nothing, once it is done. -/
def whileLive (next : Program H (Except Failure α)) :
    Option Cancellation → Program H (Except Failure α)
  | some reason => .done (.error (.canceled reason))
  | none => next

/-- What follows attempt `n`, where `next` are the attempts after it, if there may be any. -/
def followUp (policy : RetryPolicy) (ctx : Context V) (retries : Failure → Bool) (n : Nat)
    (next : Option (Program H (Except Failure α))) :
    Except Failure α → Program H (Except Failure α)
  | .ok value => .done (.ok value)
  | .error failure => ctx.status.bind fun
    | some reason => .done (.error
        (if failure.kind = .canceled then failure else .canceledDuring reason failure))
    | none =>
      if retries failure then
        match next with
        | none =>
          (Program.log .warn s!"giving up after {n} conflicting attempts: {failure.text}").bind
            fun _ => .done (.error failure)
        | some next => (Program.log .debug (policy.retrying n failure)).bind fun _ =>
          (ctx.pause (policy.backoff n)).bind fun
            | some reason => .done (.error (.canceledDuring reason failure))
            | none => next
      else .done (.error failure)

theorem runFrom_zero : (policy.runFrom ctx retries attempt 0 n).run =
    ctx.status.bind (whileLive ((attempt n).run.bind (policy.followUp ctx retries n none))) := by
  conv => lhs; unfold runFrom
  rfl

theorem runFrom_succ : (policy.runFrom ctx retries attempt (left + 1) n).run =
    ctx.status.bind (whileLive ((attempt n).run.bind (policy.followUp ctx retries n
      (some (policy.runFrom ctx retries attempt left (n + 1)).run)))) := by
  conv => lhs; unfold runFrom
  rfl

variable (policy ctx retries attempt) in
/-- What the attempts from number `n` on come to, with `left` to follow it at most. -/
inductive RunTo : Nat → Nat → State H → List (Made H α) → Except Stop (Except Failure α) →
    State H → Prop
  | refused {left n : Nat} {s : State H} {reason : Cancellation} :
      s.timeline.status ctx.signal = some reason →
      RunTo left n s [] (.ok (.error (.canceled reason))) s
  | stopped {left n : Nat} {s : State H} {m : Made H α} {cause : Stop} :
      Makes ctx attempt n s m → m.outcome = .error cause →
      RunTo left n s [m] (.error cause) m.after
  | succeeded {left n : Nat} {s : State H} {m : Made H α} {value : α} :
      Makes ctx attempt n s m → m.outcome = .ok (.ok value) →
      RunTo left n s [m] (.ok (.ok value)) m.after
  | canceled {left n : Nat} {s : State H} {m : Made H α} {failure : Failure}
      {reason : Cancellation} :
      Makes ctx attempt n s m → m.outcome = .ok (.error failure) →
      m.after.timeline.status ctx.signal = some reason →
      RunTo left n s [m] (.ok (.error
        (if failure.kind = .canceled then failure else .canceledDuring reason failure))) m.after
  | final {left n : Nat} {s : State H} {m : Made H α} {failure : Failure} :
      Makes ctx attempt n s m → m.outcome = .ok (.error failure) →
      m.after.timeline.status ctx.signal = none → retries failure = false →
      RunTo left n s [m] (.ok (.error failure)) m.after
  | exhausted {n : Nat} {s : State H} {m : Made H α} {failure : Failure} :
      Makes ctx attempt n s m → m.outcome = .ok (.error failure) →
      m.after.timeline.status ctx.signal = none → retries failure = true →
      RunTo 0 n s [m] (.ok (.error failure)) (m.after.logged .warn
        s!"giving up after {n} conflicting attempts: {failure.text}")
  | cut {left n : Nat} {s s' : State H} {m : Made H α} {failure : Failure}
      {reason : Cancellation} :
      Makes ctx attempt n s m → m.outcome = .ok (.error failure) →
      m.after.timeline.status ctx.signal = none → retries failure = true →
      (ctx.pause (policy.backoff n)).run (m.after.logged .debug (policy.retrying n failure)) =
        (.ok (some reason), s') →
      RunTo (left + 1) n s [m] (.ok (.error (.canceledDuring reason failure))) s'
  | again {left n : Nat} {s s₁ s' : State H} {m : Made H α} {ms : List (Made H α)}
      {failure : Failure} {outcome : Except Stop (Except Failure α)} :
      Makes ctx attempt n s m → m.outcome = .ok (.error failure) →
      m.after.timeline.status ctx.signal = none → retries failure = true →
      (ctx.pause (policy.backoff n)).run (m.after.logged .debug (policy.retrying n failure)) =
        (.ok none, s₁) →
      RunTo left (n + 1) s₁ ms outcome s' →
      RunTo (left + 1) n s (m :: ms) outcome s'

theorem run_bound (policy : RetryPolicy) : 1 + (policy.maxAttempts - 1) = policy.maxAttempts := by
  have := policy.maxAttempts_pos
  omega

/-- Every run of a policy has an account. -/
theorem runFrom_account {left n : Nat} {s : State H}
    (ran : (policy.runFrom ctx retries attempt left n).run.run s = (outcome, s')) :
    ∃ ms, RunTo policy ctx retries attempt left n s ms outcome s' := by
  unfold runFrom at ran
  simp only [ExceptT.run_mk, Program.bind_eq_bind, Context.status, Program.run_bind,
    Program.run_status] at ran
  cases live : s.timeline.status ctx.signal with
  | some reason =>
    rw [live] at ran
    cases ran
    exact ⟨[], .refused live⟩
  | none =>
    simp only [live, Program.run_bind] at ran
    rcases hattempt : (attempt n).run.run s with ⟨result, s₁⟩
    have makes : Makes ctx attempt n s ⟨n, s, result, s₁⟩ := ⟨rfl, rfl, live, hattempt⟩
    rcases result with cause | (failure | value)
    · rw [hattempt] at ran
      cases ran
      exact ⟨_, .stopped makes rfl⟩
    · simp only [hattempt, Program.run_bind, Program.run_status] at ran
      cases status : s₁.timeline.status ctx.signal with
      | some reason =>
        rw [status] at ran
        cases ran
        exact ⟨_, .canceled makes rfl status⟩
      | none =>
        cases again : retries failure with
        | false =>
          simp only [status, again] at ran
          cases ran
          exact ⟨_, .final makes rfl status again⟩
        | true =>
          simp only [status, again, if_true] at ran
          cases left with
          | zero =>
            cases ran
            exact ⟨_, .exhausted makes rfl status again⟩
          | succ left =>
            simp only [Program.run_bind, Program.run_log] at ran
            obtain ⟨found, account⟩ := ctx.exists_pausesTo (policy.backoff n)
              (s₁.logged .debug (policy.retrying n failure))
            have hpause := account.ran
            unfold retrying at hpause
            rw [hpause] at ran
            cases found with
            | some reason =>
              cases ran
              exact ⟨_, .cut makes rfl status again hpause⟩
            | none =>
              obtain ⟨ms, tos⟩ := runFrom_account ran
              exact ⟨_, .again makes rfl status again hpause tos⟩
    · rw [hattempt] at ran
      cases ran
      exact ⟨_, .succeeded makes rfl⟩

/-- What an account says is what a run does. -/
theorem RunTo.run {ms : List (Made H α)}
    (account : RunTo policy ctx retries attempt left n s ms outcome s') :
    (policy.runFrom ctx retries attempt left n).run.run s = (outcome, s') := by
  induction account with
  | refused status =>
    unfold runFrom
    simp [Context.status, Program.run_bind, status]
  | stopped makes houtcome =>
    unfold runFrom
    simp [Context.status, Program.run_bind, makes.live, makes.ran, houtcome]
  | succeeded makes houtcome =>
    unfold runFrom
    simp [Context.status, Program.run_bind, makes.live, makes.ran, houtcome]
  | canceled makes houtcome status =>
    unfold runFrom
    simp [Context.status, Program.run_bind, makes.live, makes.ran, houtcome, status]
  | final makes houtcome status again =>
    unfold runFrom
    simp [Context.status, Program.run_bind, makes.live, makes.ran, houtcome, status, again]
  | exhausted makes houtcome status again =>
    unfold runFrom
    simp [Context.status, Program.run_bind, makes.live, makes.ran, houtcome, status, again]
  | cut makes houtcome status again hpause =>
    unfold retrying at hpause
    unfold runFrom
    simp only [ExceptT.run_mk, Program.bind_eq_bind, Context.status, Program.run_bind,
      Program.run_status, Program.run_log, makes.live, makes.ran, houtcome, status, again, if_true,
      hpause, Program.pure_eq_done, Program.run_done]
  | again makes houtcome status again hpause tos ih =>
    unfold retrying at hpause
    unfold runFrom
    simp only [ExceptT.run_mk, Program.bind_eq_bind, Context.status, Program.run_bind,
      Program.run_status, Program.run_log, makes.live, makes.ran, houtcome, status, again, if_true,
      hpause, ih]

theorem RunTo.makes {ms : List (Made H α)}
    (account : RunTo policy ctx retries attempt left n s ms outcome s') :
    ∀ m ∈ ms, Makes ctx attempt m.number m.before m ∧
      (outcome ≠ .error .dropped → m.outcome ≠ .error .dropped) := by
  have only : ∀ {n s m} {outcome : Except Stop (Except Failure α)}, Makes ctx attempt n s m →
      (outcome ≠ .error .dropped → m.outcome ≠ .error .dropped) →
      ∀ m' ∈ [m], Makes ctx attempt m'.number m'.before m' ∧
        (outcome ≠ .error .dropped → m'.outcome ≠ .error .dropped) := by
    intro n s m outcome makes completed m' mem
    obtain rfl := List.mem_singleton.mp mem
    rw [makes.number, makes.before]
    exact ⟨makes, completed⟩
  induction account with
  | refused status => simp
  | stopped makes houtcome => exact only makes (by simp [houtcome])
  | succeeded makes houtcome => exact only makes (by simp [houtcome])
  | canceled makes houtcome status => exact only makes (by simp [houtcome])
  | final makes houtcome status again => exact only makes (by simp [houtcome])
  | exhausted makes houtcome status again => exact only makes (by simp [houtcome])
  | cut makes houtcome status again hpause => exact only makes (by simp [houtcome])
  | again makes houtcome status again hpause tos ih =>
    intro m mem
    rcases List.mem_cons.mp mem with rfl | mem
    · exact only makes (by simp [houtcome]) m (List.mem_singleton_self m)
    · exact ih m mem

/-- What holds of each attempt of an account, and where nothing happens, holds of the whole run. -/
theorem RunTo.along_made {P : State H → State H → Prop}
    (trans : ∀ {s₁ s₂ s₃}, P s₁ s₂ → P s₂ s₃ → P s₁ s₃)
    (quiet : ∀ {s s'}, State.Quiet s s' → P s s') {ms : List (Made H α)}
    (account : RunTo policy ctx retries attempt left n s ms outcome s')
    (made : ∀ m ∈ ms, P m.before m.after) : P s s' := by
  have here : ∀ {n s m}, Makes ctx attempt n s m → P m.before m.after → P s m.after := by
    intro n s m makes hP
    rwa [makes.before] at hP
  induction account with
  | refused status => exact quiet ⟨rfl, rfl, rfl⟩
  | stopped makes houtcome => exact here makes (made _ (List.mem_singleton_self _))
  | succeeded makes houtcome => exact here makes (made _ (List.mem_singleton_self _))
  | canceled makes houtcome status => exact here makes (made _ (List.mem_singleton_self _))
  | final makes houtcome status again => exact here makes (made _ (List.mem_singleton_self _))
  | exhausted makes houtcome status again =>
    exact trans (here makes (made _ (List.mem_singleton_self _))) (quiet (.logged _ _ _))
  | cut makes houtcome status again hpause =>
    exact trans (here makes (made _ (List.mem_singleton_self _)))
      (trans (quiet (.logged _ _ _)) (quiet (Context.pause_quiet hpause)))
  | again makes houtcome status again hpause tos ih =>
    have rested := trans (here makes (made _ List.mem_cons_self))
      (trans (quiet (.logged _ _ _)) (quiet (Context.pause_quiet hpause)))
    exact trans rested (ih fun m mem => made m (List.mem_cons_of_mem _ mem))

/-- What holds of every attempt, and where nothing happens, holds of the whole run. -/
theorem RunTo.along {P : State H → State H → Prop}
    (trans : ∀ {s₁ s₂ s₃}, P s₁ s₂ → P s₂ s₃ → P s₁ s₃)
    (quiet : ∀ {s s'}, State.Quiet s s' → P s s')
    (made : ∀ {n s m}, Makes ctx attempt n s m → m.outcome ≠ .error .dropped → P s m.after)
    {ms : List (Made H α)} (account : RunTo policy ctx retries attempt left n s ms outcome s')
    (completed : outcome ≠ .error .dropped) : P s s' := by
  refine account.along_made trans quiet fun m mem => ?_
  obtain ⟨makes, completed'⟩ := account.makes m mem
  exact made makes (completed' completed)

/-- What `RunTo.along` carries over the whole run it carries up to each attempt, and from there to
the end. -/
theorem RunTo.around {P : State H → State H → Prop}
    (trans : ∀ {s₁ s₂ s₃}, P s₁ s₂ → P s₂ s₃ → P s₁ s₃)
    (quiet : ∀ {s s'}, State.Quiet s s' → P s s')
    (made : ∀ {n s m}, Makes ctx attempt n s m → m.outcome ≠ .error .dropped → P s m.after)
    {ms : List (Made H α)} (account : RunTo policy ctx retries attempt left n s ms outcome s')
    (completed : outcome ≠ .error .dropped) : ∀ m ∈ ms, P s m.before ∧ P m.after s' := by
  have here : ∀ {n s m}, Makes ctx attempt n s m → P s m.before := by
    intro n s m makes
    rw [makes.before]
    exact quiet ⟨rfl, rfl, rfl⟩
  have only : ∀ {n s m s'}, Makes ctx attempt n s m → P m.after s' →
      ∀ m' ∈ [m], P s m'.before ∧ P m'.after s' := by
    intro n s m s' makes after m' mem
    obtain rfl := List.mem_singleton.mp mem
    exact ⟨here makes, after⟩
  induction account with
  | refused status => simp
  | stopped makes houtcome => exact only makes (quiet ⟨rfl, rfl, rfl⟩)
  | succeeded makes houtcome => exact only makes (quiet ⟨rfl, rfl, rfl⟩)
  | canceled makes houtcome status => exact only makes (quiet ⟨rfl, rfl, rfl⟩)
  | final makes houtcome status again => exact only makes (quiet ⟨rfl, rfl, rfl⟩)
  | exhausted makes houtcome status again => exact only makes (quiet (.logged _ _ _))
  | cut makes houtcome status again hpause =>
    exact only makes (trans (quiet (.logged _ _ _)) (quiet (Context.pause_quiet hpause)))
  | again makes houtcome status again hpause tos ih =>
    have rested := trans (quiet (.logged _ _ _)) (quiet (Context.pause_quiet hpause))
    have attempted := made makes (by simp [houtcome])
    intro m mem
    rcases List.mem_cons.mp mem with rfl | mem
    · -- What follows the first attempt is the pause and the run from there on.
      exact ⟨here makes, trans rested (tos.along trans quiet made completed)⟩
    · obtain ⟨before, after⟩ := ih completed m mem
      exact ⟨trans (trans attempted rested) before, after⟩

theorem RunTo.congr {attempt' : Nat → Work H α} {ms : List (Made H α)}
    (account : RunTo policy ctx retries attempt left n s ms outcome s')
    (same : ∀ m ∈ ms, (attempt' m.number).run.run m.before = (attempt m.number).run.run m.before) :
    RunTo policy ctx retries attempt' left n s ms outcome s' := by
  have remade : ∀ {n s m}, Makes ctx attempt n s m →
      (attempt' m.number).run.run m.before = (attempt m.number).run.run m.before →
      Makes ctx attempt' n s m := by
    intro n s m makes same
    rw [makes.number, makes.before, makes.ran] at same
    exact ⟨makes.number, makes.before, makes.live, same⟩
  induction account with
  | refused status => exact .refused status
  | stopped makes houtcome => exact .stopped (remade makes (same _ List.mem_cons_self)) houtcome
  | succeeded makes houtcome => exact .succeeded (remade makes (same _ List.mem_cons_self)) houtcome
  | canceled makes houtcome status =>
    exact .canceled (remade makes (same _ List.mem_cons_self)) houtcome status
  | final makes houtcome status again =>
    exact .final (remade makes (same _ List.mem_cons_self)) houtcome status again
  | exhausted makes houtcome status again =>
    exact .exhausted (remade makes (same _ List.mem_cons_self)) houtcome status again
  | cut makes houtcome status again hpause =>
    exact .cut (remade makes (same _ List.mem_cons_self)) houtcome status again hpause
  | again makes houtcome status again hpause tos ih =>
    exact .again (remade makes (same _ List.mem_cons_self)) houtcome status again hpause
      (ih fun m mem => same m (List.mem_cons_of_mem _ mem))

/-- What every run of a program hands on reaches from the start of a run of the policy to each of its
attempts. -/
theorem RunTo.until_made {P : State H → State H → Prop} (refl : ∀ s, P s s)
    (trans : ∀ {s₁ s₂ s₃}, P s₁ s₂ → P s₂ s₃ → P s₁ s₃)
    (runs : ∀ {β : Type} {p : Program H β} {s s' : State H} {outcome : Except Stop β},
      p.run s = (outcome, s') → P s s') {ms : List (Made H α)}
    (account : RunTo policy ctx retries attempt left n s ms outcome s') :
    ∀ m ∈ ms, P s m.before := by
  have only : ∀ {n s m}, Makes ctx attempt n s m → ∀ m' ∈ [m], P s m'.before := by
    intro n s m makes m' mem
    obtain rfl := List.mem_singleton.mp mem
    rw [makes.before]
    exact refl s
  induction account with
  | refused status => simp
  | stopped makes houtcome => exact only makes
  | succeeded makes houtcome => exact only makes
  | canceled makes houtcome status => exact only makes
  | final makes houtcome status again => exact only makes
  | exhausted makes houtcome status again => exact only makes
  | cut makes houtcome status again hpause => exact only makes
  | again makes houtcome status again hpause tos ih =>
    intro m mem
    rcases List.mem_cons.mp mem with rfl | mem
    · exact only makes m (List.mem_singleton_self m)
    · -- Between two attempts there is a record in the log, and the pause.
      exact trans (runs makes.ran)
        (trans (runs (Program.run_log _ _ _)) (trans (runs hpause) (ih m mem)))

end RetryPolicy

end SessionKeeper
