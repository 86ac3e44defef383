import Mathlib.Algebra.Group.Nat.Defs
import SessionKeeper.Proofs.Retry.Account
import SessionKeeper.Transaction.Handle

/-!
The schedule of a retry policy, which is the loop of `with_retry`. Under a context that is live to
the end, attempts are numbered from 1 and follow one another after pauses that grow with their
number, until the first that gives a value, stops, fails for good, or is the last allowed; the run
ends with what that one came to, as it is (`Schedule`).

A pause takes its full backoff unless that is longer than the longest sleep (`pauseAfter`), which is
thirty years of 365 days; `longest_sleep_cuts_backoff` is a backoff that is cut so, and where none
is, the pauses are the backoffs themselves. Instants are exact to the nanosecond. The runtime's
timers work in whole milliseconds, so that with a finer unit of backoff the next attempt starts up to
a millisecond later than it does here.
-/

namespace SessionKeeper

variable {H : Host} {κ : Type} {V : κ → Type} {α : Type}

namespace RetryPolicy

/-- How many nanoseconds the pause after attempt `n` takes. -/
def pauseAfter (policy : RetryPolicy) (n : Nat) : Nat :=
  min (policy.backoff n).toNanos Program.longestSleep.toNanos

/-- The surroundings when attempt `n` has failed in `s` and `length` nanoseconds have passed. -/
def rested (policy : RetryPolicy) (n : Nat) (failure : Failure) (length : Nat) (s : State H) :
    State H :=
  let s := s.logged .debug (policy.retrying n failure)
  { s with timeline := s.timeline.advance (s.timeline.now + length) }

/-- Attempt `n` is the last if it comes to this. -/
def Final (policy : RetryPolicy) (retries : Failure → Bool) (n : Nat) :
    Except Stop (Except Failure α) → Prop
  | .error _ => True
  | .ok (.ok _) => True
  | .ok (.error failure) => retries failure = false ∨ n = policy.maxAttempts

/-- From `s` to `s'` the attempts `ms` were made, numbered from `n`, with a pause of `pause k`
nanoseconds after each attempt `k` but the last, and they came to `outcome`. -/
structure Schedule (policy : RetryPolicy) (retries : Failure → Bool) (attempt : Nat → Work H α)
    (pause : Nat → Nat) (n : Nat) (s : State H) (ms : List (Made H α))
    (outcome : Except Stop (Except Failure α)) (s' : State H) : Prop where
  numbers : ms.map (·.number) = List.range' n ms.length
  ran : ∀ m ∈ ms, (attempt m.number).run.run m.before = (m.outcome, m.after)
  first : ∃ m later, ms = m :: later ∧ m.before = s
  /-- Between two attempts there is the pause and nothing else. -/
  next : ∀ earlier m m' later, ms = earlier ++ m :: m' :: later →
    m'.before.timeline.now = m.after.timeline.now + pause m.number ∧
      ∃ failure, m.outcome = .ok (.error failure) ∧
        m'.before = policy.rested m.number failure (pause m.number) m.after
  /-- The first that may be the last is the last. -/
  final_iff : ∀ earlier m later, ms = earlier ++ m :: later →
    (policy.Final retries m.number m.outcome ↔ later = [])
  /-- After it nothing happens any more, and what it came to is passed on as it is. -/
  last : ∃ earlier m logs, ms = earlier ++ [m] ∧ outcome = m.outcome ∧ s' = m.after.relogged logs

variable {policy : RetryPolicy} {ctx : Context V} {retries : Failure → Bool}
  {attempt : Nat → Work H α} {pause : Nat → Nat} {left n : Nat} {s s' : State H}
  {outcome : Except Stop (Except Failure α)}

theorem now_rested (policy : RetryPolicy) (n : Nat) (failure : Failure) (length : Nat)
    (s : State H) :
    (policy.rested n failure length s).timeline.now = s.timeline.now + length :=
  Nat.max_eq_right (Nat.le_add_right _ _)

/-- A pause that is not cut short lets its time pass, and nothing else happens in it. -/
theorem rested_of_pause {failure : Failure} {s₁ : State H}
    (ran : (ctx.pause (policy.backoff n)).run (s.logged .debug (policy.retrying n failure)) =
      (.ok none, s₁)) :
    s₁ = policy.rested n failure (policy.pauseAfter n) s := by
  obtain ⟨rfl, account⟩ := Context.pausesTo_of_run ran
  rw [account.full rfl, rested, pauseAfter, ← Duration.toNanos_atMost]
  rfl

namespace Schedule

theorem single {m : Made H α} (makes : Makes ctx attempt n s m) (logs : List LogRecord)
    (final : policy.Final retries n m.outcome) :
    Schedule policy retries attempt pause n s [m] m.outcome (m.after.relogged logs) := by
  have only : ∀ earlier a later, [m] = earlier ++ a :: later → a = m ∧ later = [] :=
    Made.forall_split ⟨rfl, rfl⟩
  refine ⟨by simp [makes.number], ?_, ⟨m, [], rfl, makes.before⟩, ?_, ?_, [], m, logs, rfl, rfl, rfl⟩
  · intro a mem
    obtain rfl := List.mem_singleton.mp mem
    rw [makes.number, makes.before]
    exact makes.ran
  · intro earlier a m' later split
    cases (only _ _ _ split).2
  · intro earlier a later split
    obtain ⟨rfl, rfl⟩ := only _ _ _ split
    simpa [makes.number] using final

/-- Only the pauses after attempts that are not the last matter. -/
theorem congr {pause' : Nat → Nat} {ms : List (Made H α)}
    (schedule : Schedule policy retries attempt pause n s ms outcome s')
    (same : ∀ m ∈ ms.dropLast, pause m.number = pause' m.number) :
    Schedule policy retries attempt pause' n s ms outcome s' where
  numbers := schedule.numbers
  ran := schedule.ran
  first := schedule.first
  next := by
    intro earlier m m' later split
    have mem : m ∈ ms.dropLast := by
      rw [split, List.dropLast_append_cons, List.dropLast_cons_cons]
      exact List.mem_append_right _ List.mem_cons_self
    rw [← same m mem]
    exact schedule.next earlier m m' later split
  final_iff := schedule.final_iff
  last := schedule.last

theorem cons {m : Made H α} {ms : List (Made H α)} {failure : Failure}
    (makes : Makes ctx attempt n s m) (houtcome : m.outcome = .ok (.error failure))
    (again : ¬ policy.Final retries n m.outcome)
    (rest : Schedule policy retries attempt pause (n + 1)
      (policy.rested n failure (pause n) m.after) ms outcome s') :
    Schedule policy retries attempt pause n s (m :: ms) outcome s' := by
  obtain ⟨m₁, ms₁, hms, before⟩ := rest.first
  refine ⟨?_, ?_, ⟨m, ms, rfl, makes.before⟩, ?_, ?_, ?_⟩
  · rw [List.map_cons, List.length_cons, List.range'_succ, makes.number, rest.numbers]
  · intro a mem
    rcases List.mem_cons.mp mem with rfl | mem
    · rw [makes.number, makes.before]
      exact makes.ran
    · exact rest.ran a mem
  · intro earlier a a' later split
    cases earlier with
    | nil =>
      -- The pair is this attempt and the first of the rest.
      obtain ⟨rfl, rfl⟩ := List.cons.inj split
      obtain ⟨rfl, -⟩ := List.cons.inj hms
      rw [makes.number]
      refine ⟨?_, failure, houtcome, before⟩
      rw [before, now_rested]
    | cons b earlier =>
      obtain ⟨-, split⟩ := List.cons.inj split
      exact rest.next earlier a a' later split
  · intro earlier a later split
    cases earlier with
    | nil =>
      obtain ⟨rfl, rfl⟩ := List.cons.inj split
      rw [makes.number]
      simp [again, hms]
    | cons b earlier =>
      obtain ⟨-, split⟩ := List.cons.inj split
      exact rest.final_iff earlier a later split
  · obtain ⟨earlier, a, logs, rfl, ended⟩ := rest.last
    exact ⟨m :: earlier, a, logs, rfl, ended⟩

end Schedule

/-- Where the context is live in the end, the attempts of a run were on schedule. -/
theorem RunTo.schedule {ms : List (Made H α)}
    (account : RunTo policy ctx retries attempt left n s ms outcome s')
    (bound : n + left = policy.maxAttempts) (live : s'.timeline.status ctx.signal = none) :
    Schedule policy retries attempt policy.pauseAfter n s ms outcome s' := by
  induction account with
  | refused status =>
    rw [live] at status
    cases status
  | @stopped left n s m cause makes houtcome =>
    rw [← houtcome]
    exact .single makes m.after.logs (by simp [houtcome, Final])
  | @succeeded left n s m value makes houtcome =>
    rw [← houtcome]
    exact .single makes m.after.logs (by simp [houtcome, Final])
  | canceled makes houtcome status =>
    rw [live] at status
    cases status
  | @final left n s m failure makes houtcome status again =>
    rw [← houtcome]
    exact .single makes m.after.logs (by simp [houtcome, Final, again])
  | exhausted makes houtcome status again =>
    rw [← houtcome]
    exact .single makes _ (by simp [houtcome, Final, ← bound])
  | cut makes houtcome status again hpause =>
    -- The context was done when the pause ended, and nothing happened since.
    obtain ⟨rfl, account⟩ := Context.pausesTo_of_run hpause
    exact absurd live (account.doneFor _ rfl).status_ne_none
  | @again left n s s₁ s' m ms failure outcome makes houtcome status again hpause tos ih =>
    obtain rfl := rested_of_pause hpause
    have more : ¬ (retries failure = false ∨ n = policy.maxAttempts) := by
      rintro (never | final)
      · rw [again] at never
        cases never
      · omega
    exact .cons makes houtcome (by rwa [houtcome]) (ih (by omega) live)

theorem RunTo.number_le {ms : List (Made H α)}
    (account : RunTo policy ctx retries attempt left n s ms outcome s') :
    ∀ m ∈ ms, m.number ≤ n + left := by
  have only : ∀ {n left : Nat} {s : State H} {m : Made H α}, Makes ctx attempt n s m →
      ∀ a ∈ [m], a.number ≤ n + left := by
    intro n left s m makes a mem
    rw [List.mem_singleton.mp mem, makes.number]
    exact Nat.le_add_right _ _
  induction account with
  | refused status => simp
  | stopped makes houtcome => exact only makes
  | succeeded makes houtcome => exact only makes
  | canceled makes houtcome status => exact only makes
  | final makes houtcome status again => exact only makes
  | exhausted makes houtcome status again => exact only makes
  | cut makes houtcome status again hpause => exact only makes
  | again makes houtcome status again hpause tos ih =>
    intro a mem
    rcases List.mem_cons.mp mem with rfl | mem
    · exact only makes _ (List.mem_singleton_self _)
    · exact Nat.le_trans (ih a mem) (by omega)

end RetryPolicy

/-- The law of retries. Under a context that is live in the end a policy makes attempts 1, 2, and so
on, up to the first that gives a value, stops, fails with something not worth another attempt, or is
the last that the policy allows. Each starts when the pause after the one before it is over, and
the run ends at once with what the last one came to. No number outgrows the bound of the policy, so
a counter of 32 bits holds them all if it holds the bound. Each pause is the backoff of its attempt
if none of these is longer than the longest sleep. -/
theorem retries_on_schedule (policy : RetryPolicy) (ctx : Context V) (retries : Failure → Bool)
    (attempt : Nat → Work H α) (s s' : State H) (outcome : Except Stop (Except Failure α))
    (ran : (policy.run ctx retries attempt).run.run s = (outcome, s'))
    (live : s'.timeline.status ctx.signal = none) :
    ∃ ms, policy.Schedule retries attempt policy.pauseAfter 1 s ms outcome s' ∧
      (∀ m ∈ ms, m.number ≤ policy.maxAttempts) ∧
      (policy.maxAttempts < 2 ^ 32 → ∀ m ∈ ms, m.number < 2 ^ 32) ∧
      ((∀ m ∈ ms.dropLast,
          (policy.backoff m.number).toNanos ≤ Program.longestSleep.toNanos) →
        policy.Schedule retries attempt (fun n => (policy.backoff n).toNanos) 1 s ms outcome
          s') := by
  obtain ⟨ms, account⟩ := RetryPolicy.runFrom_account ran
  have le : ∀ m ∈ ms, m.number ≤ policy.maxAttempts := fun m mem =>
    Nat.le_trans (account.number_le m mem) (Nat.le_of_eq policy.run_bound)
  have schedule := account.schedule policy.run_bound live
  refine ⟨ms, schedule, le, fun bound m mem => Nat.lt_of_le_of_lt (le m mem) bound, fun short => ?_⟩
  exact schedule.congr fun m mem => Nat.min_eq_left (short m mem)

/-- Two conflicts that take five milliseconds each are followed by pauses of ten and twenty, and the
third attempt gives its value, far below the largest bound of 32 bits. -/
theorem retries_on_schedule_third :
    let policy : RetryPolicy := ⟨4294967295, .ofMillis 10, by decide⟩
    let attempt : Nat → Work ⟨Unit, Unit⟩ Nat := fun n => ExceptT.mk do
      .sleep (.ofMillis 5)
      return if n < 3 then .error (.conflict "deadlock") else .ok n
    ∃ ms s', policy.Schedule (·.is .conflict) attempt (fun n => (policy.backoff n).toNanos) 1
        { host := () } ms (.ok (.ok 3)) s' ∧
      (∀ m ∈ ms, m.number < 2 ^ 32) ∧ s'.timeline.now = 45000000 := by
  intro policy attempt
  let ctx : RequestContext := .background
  have ran : ((policy.run ctx (·.is .conflict) attempt).run.run { host := () }).1 = .ok (.ok 3) := by
    cbv
  have live : ((policy.run ctx (·.is .conflict) attempt).run.run
      { host := () }).2.timeline.status ctx.signal = none := by cbv
  obtain ⟨ms, -, allowed, fits, exact⟩ := retries_on_schedule policy ctx (·.is .conflict) attempt
    { host := () } _ (.ok (.ok 3)) (Prod.ext ran rfl) live
  have short : ∀ m ∈ ms.dropLast,
      (policy.backoff m.number).toNanos ≤ Program.longestSleep.toNanos := by
    intro m mem
    have le : m.number ≤ 4294967295 := allowed m (List.dropLast_subset _ mem)
    have unit : policy.unit.toNanos = 10000000 := by decide
    have longest : Program.longestSleep.toNanos = 946080000000000000 := by decide
    rw [RetryPolicy.backoff, Duration.toNanos_scale, unit, longest]
    omega
  exact ⟨ms, _, exact short, fits (by decide), by cbv⟩

/-- After a backoff of ten thousand million seconds the second attempt would start much later than
it does: the pause ends after the longest sleep. -/
theorem longest_sleep_cuts_backoff :
    let policy : RetryPolicy := ⟨2, .ofMillis 10000000000000, by decide⟩
    let attempt : Nat → Work ⟨Unit, Unit⟩ Unit := fun _ => throw (.conflict "c")
    let ctx : RequestContext := .background
    let ran := (policy.run ctx (·.kind = .conflict) attempt).run.run { host := () }
    ran.2.timeline.status ctx.signal = none ∧
      ¬ ∃ ms, policy.Schedule (·.kind = .conflict) attempt (fun n => (policy.backoff n).toNanos) 1
        { host := () } ms ran.1 ran.2 := by
  intro policy attempt ctx ran
  have cut : ran.2.timeline.now = 946080000000000000 := by
    unfold ran
    cbv
  have long : (policy.backoff 1).toNanos = 10000000000000000000 := by cbv
  refine ⟨by unfold ran; cbv, ?_⟩
  rintro ⟨ms, schedule⟩
  have untimed : ∀ m ∈ ms, m.outcome = .ok (.error (.conflict "c")) ∧ m.after = m.before := by
    intro m mem
    obtain ⟨houtcome, hafter⟩ := Prod.mk.inj (schedule.ran m mem)
    exact ⟨houtcome.symm, hafter.symm⟩
  obtain ⟨m, later, rfl, before⟩ := schedule.first
  obtain ⟨number, numbers⟩ : m.number = 1 ∧ _ := List.cons.inj schedule.numbers
  cases later with
  | nil =>
    -- The first attempt fails with a conflict, so it is followed by another.
    have final := (schedule.final_iff [] m [] rfl).mpr rfl
    rw [(untimed m (by simp)).1, number] at final
    simp [RetryPolicy.Final, Failure.conflict, policy] at final
  | cons m' later =>
    obtain ⟨number', -⟩ : m'.number = 2 ∧ _ := List.cons.inj numbers
    obtain rfl : later = [] := by
      apply (schedule.final_iff [m] m' later rfl).mp
      rw [(untimed m' (by simp)).1, number']
      exact .inr rfl
    obtain ⟨earlier, a, logs, split, -, ended⟩ := schedule.last
    obtain rfl : m' = a := by simpa using congrArg List.getLast? split
    have start := (schedule.next [] m m' [] rfl).1
    rw [number, (untimed m (by simp)).2, before] at start
    have now : ran.2.timeline.now = (policy.backoff 1).toNanos := by
      rw [ended, State.relogged, (untimed m' (by simp)).2, start]
      exact Nat.zero_add _
    rw [cut, long] at now
    cases now

end SessionKeeper
