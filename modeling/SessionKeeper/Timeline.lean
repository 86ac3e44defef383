import SessionKeeper.Duration
import SessionKeeper.Failure.Basic

/-!
Time and cancellation. A timeline holds the present instant, the scopes canceled so far and the
alarms that will cancel more of them. A signal is what a context listens to: a few scopes and
perhaps a deadline. `status` says whether a signal is done now, as `err` of a context does, and
`firing?` at which instant it will be.

`wait` lets time pass until a length of time is over or one of some signals is done, whichever comes
first. Several things may come at the same instant, and then it depends on the waiter what it learns
of. A race against a program prefers the signal, and so does `wait`. A waiter that prefers neither
its signal nor the end of its time, such as the pauses between attempts and between runs, learns of
one of them by chance; and so does `done` of a context where a scope is canceled and the deadline
passes at once. Such a choice is not in the program, so it is an assumption of the timeline: `Ties`
says of every instant and signal how it turns out, and what is proved here holds however that is.

Instants are whole nanoseconds, and a wait takes its length exactly. The timers of the runtime work
in whole milliseconds, and one that was set between two of them goes off at the later. So a wait of
whole milliseconds that starts on one is as long here as it is there, and that is all that the
configuration can ask for; with a finer unit the waits here end up to a millisecond earlier.
-/

namespace SessionKeeper

/-- Nanoseconds on a clock that never goes back. -/
abbrev Instant := Nat

/-- What can be canceled as one. -/
structure Scope where
  id : Nat
  deriving DecidableEq, Repr

/-- What ends a context: the cancellation of one of its scopes, or its deadline. -/
structure Signal where
  scopes : List Scope := []
  deadline : Option Instant := none
  deriving DecidableEq, Repr

/-- How a wait ended. -/
inductive Wake where
  /-- The time was over. -/
  | elapsed
  /-- The signal at this place of the list was done. It is `tied` if the time was over at the same
  instant, and that is what a waiter learns of that prefers neither. -/
  | fired (place : Nat) (reason : Cancellation) (tied : Bool)
  /-- Nobody waits any longer for what the waiter would have gone on with. -/
  | dropped
  deriving DecidableEq, Repr

/-- How chance decides between two things that happen at the same instant. -/
structure Ties where
  /-- Whether whoever waits for the signal is told of its deadline, though it was canceled too. -/
  deadline : Instant → Signal → Bool := fun _ _ => false
  /-- Whether whoever pauses is told that the time is over, though the signal is done too. -/
  elapsed : Instant → Signal → Bool := fun _ _ => false

structure Timeline where
  now : Instant := 0
  /-- How many scopes were opened so far; they are numbered from 0. -/
  opened : Nat := 0
  canceled : List Scope := []
  /-- Cancellations still to come. -/
  alarms : List (Instant × Scope) := []
  ties : Ties := {}

namespace Timeline

/-- A scope of its own. -/
def openScope (tl : Timeline) : Scope × Timeline :=
  (⟨tl.opened⟩, { tl with opened := tl.opened + 1 })

def cancel (tl : Timeline) (scope : Scope) : Timeline :=
  { tl with canceled := scope :: tl.canceled }

/-- Cancels `scope` once `time` has come. -/
def cancelAt (tl : Timeline) (scope : Scope) (time : Instant) : Timeline :=
  { tl with alarms := tl.alarms ++ [(time, scope)] }

/-- Whether the signal is done, and why. Cancellation is seen before the deadline. -/
def status (tl : Timeline) (signal : Signal) : Option Cancellation :=
  if signal.scopes.any (tl.canceled.contains ·) then some .canceled
  else if signal.deadline.any (· ≤ tl.now) then some .deadlineExceeded
  else none

theorem status_eq_canceled_iff (tl : Timeline) (signal : Signal) :
    tl.status signal = some .canceled ↔ ∃ scope ∈ signal.scopes, scope ∈ tl.canceled := by
  simp only [status]
  split
  · rename_i h
    simpa using h
  · rename_i h
    have none_canceled : ¬ ∃ scope ∈ signal.scopes, scope ∈ tl.canceled := by simpa using h
    split <;> simp [none_canceled]

theorem status_eq_deadlineExceeded_iff (tl : Timeline) (signal : Signal) :
    tl.status signal = some .deadlineExceeded ↔
      (∀ scope ∈ signal.scopes, scope ∉ tl.canceled) ∧ ∃ time ∈ signal.deadline, time ≤ tl.now := by
  simp only [status]
  split
  · rename_i h
    have some_canceled : ∃ scope ∈ signal.scopes, scope ∈ tl.canceled := by simpa using h
    simp only [Option.some.injEq, reduceCtorEq, false_iff]
    intro ⟨none_canceled, _⟩
    obtain ⟨scope, mem, canceled⟩ := some_canceled
    exact none_canceled scope mem canceled
  · rename_i h
    have none_canceled : ∀ scope ∈ signal.scopes, scope ∉ tl.canceled := by simpa using h
    cases hd : signal.deadline with
    | none => simp
    | some time =>
      by_cases le : time ≤ tl.now
      · simpa [le] using none_canceled
      · simp [le]

/-- The signal is done for this reason, though there may be the other as well. -/
def DoneFor (tl : Timeline) (signal : Signal) : Cancellation → Prop
  | .canceled => ∃ scope ∈ signal.scopes, scope ∈ tl.canceled
  | .deadlineExceeded => ∃ time ∈ signal.deadline, time ≤ tl.now

theorem doneFor_of_status {tl : Timeline} {signal : Signal} {reason : Cancellation}
    (done : tl.status signal = some reason) : tl.DoneFor signal reason := by
  cases reason with
  | canceled => exact (status_eq_canceled_iff _ _).mp done
  | deadlineExceeded => exact ((status_eq_deadlineExceeded_iff _ _).mp done).2

theorem DoneFor.status_ne_none {tl : Timeline} {signal : Signal} {reason : Cancellation}
    (done : tl.DoneFor signal reason) : tl.status signal ≠ none := by
  cases reason with
  | canceled => simp [(status_eq_canceled_iff _ _).mpr done]
  | deadlineExceeded =>
    obtain ⟨time, hd, le⟩ := done
    simp only [status]
    split
    · simp
    · simp [Option.mem_def.mp hd, le]

/-- The timeline at a later instant: every alarm that has come by then has gone off. -/
def advance (tl : Timeline) (time : Instant) : Timeline :=
  -- Time does not go back, whatever instant is asked for.
  let now := max tl.now time
  let due := tl.alarms.filter (·.1 ≤ now)
  { tl with
    now
    canceled := due.map (·.2) ++ tl.canceled
    alarms := tl.alarms.filter (now < ·.1) }

/-- The earlier of two instants, where there may be none. -/
def earlier : Option Instant → Option Instant → Option Instant
  | some a, some b => some (min a b)
  | some a, none => some a
  | none, b => b

/-- The first instant, from now on, at which the signal is done. -/
def firing? (tl : Timeline) (signal : Signal) : Option Instant :=
  if (tl.status signal).isSome then some tl.now
  else
    let alarms := tl.alarms.filter fun alarm => signal.scopes.contains alarm.2
    (alarms.map (·.1)).foldl (fun first time => earlier first (some time)) signal.deadline

/-- The first instant at which one of the signals is done. -/
def firstFiring? (tl : Timeline) (signals : List Signal) : Option Instant :=
  signals.foldl (fun first signal => earlier first (tl.firing? signal)) none

/-- The reason that is told to whoever waits for the signal. Of a cancellation and a deadline it may
be either. -/
def told (tl : Timeline) (signal : Signal) : Option Cancellation :=
  if signal.deadline.any (· ≤ tl.now) && tl.ties.deadline tl.now signal then
    some .deadlineExceeded
  else tl.status signal

theorem doneFor_of_told {tl : Timeline} {signal : Signal} {reason : Cancellation}
    (told : tl.told signal = some reason) : tl.DoneFor signal reason := by
  simp only [Timeline.told] at told
  split at told
  · rename_i passed
    cases told
    simp only [Bool.and_eq_true, Option.any_eq_true, decide_eq_true_eq] at passed
    exact passed.1
  · exact doneFor_of_status told

theorem told_eq_none_iff {tl : Timeline} {signal : Signal} :
    tl.told signal = none ↔ tl.status signal = none := by
  constructor
  · intro untold
    simp only [told] at untold
    split at untold
    · cases untold
    · exact untold
  · intro live
    cases htold : tl.told signal with
    | none => rfl
    | some reason => exact absurd live (doneFor_of_told htold).status_ne_none

/-- What is told of the first of the signals that is done now, if the time is over at `due`. -/
def fired? (tl : Timeline) (due : Instant) : List Signal → Nat → Option Wake
  | [], _ => none
  | signal :: rest, place =>
    match tl.told signal with
    | some reason => some (.fired place reason (tl.now == due && tl.ties.elapsed due signal))
    | none => tl.fired? due rest (place + 1)

/-- Lets time pass for `length`, or until one of the signals is done if that comes first or at the
same instant. Of several signals done at once the first in the list counts. -/
def wait (tl : Timeline) (length : Duration) (signals : List Signal) : Wake × Timeline :=
  let due := tl.now + length.toNanos
  match tl.firstFiring? signals with
  | none => (.elapsed, tl.advance due)
  | some time =>
    if time ≤ due then
      let tl := tl.advance time
      match tl.fired? due signals 0 with
      | some wake => (wake, tl)
      | none => (.elapsed, tl.advance due)
    else (.elapsed, tl.advance due)

end Timeline

end SessionKeeper
