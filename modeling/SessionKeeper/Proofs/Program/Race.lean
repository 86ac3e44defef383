import SessionKeeper.Proofs.Program.Footprint
import SessionKeeper.Proofs.Program.Later
import SessionKeeper.Proofs.Retry.Account

/-!
Races that are won. A program that waits for nothing but time (`Program.Patient`) does the same in a
race that it wins as it does alone, and so does one that was to be tidied up after and was not
dropped. So what a context guards can be read off the program itself, unless the context is done
(`Context.guard_account`). A wait that was not cut short ends with its signal live
(`Timeline.live_of_unfired`), and so does a pause, unless it ends just when its context does
(`Context.live_or_tied`).
-/

namespace SessionKeeper

variable {H : Host} {α β : Type}

namespace Timeline

theorem foldl_earlier_le (times : List Instant) (first : Option Instant) {time : Instant}
    (h : first = some time ∨ time ∈ times) :
    ∃ earliest ≤ time,
      times.foldl (fun first time => earlier first (some time)) first = some earliest := by
  induction times generalizing first time with
  | nil =>
    rcases h with h | h
    · exact ⟨time, Nat.le_refl _, h⟩
    · cases h
  | cons t times ih =>
    have next : ∃ soonest ≤ time, earlier first (some t) = some soonest ∨ soonest ∈ times := by
      rcases h with rfl | mem
      · exact ⟨min time t, Nat.min_le_left _ _, .inl rfl⟩
      · rcases List.mem_cons.mp mem with rfl | mem
        · cases first with
          | none => exact ⟨time, Nat.le_refl _, .inl rfl⟩
          | some f => exact ⟨min f time, Nat.min_le_right _ _, .inl rfl⟩
        · exact ⟨time, Nat.le_refl _, .inr mem⟩
    obtain ⟨soonest, le, found⟩ := next
    obtain ⟨earliest, le', hearliest⟩ := ih _ found
    exact ⟨earliest, Nat.le_trans le' le, hearliest⟩

/-- A signal that is done at a later instant fires by then. -/
theorem firing_of_status_advance {tl : Timeline} {signal : Signal} {time : Instant}
    (done : (tl.advance time).status signal ≠ none) :
    ∃ first ≤ max tl.now time, tl.firing? signal = some first := by
  unfold firing?
  split
  · exact ⟨tl.now, Nat.le_max_left _ _, rfl⟩
  · rename_i live
    have none_canceled : ∀ scope ∈ signal.scopes, scope ∉ tl.canceled := by
      intro scope mem gone
      rw [(status_eq_canceled_iff tl signal).mpr ⟨scope, mem, gone⟩] at live
      exact live rfl
    -- The cause is an alarm that has gone off meanwhile, or the deadline.
    have cause : ∃ due ≤ max tl.now time, signal.deadline = some due ∨
        due ∈ (tl.alarms.filter fun alarm => signal.scopes.contains alarm.2).map (·.1) := by
      obtain ⟨reason, hreason⟩ := Option.ne_none_iff_exists'.mp done
      cases reason with
      | canceled =>
        obtain ⟨scope, mem, gone⟩ := (status_eq_canceled_iff _ _).mp hreason
        simp only [advance, List.mem_append, List.mem_map, List.mem_filter] at gone
        rcases gone with ⟨⟨due, _⟩, ⟨alarm, le⟩, rfl⟩ | gone
        · refine ⟨due, of_decide_eq_true le, .inr (List.mem_map.mpr ⟨_, List.mem_filter.mpr
            ⟨alarm, by simpa using mem⟩, rfl⟩)⟩
        · exact absurd gone (none_canceled scope mem)
      | deadlineExceeded =>
        obtain ⟨-, due, hdue, le⟩ := (status_eq_deadlineExceeded_iff _ _).mp hreason
        exact ⟨due, le, .inl hdue⟩
    obtain ⟨due, le, found⟩ := cause
    obtain ⟨first, le', hfirst⟩ := foldl_earlier_le _ _ found
    exact ⟨first, Nat.le_trans le' le, hfirst⟩

/-- A signal that does not cut a wait short is live when the wait is over. -/
theorem live_of_unfired {tl : Timeline} {length : Duration} {signal : Signal}
    (unfired : ¬ ∃ first ≤ tl.now + length.toNanos, tl.firing? signal = some first) :
    (tl.advance (tl.now + length.toNanos)).status signal = none := by
  by_contra done
  obtain ⟨first, le, firing⟩ := firing_of_status_advance done
  rw [Nat.max_eq_right (Nat.le_add_right _ _)] at le
  exact unfired ⟨first, le, firing⟩

end Timeline

namespace Program

/-- The program waits for nothing but time. -/
def Patient : Program H α → Prop
  | .done _ => True
  | .stop _ => True
  | .wait _ signals next => signals = [] ∧ ∀ wake, (next wake).Patient
  | .ask _ next => ∀ answer, (next answer).Patient

namespace Patient

variable {p : Program H α}

theorem bind {f : α → Program H β} (hp : p.Patient) (hf : ∀ a, (f a).Patient) :
    (p.bind f).Patient := by
  induction p with
  | done a => exact hf a
  | stop cause => trivial
  | wait length signals next ih => exact ⟨hp.1, fun wake => ih wake (hp.2 wake)⟩
  | ask r next ih =>
    intro answer
    exact ih answer (hp answer)

theorem onDrop {tidy : Program H Unit} (h : p.Patient) (ht : tidy.Patient) :
    (p.onDrop tidy).Patient := by
  induction p with
  | done a => trivial
  | stop cause =>
    cases cause with
    | panic message => trivial
    | dropped => exact ht.bind fun _ => trivial
  | wait length signals next ih => exact ⟨h.1, fun wake => ih wake (h.2 wake)⟩
  | ask r next ih =>
    intro answer
    exact ih answer (h answer)

theorem forM {γ : Type} {f : γ → Program H Unit} (h : ∀ x, (f x).Patient) (xs : List γ) :
    (xs.forM f).Patient := by
  induction xs with
  | nil => trivial
  | cons x xs ih => exact (h x).bind fun _ => ih

/-- A race that the program has won is a run of the program. When the signal has won, it is done. -/
theorem race_account (h : p.Patient) {signal : Signal} {s s' : State H}
    {answer : Except Cancellation α} (ran : (p.race signal).run s = (.ok answer, s')) :
    (∃ a, answer = .ok a ∧ p.run s = (.ok a, s')) ∨
      ∃ reason, answer = .error reason ∧ s'.timeline.status signal ≠ none := by
  induction p generalizing s with
  | done a =>
    cases ran
    exact .inl ⟨a, rfl, rfl⟩
  | stop cause => cases ran
  | wait length signals next ih =>
    obtain ⟨rfl, hnext⟩ := h
    rw [race, run_wait] at ran
    by_cases fires : ∃ first ≤ s.timeline.now + length.toNanos,
        s.timeline.firing? signal = some first
    · obtain ⟨first, le, firing⟩ := fires
      obtain ⟨reason, tied, waiting, told, -⟩ := Timeline.wait_fired firing le
      rw [waiting] at ran
      obtain ⟨_, s₁, settled, answered⟩ := run_bind_ok_inv ran
      cases answered
      -- What is done stays so while the program settles.
      have done := (later_of_run settled).timeline.doneFor (Timeline.doneFor_of_told told)
      exact .inr ⟨reason, rfl, done.status_ne_none⟩
    · rw [Timeline.wait_elapsed fires] at ran
      exact ih _ (hnext _) ran
  | ask r next ih =>
    rw [race, run_ask] at ran
    exact ih _ (h _) ran

end Patient

theorem run_of_onDrop {p : Program H α} {tidy : Program H Unit} {s s' : State H} {a : α}
    (ran : (p.onDrop tidy).run s = (.ok a, s')) : p.run s = (.ok a, s') := by
  induction p generalizing s with
  | done b => exact ran
  | stop cause =>
    cases cause with
    | panic message => cases ran
    | dropped =>
      obtain ⟨_, s₁, -, stopped⟩ := run_bind_ok_inv ran
      cases stopped
  | wait length signals next ih => exact ih _ ran
  | ask r next ih => exact ih _ ran

end Program

namespace Context

variable {κ : Type} {V : κ → Type} {ctx : Context V} {w : Work H α} {s s' : State H}

/-- A pause that the context did not cut short ends with the context live, unless that was done at
the very end. -/
theorem live_or_tied {length : Duration} (ran : (ctx.pause length).run s = (.ok none, s')) :
    s'.timeline.status ctx.signal = none ∨ ctx.FiresAtEnd s.timeline length := by
  obtain ⟨rfl, account⟩ := pausesTo_of_run ran
  by_cases within : ctx.FiresWithin s.timeline length
  · exact .inr ⟨within, fun before => absurd (account.cut before) (by simp)⟩
  · rw [account.full rfl]
    exact .inl (Timeline.live_of_unfired within)

/-- What a context guards runs as it does alone, from a live context on, or the context is done. -/
theorem guard_account (patient : w.run.Patient) {answer : Except Failure α}
    (ran : (ctx.guard w).run.run s = (.ok answer, s')) :
    (s.timeline.status ctx.signal = none ∧ w.run.run s = (.ok answer, s')) ∨
      ∃ reason, answer = .error (.canceled reason) ∧ s'.timeline.status ctx.signal ≠ none := by
  rw [guard_run, status, Program.run_bind_ok (Program.run_status s _)] at ran
  cases hstatus : s.timeline.status ctx.signal with
  | some reason =>
    rw [hstatus] at ran
    cases ran
    exact .inr ⟨reason, rfl, by simp [hstatus]⟩
  | none =>
    rw [hstatus] at ran
    obtain ⟨raced, s₁, racing, ran⟩ := Program.run_bind_ok_inv ran
    rcases patient.race_account racing with ⟨result, rfl, won⟩ | ⟨reason, rfl, done⟩
    · cases ran
      exact .inl ⟨rfl, won⟩
    · cases ran
      exact .inr ⟨reason, rfl, done⟩

theorem run_of_guard (patient : w.run.Patient) {a : α}
    (ran : (ctx.guard w).run.run s = (.ok (.ok a), s')) : w.run.run s = (.ok (.ok a), s') := by
  rcases guard_account patient ran with ⟨-, done⟩ | ⟨reason, refused, -⟩
  · exact done
  · cases refused

end Context

end SessionKeeper
