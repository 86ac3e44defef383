import SessionKeeper.Proofs.Context.Status
import SessionKeeper.Proofs.Program.Race

/-!
The race of a context against a program, told from the run of the program alone. What ends a signal
is a set of events on the timeline (`Timeline.Ends`); the signal is done from the earliest of them
on, and a wait that is cut short ends right then. A program that is raced goes through the same
waits as alone (`Program.pauses`) up to the first at whose end the signal is done. That one is cut
short, and the program is dropped there (`Program.race_of_done`); if there is none, the race is the
run of the program (`Program.race_of_live`).

Correspondence: `run` of a context ↔ `Context.run` (`Context.Raced`), and `done` ↔
`Context.doneWithin` (`Context.Awaited`). `run` looks at the signal first, and so decides every tie
for it. `done` looks at the canceled scopes and at the deadline in no particular order, so where
both come at one instant it reports one of the two, and it is left open here which
(`Context.EndsAt.reports`).

`Context.race_decided` assumes nothing of the program, the context or the surroundings.
-/

namespace SessionKeeper

variable {H : Host} {κ : Type} {V : κ → Type} {α : Type}

/-! ## When a signal is done -/

namespace Timeline

variable {tl : Timeline} {signal : Signal} {signals : List Signal} {length : Duration}
  {time first : Instant} {reason : Cancellation}

/-- An event that ends the signal, and the instant at which it does: a scope that is canceled
already, one that will be, or the deadline. What is overdue happens now. -/
inductive Ends (tl : Timeline) (signal : Signal) : Instant → Cancellation → Prop
  | canceled {scope : Scope} : scope ∈ signal.scopes → scope ∈ tl.canceled →
      Ends tl signal tl.now .canceled
  | alarm {due : Instant} {scope : Scope} : scope ∈ signal.scopes → (due, scope) ∈ tl.alarms →
      Ends tl signal (max tl.now due) .canceled
  | deadline {due : Instant} : signal.deadline = some due →
      Ends tl signal (max tl.now due) .deadlineExceeded

theorem Ends.now_le (ends : tl.Ends signal time reason) : tl.now ≤ time := by
  cases ends with
  | canceled _ _ => exact Nat.le_refl _
  | alarm _ _ => exact Nat.le_max_left _ _
  | deadline _ => exact Nat.le_max_left _ _

theorem advance_max_now (tl : Timeline) (time : Instant) :
    tl.advance (max tl.now time) = tl.advance time := by
  simp [advance]

theorem max_now_mono (le : first ≤ time) : max tl.now first ≤ max tl.now time :=
  Nat.max_le.mpr ⟨Nat.le_max_left _ _, Nat.le_trans le (Nat.le_max_right _ _)⟩

theorem advance_later (le : first ≤ time) : (tl.advance first).Later (tl.advance time) where
  now := max_now_mono le
  canceled := by
    intro scope gone
    simp only [advance, List.mem_append, List.mem_map, List.mem_filter, decide_eq_true_eq]
      at gone ⊢
    rcases gone with ⟨alarm, ⟨mem, due⟩, rfl⟩ | gone
    · exact .inl ⟨alarm, ⟨mem, Nat.le_trans due (max_now_mono le)⟩, rfl⟩
    · exact .inr gone

theorem Ends.doneFor (ends : tl.Ends signal time reason) :
    (tl.advance time).DoneFor signal reason := by
  cases ends with
  | canceled held gone => exact ⟨_, held, mem_canceled_advance (.inl gone)⟩
  | alarm held mem =>
    exact ⟨_, held, mem_canceled_advance (.inr ⟨_, Nat.le_max_right tl.now _, mem⟩)⟩
  | deadline hd => exact ⟨_, hd, Nat.le_trans (Nat.le_max_right _ _) (Nat.le_max_right _ _)⟩

/-- A signal that is done for some reason was ended by an event of that kind. -/
theorem ends_of_doneFor (done : (tl.advance time).DoneFor signal reason) :
    ∃ event ≤ max tl.now time, tl.Ends signal event reason := by
  cases reason with
  | canceled =>
    obtain ⟨scope, held, gone⟩ := done
    simp only [advance, List.mem_append, List.mem_map, List.mem_filter, decide_eq_true_eq] at gone
    rcases gone with ⟨⟨due, _⟩, ⟨mem, le⟩, rfl⟩ | gone
    · exact ⟨max tl.now due, Nat.max_le.mpr ⟨Nat.le_max_left _ _, le⟩, .alarm held mem⟩
    · exact ⟨tl.now, Nat.le_max_left _ _, .canceled held gone⟩
  | deadlineExceeded =>
    obtain ⟨due, hd, le⟩ := done
    exact ⟨max tl.now due, Nat.max_le.mpr ⟨Nat.le_max_left _ _, le⟩, .deadline hd⟩

/-- A signal fires at the first instant at which it is done. -/
theorem isLeast_firing (firing : tl.firing? signal = some first) :
    IsLeast {time | tl.now ≤ time ∧ (tl.advance time).status signal ≠ none} (max tl.now first) := by
  refine ⟨⟨Nat.le_max_left _ _, ?_⟩, ?_⟩
  · rw [advance_max_now]
    exact status_advance_firing firing
  · rintro time ⟨le, done⟩
    obtain ⟨soonest, before, found⟩ := firing_of_status_advance done
    cases firing.symm.trans found
    rw [Nat.max_eq_right le] at before
    exact Nat.max_le.mpr ⟨le, before⟩

end Timeline

/-! ## Waiting for one more signal -/

/-- How a wait with one more signal in front of the others ended, if not for that signal. -/
def Wake.behind : Wake → Wake
  | .fired place reason tied => .fired (place + 1) reason tied
  | wake => wake

namespace Timeline

variable {tl : Timeline} {signal : Signal} {signals : List Signal} {length : Duration}
  {time first : Instant}

theorem earlier_assoc (a b c : Option Instant) :
    earlier (earlier a b) c = earlier a (earlier b c) := by
  cases a <;> cases b <;> cases c <;> simp [earlier, Nat.min_assoc]

theorem foldl_earlier (signals : List Signal) (soonest : Option Instant) :
    signals.foldl (fun soonest signal => earlier soonest (tl.firing? signal)) soonest =
      earlier soonest (tl.firstFiring? signals) := by
  induction signals generalizing soonest with
  | nil => cases soonest <;> rfl
  | cons signal signals ih =>
    rw [firstFiring?, List.foldl_cons, List.foldl_cons, ih, ih, earlier_assoc]
    rfl

theorem firstFiring?_cons (tl : Timeline) (signal : Signal) (signals : List Signal) :
    tl.firstFiring? (signal :: signals) =
      earlier (tl.firing? signal) (tl.firstFiring? signals) := by
  rw [firstFiring?, List.foldl_cons, foldl_earlier]
  rfl

theorem earlier_eq_some {a b : Option Instant} (h : earlier a b = some first) :
    a = some first ∨ b = some first := by
  cases a with
  | none => exact .inr h
  | some own =>
    cases b with
    | none => exact .inl h
    | some other =>
      simp only [earlier, Option.some.injEq] at h
      rcases Nat.le_total own other with le | le
      · exact .inl (congrArg some (Nat.min_eq_left le ▸ h))
      · exact .inr (congrArg some (Nat.min_eq_right le ▸ h))

theorem earlier_some_left (own : Instant) (b : Option Instant) :
    ∃ first ≤ own, earlier (some own) b = some first := by
  cases b with
  | none => exact ⟨own, Nat.le_refl _, rfl⟩
  | some other => exact ⟨min own other, Nat.min_le_left _ _, rfl⟩

theorem earlier_eq_right {a : Option Instant} (late : ∀ own, a = some own → time < own) :
    earlier a (some time) = some time := by
  cases a with
  | none => rfl
  | some own => exact congrArg some (Nat.min_eq_right (Nat.le_of_lt (late own rfl)))

theorem firing_of_firstFiring (h : tl.firstFiring? signals = some first) :
    ∃ signal ∈ signals, tl.firing? signal = some first := by
  induction signals with
  | nil => cases h
  | cons signal signals ih =>
    rw [firstFiring?_cons] at h
    rcases earlier_eq_some h with own | rest
    · exact ⟨signal, List.mem_cons_self, own⟩
    · obtain ⟨other, mem, firing⟩ := ih rest
      exact ⟨other, List.mem_cons_of_mem _ mem, firing⟩

theorem fired_of_mem (mem : signal ∈ signals) (done : tl.status signal ≠ none) (due : Instant)
    (place : Nat) : ∃ wake, tl.fired? due signals place = some wake := by
  induction signals generalizing place with
  | nil => cases mem
  | cons other signals ih =>
    cases told : tl.told other with
    | some reason =>
      obtain ⟨tied, found, -⟩ := fired?_of_told told due signals place
      exact ⟨_, found⟩
    | none =>
      rcases List.mem_cons.mp mem with rfl | mem
      · exact absurd (told_eq_none_iff.mp told) done
      · simp only [fired?, told]
        exact ih mem _

theorem fired?_succ (tl : Timeline) (due : Instant) (signals : List Signal) (place : Nat) :
    tl.fired? due signals (place + 1) = (tl.fired? due signals place).map Wake.behind := by
  induction signals generalizing place with
  | nil => rfl
  | cons signal signals ih =>
    cases told : tl.told signal with
    | some reason => simp only [fired?, told, Option.map_some, Wake.behind]
    | none =>
      simp only [fired?, told]
      exact ih _

/-- A wait takes its full length, or ends at the first instant at which a signal fires. -/
theorem wait_account (tl : Timeline) (length : Duration) (signals : List Signal) :
    ((∀ first, tl.firstFiring? signals = some first → tl.now + length.toNanos < first) ∧
      tl.wait length signals = (.elapsed, tl.advance (tl.now + length.toNanos))) ∨
    ∃ first ≤ tl.now + length.toNanos, tl.firstFiring? signals = some first ∧
      ∃ wake, (tl.advance first).fired? (tl.now + length.toNanos) signals 0 = some wake ∧
        tl.wait length signals = (wake, tl.advance first) := by
  cases hf : tl.firstFiring? signals with
  | none => exact .inl ⟨by simp, by simp only [wait, hf]⟩
  | some first =>
    by_cases le : first ≤ tl.now + length.toNanos
    · obtain ⟨signal, mem, firing⟩ := firing_of_firstFiring hf
      obtain ⟨wake, found⟩ := fired_of_mem mem (status_advance_firing firing) _ 0
      exact .inr ⟨first, le, rfl, wake, found, by simp only [wait, hf, if_pos le, found]⟩
    · exact .inl ⟨by simpa using le, by simp only [wait, hf, if_neg le]⟩

/-- A signal that is live when the wait is over does not change the wait. -/
theorem wait_cons_of_live (live : (tl.wait length signals).2.status signal = none) :
    tl.wait length (signal :: signals) =
      ((tl.wait length signals).1.behind, (tl.wait length signals).2) := by
  -- The signal fires after the wait, if ever.
  have late : ∀ time, (tl.wait length signals).2 = tl.advance time →
      ∀ first, tl.firing? signal = some first → time < first := by
    intro time same first firing
    by_contra early
    rw [same] at live
    exact status_advance_firing firing ((advance_later (Nat.le_of_not_lt early)).live live)
  rcases tl.wait_account length signals with
    ⟨unfired, waited⟩ | ⟨first, le, hfirst, wake, found, waited⟩
  · rcases tl.wait_account length (signal :: signals) with
      ⟨-, waited'⟩ | ⟨soonest, le, hsoonest, -⟩
    · rw [waited, waited']
      rfl
    · rw [firstFiring?_cons] at hsoonest
      have after : tl.now + length.toNanos < soonest := by
        rcases earlier_eq_some hsoonest with own | rest
        · exact late _ (by rw [waited]) soonest own
        · exact unfired soonest rest
      exact absurd le (Nat.not_le_of_lt after)
  · have hcons : tl.firstFiring? (signal :: signals) = some first := by
      rw [firstFiring?_cons, hfirst]
      exact earlier_eq_right (late first (by rw [waited]))
    rw [waited] at live ⊢
    simp only [wait, hcons, if_pos le, fired?, told_eq_none_iff.mpr live, fired?_succ, found,
      Option.map_some]

/-- A signal that is done when the wait is over cuts it short, right when it fires. -/
theorem wait_cons_of_done (done : (tl.wait length signals).2.status signal ≠ none) :
    ∃ first reason tied, tl.firing? signal = some first ∧
      max tl.now first ≤ (tl.wait length signals).2.now ∧
      (tl.advance first).told signal = some reason ∧
      tl.wait length (signal :: signals) = (.fired 0 reason tied, tl.advance first) := by
  -- It fires before any of the others, or when others are overdue, which is now as well.
  have before : ∃ time ≤ tl.now + length.toNanos,
      (tl.wait length signals).2 = tl.advance time ∧
        ∀ first, tl.firstFiring? signals = some first → time ≤ first := by
    rcases tl.wait_account length signals with
      ⟨unfired, waited⟩ | ⟨first, le, hfirst, wake, found, waited⟩
    · exact ⟨_, Nat.le_refl _, by rw [waited], fun first h => Nat.le_of_lt (unfired first h)⟩
    · refine ⟨first, le, by rw [waited], fun other h => ?_⟩
      cases hfirst.symm.trans h
      exact Nat.le_refl _
  obtain ⟨time, le, waited, others⟩ := before
  rw [waited] at done ⊢
  obtain ⟨first, soon, firing⟩ := firing_of_status_advance done
  obtain ⟨soonest, le_first, hsoonest⟩ := earlier_some_left first (tl.firstFiring? signals)
  have same : tl.advance soonest = tl.advance first := by
    rcases earlier_eq_some hsoonest with own | rest
    · cases own
      rfl
    · have equal : max tl.now soonest = max tl.now first :=
        Nat.le_antisymm (max_now_mono le_first) (Nat.max_le.mpr
          ⟨Nat.le_max_left _ _, Nat.le_trans soon (max_now_mono (others soonest rest))⟩)
      rw [← advance_max_now tl soonest, equal, advance_max_now]
  obtain ⟨reason, told⟩ := told_of_firing firing
  have in_time : soonest ≤ tl.now + length.toNanos :=
    Nat.le_trans le_first (Nat.le_trans soon (Nat.max_le.mpr ⟨Nat.le_add_right _ _, le⟩))
  obtain ⟨tied, found, -⟩ := fired?_of_told told (tl.now + length.toNanos) signals 0
  refine ⟨first, reason, tied, firing, Nat.max_le.mpr ⟨Nat.le_max_left _ _, soon⟩, told, ?_⟩
  simp only [wait, firstFiring?_cons, firing, hsoonest, if_pos in_time, same, found]

end Timeline

/-! ## Programs that are raced -/

/-- A wait on the way of a program: the surroundings before it and after it, and what the program
goes on with. -/
structure Pause (H : Host) (α : Type) where
  before : State H
  after : State H
  next : Wake → Program H α

namespace Program

/-- The waits of the program, run from the given surroundings, in order. -/
def pauses : Program H α → State H → List (Pause H α)
  | .done _, _ => []
  | .stop _, _ => []
  | .wait length signals next, s =>
    let after := { s with timeline := (s.timeline.wait length signals).2 }
    ⟨s, after, next⟩ :: (next (s.timeline.wait length signals).1).pauses after
  | .ask request next, s => (next (request.perform s).1).pauses (request.perform s).2

theorem run_now (p : Program H α) (s : State H) :
    (p.run s).2.timeline.now = s.timeline.now ∨
      ∃ w ∈ p.pauses s, w.after.timeline.now = (p.run s).2.timeline.now := by
  induction p generalizing s with
  | done a => exact .inl rfl
  | stop cause => exact .inl rfl
  | wait length signals next ih =>
    rcases ih (s.timeline.wait length signals).1
      { s with timeline := (s.timeline.wait length signals).2 } with here | ⟨w, mem, there⟩
    · exact .inr ⟨_, List.mem_cons_self, here.symm⟩
    · exact .inr ⟨w, List.mem_cons_of_mem _ mem, there⟩
  | ask request next ih =>
    have at_once : (request.perform s).2.timeline.now = s.timeline.now := by
      cases request <;> rfl
    exact at_once ▸ ih (request.perform s).1 (request.perform s).2

variable {signal : Signal}

theorem race_wait_of_live {length : Duration} {signals : List Signal} {next : Wake → Program H α}
    {s : State H} (live : (s.timeline.wait length signals).2.status signal = none) :
    ((wait length signals next).race signal).run s =
      ((next (s.timeline.wait length signals).1).race signal).run
        { s with timeline := (s.timeline.wait length signals).2 } := by
  rw [race, run_wait, Timeline.wait_cons_of_live live]
  cases (s.timeline.wait length signals).1 <;> rfl

/-- A race that the program wins is the run of the program. -/
theorem race_of_live (p : Program H α) (s : State H)
    (live : ∀ w ∈ p.pauses s, w.after.timeline.status signal = none) :
    (p.race signal).run s = ((p.run s).1.map .ok, (p.run s).2) := by
  induction p generalizing s with
  | done a => rfl
  | stop cause => rfl
  | wait length signals next ih =>
    rw [race_wait_of_live (live _ List.mem_cons_self)]
    exact ih _ _ fun w mem => live w (List.mem_cons_of_mem _ mem)
  | ask request next ih => exact ih _ _ live

/-- A race that the signal wins is the run of the program up to the wait at whose end the signal is
first done. The wait ends when the signal fires, and the program is dropped there. -/
theorem race_of_done (p : Program H α) (s : State H) {earlier later : List (Pause H α)}
    {w : Pause H α} (split : p.pauses s = earlier ++ w :: later)
    (live : ∀ v ∈ earlier, v.after.timeline.status signal = none)
    (done : w.after.timeline.status signal ≠ none) :
    ∃ first reason, w.before.timeline.firing? signal = some first ∧
      max w.before.timeline.now first ≤ w.after.timeline.now ∧
      (w.before.timeline.advance first).told signal = some reason ∧
      (p.race signal).run s =
        ((w.next .dropped).settle.bind fun _ => .done (.error reason)).run
          (w.before.advanced first) := by
  induction p generalizing s earlier with
  | done a => simp [pauses] at split
  | stop cause => simp [pauses] at split
  | wait length signals next ih =>
    cases earlier with
    | nil =>
      obtain ⟨rfl, -⟩ := List.cons.inj split
      obtain ⟨first, reason, _, firing, in_time, told, waited⟩ := Timeline.wait_cons_of_done done
      refine ⟨first, reason, firing, in_time, told, ?_⟩
      rw [race, run_wait, waited]
      rfl
    | cons v earlier =>
      obtain ⟨rfl, rest⟩ := List.cons.inj split
      rw [race_wait_of_live (live _ List.mem_cons_self)]
      exact ih _ _ rest fun v mem => live v (List.mem_cons_of_mem _ mem)
  | ask request next ih => exact ih _ _ split live

end Program

/-! ## Contexts -/

namespace Context

variable {ctx : Context V} {p : Program H α} {s : State H}

/-- The context ends at this instant, the first one from `s` on at which it is done if nothing but
time passes, and with this reason, which is that of the earliest event. -/
structure EndsAt (ctx : Context V) (s : State H) (time : Instant) (reason : Cancellation) :
    Prop where
  first : IsLeast {time | s.timeline.now ≤ time ∧ ctx.Done (s.advanced time)} time
  event : s.timeline.Ends ctx.signal time reason
  earliest : ∀ other why, s.timeline.Ends ctx.signal other why → time ≤ other
  /-- Unless there is an event of the other kind at that instant, the context reports this one. -/
  reports : (∀ why, s.timeline.Ends ctx.signal time why → why = reason) →
    ctx.Reports (s.advanced time) (some reason)

theorem done_iff_status : ctx.Done s ↔ s.timeline.status ctx.signal ≠ none := by
  rw [done_iff, reports_iff]

/-- A context ends when its signal fires, and for the reason that is told. -/
theorem endsAt_of_firing {first : Instant} {reason : Cancellation}
    (firing : s.timeline.firing? ctx.signal = some first)
    (told : (s.timeline.advance first).told ctx.signal = some reason) :
    ctx.EndsAt s (max s.timeline.now first) reason := by
  have least := Timeline.isLeast_firing firing
  have soonest : ∀ other why, s.timeline.Ends ctx.signal other why →
      max s.timeline.now first ≤ other :=
    fun other why ends => least.2 ⟨ends.now_le, ends.doneFor.status_ne_none⟩
  -- Whatever the context is done for by then came at that instant.
  have ends : ∀ why, (s.timeline.advance first).DoneFor ctx.signal why →
      s.timeline.Ends ctx.signal (max s.timeline.now first) why := by
    intro why done
    obtain ⟨event, le, ends⟩ := Timeline.ends_of_doneFor done
    cases Nat.le_antisymm le (soonest event why ends)
    exact ends
  refine ⟨?_, ends reason (Timeline.doneFor_of_told told), soonest, fun only => ?_⟩
  · simpa only [done_iff_status, State.advanced] using least
  · obtain ⟨why, status⟩ :=
      Option.ne_none_iff_exists'.mp (Timeline.doneFor_of_told told).status_ne_none
    cases only why (ends why (Timeline.doneFor_of_status status))
    rw [reports_iff, State.advanced, Timeline.advance_max_now]
    exact status

/-- How the race of a context against a program turns out, by what happens to the context while the
program runs alone. -/
structure Raced (ctx : Context V) (p : Program H α) (s : State H) : Prop where
  /-- Under a context that is done nothing is run. -/
  refused : ∀ reason, ctx.Reports s (some reason) →
    (ctx.run p).run.run s = (.ok (.error (.canceled reason)), s)
  /-- If the context is live at the call and whenever the program wakes, the program goes to its end
  as it does alone, and its last step may do to the context what it likes. -/
  kept : ¬ ctx.Done s → (∀ w ∈ p.pauses s, ¬ ctx.Done w.after) →
    (ctx.run p).run.run s = ((p.run s).1.map .ok, (p.run s).2)
  /-- Otherwise the first wait at whose end the context is done, be it at that very instant, ends
  when the context does. The program is dropped there, and what it still does is all there is. -/
  cut : ¬ ctx.Done s → ∀ earlier w later, p.pauses s = earlier ++ w :: later →
    (∀ v ∈ earlier, ¬ ctx.Done v.after) → ctx.Done w.after →
      ∃ time reason, ctx.EndsAt w.before time reason ∧ time ≤ w.after.timeline.now ∧
        (ctx.run p).run.run s =
          ((w.next .dropped).settle.bind fun _ => .done (.error (.canceled reason))).run
            (w.before.advanced time)
  /-- A deadline counts also if it falls on the very instant at which the program ends. -/
  deadline : ¬ ctx.Done s → ∀ due ∈ ctx.deadline, due ≤ (p.run s).2.timeline.now →
    ∃ w ∈ p.pauses s, ctx.Done w.after
  /-- So what is answered is a cancellation without causes in the first and the last of these cases,
  and else no failure. -/
  exact : ∀ answer s', (ctx.run p).run.run s = (.ok answer, s') →
    ((∃ failure, answer = .error failure) ↔ ctx.Done s ∨ ∃ w ∈ p.pauses s, ctx.Done w.after) ∧
      ∀ failure, answer = .error failure → failure.kind = .canceled ∧ failure.causes = []

/-- Whoever waits for the context, however long, learns its reason at the instant at which it ends;
if it never does, so does the wait. -/
def Awaited (ctx : Context V) (s : State H) : Prop :=
  (∃ time reason, ctx.EndsAt s time reason ∧ ∀ length : Duration,
    (ctx.doneWithin length).run s =
      if time ≤ s.timeline.now + length.toNanos then (.ok (some reason), s.advanced time)
      else (.ok none, s.advanced (s.timeline.now + length.toNanos))) ∨
  (∀ time, s.timeline.now ≤ time → ¬ ctx.Done (s.advanced time)) ∧ ∀ length : Duration,
    (ctx.doneWithin length).run s = (.ok none, s.advanced (s.timeline.now + length.toNanos))

theorem awaited (ctx : Context V) (s : State H) : ctx.Awaited s := by
  cases firing : s.timeline.firing? ctx.signal with
  | none =>
    refine .inr ⟨fun time _ done => ?_, fun length => ?_⟩
    · obtain ⟨first, -, found⟩ := Timeline.firing_of_status_advance (done_iff_status.mp done)
      exact absurd (firing.symm.trans found) (by simp)
    · rw [doneWithin, Program.run_wait, Timeline.wait_elapsed (by simp [firing])]
      rfl
  | some first =>
    obtain ⟨reason, told⟩ := Timeline.told_of_firing firing
    refine .inl ⟨_, reason, endsAt_of_firing firing told, fun length => ?_⟩
    rw [doneWithin, Program.run_wait]
    by_cases le : first ≤ s.timeline.now + length.toNanos
    · obtain ⟨_, _, waited, found, -⟩ := Timeline.wait_fired firing le
      cases told.symm.trans found
      rw [waited, if_pos (Nat.max_le.mpr ⟨Nat.le_add_right _ _, le⟩), State.advanced,
        Timeline.advance_max_now]
      rfl
    · have late : ¬ ∃ soonest ≤ s.timeline.now + length.toNanos,
          s.timeline.firing? ctx.signal = some soonest := by
        rintro ⟨soonest, soon, found⟩
        cases firing.symm.trans found
        exact le soon
      rw [Timeline.wait_elapsed late, if_neg fun both => le (Nat.max_le.mp both).2]
      rfl

theorem run_of_reports {reason : Cancellation} (refused : ctx.Reports s (some reason)) :
    (ctx.run p).run.run s = (.ok (.error (.canceled reason)), s) := by
  rw [run, ExceptT.run_mk, status, Program.bind_eq_bind,
    Program.run_bind_ok (Program.run_status s _), reports_iff.mp refused]
  rfl

theorem run_of_live (live : ¬ ctx.Done s) :
    (ctx.run p).run.run s =
      (((p.race ctx.signal).run s).1.map (Except.mapError Failure.canceled),
        ((p.race ctx.signal).run s).2) := by
  rw [run, ExceptT.run_mk, status, Program.bind_eq_bind,
    Program.run_bind_ok (Program.run_status s _),
    reports_iff.mp (not_not.mp (mt done_iff.mpr live))]
  simp only [Program.bind_eq_bind, Program.run_bind]
  rcases (p.race ctx.signal).run s with ⟨_ | _ | _, s'⟩ <;> rfl

theorem run_of_kept (live : ¬ ctx.Done s) (kept : ∀ w ∈ p.pauses s, ¬ ctx.Done w.after) :
    (ctx.run p).run.run s = ((p.run s).1.map .ok, (p.run s).2) := by
  have alone : ∀ w ∈ p.pauses s, w.after.timeline.status ctx.signal = none :=
    fun w mem => not_not.mp (mt done_iff_status.mpr (kept w mem))
  rw [run_of_live live, Program.race_of_live p s alone]
  cases (p.run s).1 <;> rfl

theorem run_of_cut (live : ¬ ctx.Done s) {earlier later : List (Pause H α)} {w : Pause H α}
    (split : p.pauses s = earlier ++ w :: later) (before : ∀ v ∈ earlier, ¬ ctx.Done v.after)
    (done : ctx.Done w.after) :
    ∃ time reason, ctx.EndsAt w.before time reason ∧ time ≤ w.after.timeline.now ∧
      (ctx.run p).run.run s =
        ((w.next .dropped).settle.bind fun _ => .done (.error (.canceled reason))).run
          (w.before.advanced time) := by
  obtain ⟨first, reason, firing, in_time, told, raced⟩ := p.race_of_done s split
    (fun v mem => not_not.mp (mt done_iff_status.mpr (before v mem))) (done_iff_status.mp done)
  refine ⟨_, reason, endsAt_of_firing firing told, in_time, ?_⟩
  rw [run_of_live live, raced, State.advanced, State.advanced, Timeline.advance_max_now,
    Program.run_bind, Program.run_bind]
  rcases (w.next .dropped).settle.run _ with ⟨_ | _, s'⟩ <;> rfl

theorem done_of_deadline {due : Instant} (hd : ctx.deadline = some due)
    (le : due ≤ s.timeline.now) : ctx.Done s := by
  rw [done_iff_status, Timeline.status]
  split
  · simp
  · simp [show ctx.signal.deadline = some due from hd, le]

theorem done_of_deadline_run (live : ¬ ctx.Done s) {due : Instant} (hd : ctx.deadline = some due)
    (le : due ≤ (p.run s).2.timeline.now) : ∃ w ∈ p.pauses s, ctx.Done w.after := by
  rcases p.run_now s with here | ⟨w, mem, there⟩
  · exact absurd (done_of_deadline hd (here ▸ le)) live
  · exact ⟨w, mem, done_of_deadline hd (there.symm ▸ le)⟩

theorem kept_or_cut (ctx : Context V) (p : Program H α) (s : State H) :
    (∀ w ∈ p.pauses s, ¬ ctx.Done w.after) ∨
      ∃ earlier w later, p.pauses s = earlier ++ w :: later ∧
        (∀ v ∈ earlier, ¬ ctx.Done v.after) ∧ ctx.Done w.after := by
  induction p.pauses s with
  | nil => exact .inl (by simp)
  | cons first rest ih =>
    by_cases done : ctx.Done first.after
    · exact .inr ⟨[], first, rest, rfl, by simp, done⟩
    · rcases ih with kept | ⟨earlier, w, later, rfl, before, cut⟩
      · exact .inl (List.forall_mem_cons.mpr ⟨done, kept⟩)
      · exact .inr ⟨first :: earlier, w, later, rfl, List.forall_mem_cons.mpr ⟨done, before⟩, cut⟩

/-- What is answered is a cancellation if the context was done in time, and else no failure. -/
theorem answer_of_run {answer : Except Failure α} {s' : State H}
    (ran : (ctx.run p).run.run s = (.ok answer, s')) :
    ((∃ failure, answer = .error failure) ↔ ctx.Done s ∨ ∃ w ∈ p.pauses s, ctx.Done w.after) ∧
      ∀ failure, answer = .error failure → failure.kind = .canceled ∧ failure.causes = [] := by
  by_cases done : ctx.Done s
  · obtain ⟨reason, refused⟩ := done
    rw [run_of_reports refused] at ran
    cases ran
    exact ⟨iff_of_true ⟨_, rfl⟩ (.inl ⟨reason, refused⟩), by rintro _ ⟨⟩; exact ⟨rfl, rfl⟩⟩
  rcases ctx.kept_or_cut p s with kept | ⟨earlier, w, later, split, before, cut⟩
  · rw [run_of_kept done kept] at ran
    have never : ¬ (ctx.Done s ∨ ∃ w ∈ p.pauses s, ctx.Done w.after) := by
      rintro (now | ⟨w, mem, later⟩)
      · exact done now
      · exact kept w mem later
    rcases hp : p.run s with ⟨_ | a, s₁⟩
    · rw [hp] at ran
      cases ran
    · rw [hp] at ran
      cases ran
      exact ⟨iff_of_false (by simp) never, by simp⟩
  · have mem : w ∈ p.pauses s := split ▸ List.mem_append_right _ List.mem_cons_self
    obtain ⟨time, reason, -, -, dropped⟩ := run_of_cut done split before cut
    rw [dropped] at ran
    obtain ⟨_, s₁, -, answered⟩ := Program.run_bind_ok_inv ran
    cases answered
    exact ⟨iff_of_true ⟨_, rfl⟩ (.inr ⟨w, mem, cut⟩), by rintro _ ⟨⟩; exact ⟨rfl, rfl⟩⟩

/-- The race of a context against a program, for every timeline. A context that is done at the call
runs nothing. One that is done when the program wakes from a wait, be it at that very instant, wins
and drops the program, at the instant of the earliest event and with its reason. Any other loses,
and the program ends as it does alone. To wait for the context is to wait for that instant. -/
theorem race_decided (ctx : Context V) (p : Program H α) (s : State H) :
    ctx.Raced p s ∧ ctx.Awaited s where
  left :=
    { refused := fun _ => run_of_reports
      kept := run_of_kept
      cut := fun live _ _ _ => run_of_cut live
      deadline := fun live _ => done_of_deadline_run live
      exact := fun _ _ => answer_of_run }
  right := ctx.awaited s

/-- A deadline at the very instant of completion wins; a cancellation in the last step comes too
late. -/
example :
    let s : State ⟨Unit, Unit⟩ := { timeline := { opened := 1 }, host := () }
    let ctx : Context fun _ : Unit => Nat := background.within ⟨0⟩
    let slow (last : Program ⟨Unit, Unit⟩ Nat) := (Program.sleep (.ofNanos 5)).bind fun _ => last
    (((ctx.withDeadline 5).run (slow (.done 7))).run.run s).1 =
        .ok (.error (.canceled .deadlineExceeded)) ∧
      ((ctx.run (slow ((Program.cancel ⟨0⟩).bind fun _ => .done 7))).run.run s).1 = .ok (.ok 7) :=
  ⟨by cbv, by cbv⟩

end Context

end SessionKeeper
