import SessionKeeper.Program.Lemmas

/-!
What no program takes back. Whatever a program asks for, time does not go back, what was canceled
stays canceled, what was recorded stays recorded, bytes that were handed out are not handed out
again, and a lease that has ended leads nowhere ever after (`Program.run_later`). So a context that
is live in the end was live all along, and a handle that is over is over for good.

`Timeline.Later` and `State.Later` are the two preorders. Each request keeps the second
(`Request.perform_later`), and a run keeps it by induction on the program, panics and drops
included.
-/

namespace SessionKeeper

variable {H : Host} {α : Type}

namespace Timeline

/-- `tl'` is what became of `tl`, at the same instant or later. -/
structure Later (tl tl' : Timeline) : Prop where
  now : tl.now ≤ tl'.now
  canceled : tl.canceled ⊆ tl'.canceled

namespace Later

variable {tl tl₁ tl' : Timeline}

theorem refl (tl : Timeline) : tl.Later tl := ⟨Nat.le_refl _, List.Subset.refl _⟩

theorem trans (h : tl.Later tl₁) (h' : tl₁.Later tl') : tl.Later tl' :=
  ⟨Nat.le_trans h.now h'.now, List.Subset.trans h.canceled h'.canceled⟩

theorem advance (tl : Timeline) (time : Instant) : tl.Later (tl.advance time) :=
  ⟨Nat.le_max_left _ _, List.subset_append_right _ _⟩

theorem wait (tl : Timeline) (length : Duration) (signals : List Signal) :
    tl.Later (tl.wait length signals).2 := by
  unfold Timeline.wait
  cases tl.firstFiring? signals with
  | none => exact advance tl _
  | some time =>
    simp only
    split
    · cases (tl.advance time).fired? (tl.now + length.toNanos) signals 0
      · exact (advance tl time).trans (advance _ _)
      · exact advance tl time
    · exact advance tl _

theorem doneFor (h : tl.Later tl') {signal : Signal} {reason : Cancellation}
    (done : tl.DoneFor signal reason) : tl'.DoneFor signal reason := by
  cases reason with
  | canceled =>
    obtain ⟨scope, mem, gone⟩ := done
    exact ⟨scope, mem, h.canceled gone⟩
  | deadlineExceeded =>
    obtain ⟨time, deadline, le⟩ := done
    exact ⟨time, deadline, Nat.le_trans le h.now⟩

theorem live (h : tl.Later tl') {signal : Signal} (later : tl'.status signal = none) :
    tl.status signal = none := by
  cases hstatus : tl.status signal with
  | none => rfl
  | some reason => exact absurd later (h.doneFor (doneFor_of_status hstatus)).status_ne_none

end Later

end Timeline

/-- The lease has ended. -/
def State.Ended (s : State H) (lease : Lease) : Prop :=
  s.holdings[lease.id]? = some ⟨none, true⟩

theorem State.Ended.connectionOf_eq_none {s : State H} {lease : Lease} (ended : s.Ended lease) :
    s.connectionOf lease = none := by
  rw [connectionOf, show s.holdings[lease.id]? = some ⟨none, true⟩ from ended]
  rfl

/-- `s'` is what became of `s`, at the same instant or later. -/
structure State.Later (s s' : State H) : Prop where
  timeline : s.timeline.Later s'.timeline
  trace : s.trace <+: s'.trace
  holdings : s.holdings.length ≤ s'.holdings.length
  ended : ∀ lease, s.Ended lease → s'.Ended lease
  epoch : s'.epoch = s.epoch
  entropy : s'.entropy = s.entropy
  drawn : s.drawn ≤ s'.drawn

namespace State.Later

variable {s s₁ s' : State H}

theorem refl (s : State H) : s.Later s :=
  ⟨.refl _, List.prefix_refl _, Nat.le_refl _, fun _ h => h, rfl, rfl, Nat.le_refl _⟩

theorem trans (h : s.Later s₁) (h' : s₁.Later s') : s.Later s' :=
  ⟨h.timeline.trans h'.timeline, h.trace.trans h'.trace, Nat.le_trans h.holdings h'.holdings,
    fun lease ended => h'.ended lease (h.ended lease ended), h'.epoch.trans h.epoch,
    h'.entropy.trans h.entropy, Nat.le_trans h.drawn h'.drawn⟩

theorem of_timeline {timeline : Timeline} (h : s.timeline.Later timeline) :
    s.Later { s with timeline } :=
  ⟨h, List.prefix_refl _, Nat.le_refl _, fun _ ended => ended, rfl, rfl, Nat.le_refl _⟩

theorem recorded (s : State H) (entry : Instant × Event H.Note) :
    s.Later { s with trace := s.trace ++ [entry] } :=
  ⟨.refl _, List.prefix_append _ _, Nat.le_refl _, fun _ ended => ended, rfl, rfl, Nat.le_refl _⟩

theorem leasing (s : State H) (c : Connection) : s.Later (s.leasing c) := by
  refine ⟨.refl _, List.prefix_refl _, by simp [State.leasing], fun lease ended => ?_, rfl, rfl,
    Nat.le_refl _⟩
  have given := (List.getElem?_eq_some_iff.mp ended).1
  exact (List.getElem?_append_left given).trans ended

/-- Ending a lease ends no other, and revives none. -/
theorem releasing (s : State H) (lease : Lease) : s.Later (s.releasing lease) := by
  refine ⟨.refl _, List.prefix_refl _, by simp [State.releasing], fun other ended => ?_, rfl, rfl,
    Nat.le_refl _⟩
  simp only [Ended, State.releasing, List.getElem?_set]
  split
  · rename_i same
    have given := (List.getElem?_eq_some_iff.mp ended).1
    simp [same, given]
  · exact ended

end State.Later

theorem State.ended_releasing {s : State H} {lease : Lease} (given : lease.id < s.holdings.length) :
    (s.releasing lease).Ended lease := by
  simp [Ended, releasing, given]

theorem Request.perform_later (r : Request H) (s : State H) : s.Later (r.perform s).2 := by
  cases r with
  | cancel scope => exact .of_timeline ⟨Nat.le_refl _, List.subset_cons_self _ _⟩
  | entropy =>
    exact ⟨.refl _, List.prefix_refl _, Nat.le_refl _, fun _ ended => ended, rfl, rfl,
      Nat.le_succ _⟩
  | record e => exact .recorded s _
  | connect store =>
    exact ⟨.refl _, List.prefix_append _ _, Nat.le_refl _, fun _ ended => ended, rfl, rfl,
      Nat.le_refl _⟩
  | openLease c => exact .leasing s c
  | endLease lease => exact .releasing s lease
  | _ => exact ⟨⟨Nat.le_refl _, List.Subset.refl _⟩, List.prefix_refl _, Nat.le_refl _,
      fun _ ended => ended, rfl, rfl, Nat.le_refl _⟩

/-- No program takes anything back. -/
theorem Program.run_later (p : Program H α) (s : State H) : s.Later (p.run s).2 := by
  induction p generalizing s with
  | done a => exact .refl s
  | stop cause => exact .refl s
  | wait length signals next ih =>
    exact (State.Later.of_timeline (.wait s.timeline length signals)).trans (ih _ _)
  | ask r next ih => exact (r.perform_later s).trans (ih _ _)

theorem Program.later_of_run {p : Program H α} {s s' : State H} {outcome : Except Stop α}
    (ran : p.run s = (outcome, s')) : s.Later s' := by
  have later := p.run_later s
  rwa [ran] at later

end SessionKeeper
