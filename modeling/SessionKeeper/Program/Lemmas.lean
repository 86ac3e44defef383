import SessionKeeper.Program.Basic

/-!
Laws of programs: they form a monad, and running two programs in sequence is running the second in
the surroundings that the first one leaves (`run_bind`). A request changes the surroundings as
`Request.perform` says and in no other way (`run_ask`).

`run_bind_inv` takes the run of a sequence apart; every account of what a longer program does is a
chain of its uses. A run that came to an end gives the runs of the parts, and one that stopped did
so in the first part or in the second.
-/

namespace SessionKeeper

namespace Program

variable {H : Host} {α β γ : Type}

@[simp] theorem done_bind (a : α) (f : α → Program H β) : (done a).bind f = f a := rfl

@[simp] theorem stop_bind (cause : Stop) (f : α → Program H β) :
    (stop cause : Program H α).bind f = stop cause := rfl

@[simp] theorem pure_eq_done (a : α) : (pure a : Program H α) = done a := rfl

@[simp] theorem bind_eq_bind (p : Program H α) (f : α → Program H β) : p >>= f = p.bind f := rfl

theorem bind_done (p : Program H α) : p.bind done = p := by
  induction p with
  | done a => rfl
  | stop cause => rfl
  | wait length signals next ih => simp only [bind]; congr 1; funext wake; exact ih wake
  | ask request next ih => simp only [bind]; congr 1; funext answer; exact ih answer

theorem bind_assoc (p : Program H α) (f : α → Program H β) (g : β → Program H γ) :
    (p.bind f).bind g = p.bind fun a => (f a).bind g := by
  induction p with
  | done a => rfl
  | stop cause => rfl
  | wait length signals next ih => simp only [bind]; congr 1; funext wake; exact ih wake
  | ask request next ih => simp only [bind]; congr 1; funext answer; exact ih answer

instance : LawfulMonad (Program H) := LawfulMonad.mk' _
  (fun p => bind_done p)
  (fun _ _ => rfl)
  (fun p f g => bind_assoc p f g)

/-! ## Running -/

@[simp] theorem run_done (a : α) (s : State H) : (done a : Program H α).run s = (.ok a, s) := rfl

@[simp] theorem run_stop (cause : Stop) (s : State H) :
    (stop cause : Program H α).run s = (.error cause, s) := rfl

theorem run_ask (request : Request H) (next : request.Answer → Program H α) (s : State H) :
    (ask request next).run s = (next (request.perform s).1).run (request.perform s).2 := rfl

theorem run_wait (length : Duration) (signals : List Signal) (next : Wake → Program H α)
    (s : State H) :
    (wait length signals next).run s =
      (next (s.timeline.wait length signals).1).run
        { s with timeline := (s.timeline.wait length signals).2 } := rfl

theorem run_bind (p : Program H α) (f : α → Program H β) (s : State H) :
    (p.bind f).run s =
      match p.run s with
      | (.ok a, s') => (f a).run s'
      | (.error cause, s') => (.error cause, s') := by
  induction p generalizing s with
  | done a => rfl
  | stop cause => rfl
  | wait length signals next ih => simp only [bind, run_wait]; exact ih _ _
  | ask request next ih => simp only [bind, run_ask]; exact ih _ _

theorem run_bind_ok {p : Program H α} {s s₁ : State H} {a : α} (h : p.run s = (.ok a, s₁))
    (f : α → Program H β) : (p.bind f).run s = (f a).run s₁ := by
  rw [run_bind, h]

/-- A sequence ran either both parts, or the first one only, and then it stopped there. -/
theorem run_bind_inv {p : Program H α} {f : α → Program H β} {s s' : State H}
    {outcome : Except Stop β} (h : (p.bind f).run s = (outcome, s')) :
    (∃ a s₁, p.run s = (.ok a, s₁) ∧ (f a).run s₁ = (outcome, s')) ∨
      ∃ cause, p.run s = (.error cause, s') ∧ outcome = .error cause := by
  rw [run_bind] at h
  rcases hp : p.run s with ⟨_ | a, s₁⟩
  · rw [hp] at h
    cases h
    exact .inr ⟨_, rfl, rfl⟩
  · rw [hp] at h
    exact .inl ⟨a, s₁, rfl, h⟩

/-- A sequence that gave a value ran both parts. -/
theorem run_bind_ok_inv {p : Program H α} {f : α → Program H β} {s s' : State H} {b : β}
    (h : (p.bind f).run s = (.ok b, s')) :
    ∃ a s₁, p.run s = (.ok a, s₁) ∧ (f a).run s₁ = (.ok b, s') := by
  rcases run_bind_inv h with both | ⟨cause, -, stopped⟩
  · exact both
  · cases stopped

/-- A step that was answered failed, and that was the answer, or gave a value to go on with. -/
theorem run_step_inv {w : Work H α} {f : α → Work H β} {s s' : State H} {answer : Except Failure β}
    (h : (w >>= f).run.run s = (.ok answer, s')) :
    (∃ failure, w.run.run s = (.ok (.error failure), s') ∧ answer = .error failure) ∨
      ∃ a s₁, w.run.run s = (.ok (.ok a), s₁) ∧ (f a).run.run s₁ = (.ok answer, s') := by
  rw [ExceptT.run_bind] at h
  obtain ⟨first, s₁, hw, h⟩ := run_bind_ok_inv h
  cases first with
  | error failure =>
    cases h
    exact .inl ⟨failure, hw, rfl⟩
  | ok a => exact .inr ⟨a, s₁, hw, h⟩

/-- Catching panics makes a value of each, and leaves everything else alone. -/
theorem run_catchPanic (p : Program H α) (s : State H) :
    p.catchPanic.run s =
      match p.run s with
      | (.ok a, s') => (.ok (.ok a), s')
      | (.error (.panic message), s') => (.ok (.error message), s')
      | (.error .dropped, s') => (.error .dropped, s') := by
  induction p generalizing s with
  | done a => rfl
  | stop cause => cases cause <;> rfl
  | wait length signals next ih => simp only [catchPanic, run_wait]; exact ih _ _
  | ask request next ih => simp only [catchPanic, run_ask]; exact ih _ _

/-- The outcome of a program whose panic was caught. -/
def uncaught : Except String α → Except Stop α
  | .ok a => .ok a
  | .error message => .error (.panic message)

theorem uncaught_ne_dropped (verdict : Except String α) :
    uncaught verdict ≠ .error .dropped := by
  cases verdict <;> simp [uncaught]

theorem run_of_catchPanic {p : Program H α} {s s' : State H} {verdict : Except String α}
    (h : p.catchPanic.run s = (.ok verdict, s')) : p.run s = (uncaught verdict, s') := by
  rw [run_catchPanic] at h
  rcases hp : p.run s with ⟨(message | _) | a, s₁⟩
  · rw [hp] at h
    cases h
    rfl
  · rw [hp] at h
    cases h
  · rw [hp] at h
    cases h
    rfl

end Program

/-! ## Requests -/

namespace State

variable {H : Host}

/-- The surroundings after an event was recorded. -/
def noted (s : State H) (e : Event H.Note) : State H :=
  { s with trace := s.trace ++ [(s.timeline.now, e)] }

/-- The surroundings after a record was logged. -/
def logged (s : State H) (level : LogLevel) (text : String) : State H :=
  { s with logs := s.logs ++ [⟨level, text⟩] }

/-- The surroundings with other log records. -/
def relogged (s : State H) (logs : List LogRecord) : State H := { s with logs }

/-- The surroundings after a lease was given for a connection. -/
def leasing (s : State H) (c : Connection) : State H :=
  { s with holdings := s.holdings ++ [⟨some c, false⟩] }

/-- The surroundings after a lease has ended. -/
def releasing (s : State H) (lease : Lease) : State H :=
  { s with holdings := s.holdings.set lease.id ⟨none, true⟩ }

/-- From `s` to `s'` time may have passed, and records may have been logged. -/
structure Quiet (s s' : State H) : Prop where
  connections : s'.connections = s.connections
  holdings : s'.holdings = s.holdings
  trace : s'.trace = s.trace

theorem Quiet.logged (s : State H) (level : LogLevel) (text : String) :
    Quiet s (s.logged level text) := ⟨rfl, rfl, rfl⟩

end State

namespace Program

variable {H : Host} (s : State H)

@[simp] theorem run_status (signal : Signal) :
    (status signal).run s = (.ok (s.timeline.status signal), s) := rfl

@[simp] theorem run_record (e : Event H.Note) : (record e).run s = (.ok (), s.noted e) := rfl

@[simp] theorem run_log (level : LogLevel) (text : String) :
    (log level text).run s = (.ok (), s.logged level text) := rfl

@[simp] theorem run_openLease (c : Connection) :
    (openLease c).run s = (.ok ⟨s.holdings.length⟩, s.leasing c) := rfl

@[simp] theorem run_endLease (lease : Lease) :
    (endLease lease).run s = (.ok (s.connectionOf lease), s.releasing lease) := rfl

@[simp] theorem run_leaseEnded (lease : Lease) :
    (leaseEnded lease).run s = (.ok (s.holdings[lease.id]?.any (·.ended)), s) := rfl

@[simp] theorem run_borrow (lease : Lease) :
    (borrow lease).run s = (.ok (s.connectionOf lease), s) := rfl

end Program

end SessionKeeper
