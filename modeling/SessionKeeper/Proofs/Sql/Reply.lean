import SessionKeeper.Proofs.Program.Dropped
import SessionKeeper.Proofs.Sql.Exchange

/-!
Replies that are waited for in a race against a signal. The statement is executed in any case; it is
replied to if the signal is not done by the time of the reply (`Server.race_send_of_unfired`), and
abandoned when the signal is first done otherwise (`Server.race_send_of_fires`). An error left
unread on the connection is the one thing that keeps the statement from being sent
(`Server.race_send_of_unread`).

The reply is due after the delay that the server chose, and what it cancels is canceled before the
wait begins, so both are taken into account when the signal is looked at (`Server.due`). A reply at
the very instant at which the signal is done is abandoned, as a race prefers the signal.
-/

namespace SessionKeeper

variable {H : Host} {α : Type}

theorem Timeline.now_cancels (scopes : List Scope) (tl : Timeline) :
    (scopes.foldl cancel tl).now = tl.now := by
  induction scopes generalizing tl with
  | nil => rfl
  | cons scope scopes ih => exact ih _

namespace Program

theorem race_takeUnread_run (signal : Signal) (c : Connection)
    (f : Option DriverFailure → Program H α) (s : State H) :
    (((takeUnread c).bind f).race signal).run s = ((f (s.unreadOn c)).race signal).run
      { s with unread := s.unread.filter (·.1 != c) } := rfl

theorem run_forM_cancel (scopes : List Scope) (s : State H) :
    (scopes.forM Program.cancel).run s =
      (.ok (), { s with timeline := scopes.foldl Timeline.cancel s.timeline }) := by
  induction scopes generalizing s with
  | nil => rfl
  | cons scope scopes ih => exact ih _

end Program

namespace Server

variable (server : Server H) (connection : Option Connection) (statement : Statement)

/-- What the server does with a statement in `s`. -/
def response (s : State H) : Response := (server.respond connection statement s.host).1

/-- The timeline on which the reply to a statement is waited for. -/
def awaited (s : State H) : Timeline :=
  (server.response connection statement s).cancels.foldl Timeline.cancel s.timeline

/-- When the reply to a statement is due. -/
def due (s : State H) : Instant :=
  s.timeline.now + (server.response connection statement s).delay.toNanos

/-- The signal is first done at `first`, and by then the reply to a statement has not come. At a tie
the signal wins. -/
def FiresAt (signal : Signal) (s : State H) (first : Instant) : Prop :=
  first ≤ server.due connection statement s ∧
    (server.awaited connection statement s).firing? signal = some first

/-- From `s` on, the server executed the statement and nothing else, and `time` came. -/
structure Executed (s : State H) (time : Instant) (s' : State H) : Prop where
  trace : s'.trace = s.trace ++ [(s.timeline.now,
    .executed connection statement (server.response connection statement s).reply)]
  host : s'.host = (server.respond connection statement s.host).2
  timeline : s'.timeline = (server.awaited connection statement s).advance time

/-- What is done when the wait for a reply ends. -/
def receive (reply : Reply) : Wake → Program H (Except Failure Answer)
  | .dropped => do
    match connection, reply with
    | some c, .error error => .leaveUnread c error
    | _, _ => pure ()
    .stop .dropped
  | _ => .done (reply.mapError Failure.ofDriver)

theorem transmit_eq : (server.transmit connection statement).run =
    (Program.modifyGet (server.respond connection statement)).bind fun response =>
      (Program.record (.executed connection statement response.reply)).bind fun _ =>
        (response.cancels.forM Program.cancel).bind fun _ =>
          .wait response.delay [] (receive connection response.reply) := rfl

/-- Whoever drops the wait leaves nothing behind but an error on the connection. -/
theorem settle_receive (reply : Reply) (s : State H) :
    ∃ unread, (receive connection reply .dropped).settle.run s = (.ok (), { s with unread }) := by
  cases connection with
  | none => exact ⟨s.unread, rfl⟩
  | some c =>
    cases reply with
    | ok answer => exact ⟨s.unread, rfl⟩
    | error error => exact ⟨(c, error) :: s.unread, rfl⟩

/-- The surroundings once the server has executed the statement, with the reply to come. -/
def executing (s : State H) : State H :=
  { s with
    host := (server.respond connection statement s.host).2
    trace := s.trace ++ [(s.timeline.now,
      .executed connection statement (server.response connection statement s).reply)]
    timeline := server.awaited connection statement s }

variable {server connection statement} {signal : Signal} {s : State H}

/-- A statement that is transmitted in a race is executed, and only the wait is part of the race. -/
theorem race_transmit_run :
    ((server.transmit connection statement).run.race signal).run s =
      ((Program.wait (server.response connection statement s).delay []
        (receive connection (server.response connection statement s).reply)).race signal).run
          (server.executing connection statement s) := by
  rw [transmit_eq]
  change (((List.forM _ Program.cancel).bind fun _ => _).race signal).run _ = _
  have prompt : ∀ scope, (Program.cancel scope : Program H Unit).Prompt := fun _ _ => trivial
  -- Nothing that is canceled interrupts the canceling itself.
  rw [(Program.Prompt.forM prompt _).race_bind, Program.run_bind_ok (Program.run_forM_cancel _ _)]
  rfl

theorem executing_timeline : (server.executing connection statement s).timeline =
    server.awaited connection statement s := rfl

theorem due_eq : server.due connection statement s =
    (server.awaited connection statement s).now +
      (server.response connection statement s).delay.toNanos := by
  rw [awaited, Timeline.now_cancels, due]

/-- The reply wins the race if the signal is not done by the time of it. -/
theorem race_transmit_of_unfired
    (unfired : ¬ ∃ first, server.FiresAt connection statement signal s first) :
    ∃ s', ((server.transmit connection statement).run.race signal).run s = (.ok (.ok
        ((server.response connection statement s).reply.mapError .ofDriver)), s') ∧
      server.Executed connection statement s (server.due connection statement s) s' := by
  simp only [FiresAt, due_eq] at unfired
  rw [race_transmit_run, Program.race, Program.run_wait, executing_timeline,
    Timeline.wait_elapsed unfired, due_eq]
  exact ⟨_, rfl, rfl, rfl, rfl⟩

/-- Otherwise the signal wins it when it is first done. -/
theorem race_transmit_of_fires {first : Instant}
    (fires : server.FiresAt connection statement signal s first) :
    ∃ reason s', ((server.transmit connection statement).run.race signal).run s =
        (.ok (.error reason), s') ∧
      server.Executed connection statement s first s' ∧
      s'.timeline.DoneFor signal reason := by
  obtain ⟨le, firing⟩ := fires
  rw [due_eq] at le
  obtain ⟨reason, _, waiting, told, -⟩ := Timeline.wait_fired firing le
  rw [race_transmit_run, Program.race, Program.run_wait, executing_timeline, waiting]
  obtain ⟨unread, settled⟩ := settle_receive connection
    (server.response connection statement s).reply
    { server.executing connection statement s with
      timeline := (server.awaited connection statement s).advance first }
  exact ⟨reason, _, Program.run_bind_ok settled _, ⟨rfl, rfl, rfl⟩,
    Timeline.doneFor_of_told told⟩

theorem race_send_of_clear (clear : ∀ c, connection = some c → s.unreadOn c = none) :
    ∃ unread, ((server.send connection statement).run.race signal).run s =
      ((server.transmit connection statement).run.race signal).run { s with unread } := by
  cases connection with
  | none => exact ⟨s.unread, rfl⟩
  | some c =>
    refine ⟨s.unread.filter (·.1 != c), ?_⟩
    simp only [send, ExceptT.run_mk, Program.bind_eq_bind]
    rw [Program.race_takeUnread_run, clear c rfl]

/-- What is sent in a race is replied to if the signal is not done by the time of the reply, -/
theorem race_send_of_unfired (clear : ∀ c, connection = some c → s.unreadOn c = none)
    (unfired : ¬ ∃ first, server.FiresAt connection statement signal s first) :
    ∃ s', ((server.send connection statement).run.race signal).run s =
        (.ok (.ok ((server.response connection statement s).reply.mapError .ofDriver)), s') ∧
      server.Executed connection statement s (server.due connection statement s) s' := by
  obtain ⟨unread, sending⟩ := race_send_of_clear clear
  obtain ⟨s', raced, executed⟩ := race_transmit_of_unfired (s := { s with unread }) unfired
  exact ⟨s', sending.trans raced, executed.trace, executed.host, executed.timeline⟩

/-- and otherwise it is abandoned when the signal is first done. -/
theorem race_send_of_fires {first : Instant}
    (clear : ∀ c, connection = some c → s.unreadOn c = none)
    (fires : server.FiresAt connection statement signal s first) :
    ∃ reason s', ((server.send connection statement).run.race signal).run s =
        (.ok (.error reason), s') ∧
      server.Executed connection statement s first s' ∧
      s'.timeline.DoneFor signal reason := by
  obtain ⟨unread, sending⟩ := race_send_of_clear clear
  obtain ⟨reason, s', raced, executed, done⟩ := race_transmit_of_fires (s := { s with unread }) fires
  exact ⟨reason, s', sending.trans raced, ⟨executed.trace, executed.host, executed.timeline⟩, done⟩

theorem race_send_of_unread {c : Connection} {error : DriverFailure}
    (unread : s.unreadOn c = some error) :
    ((server.send (some c) statement).run.race signal).run s =
      (.ok (.ok (.error (.ofDriver error))),
        { s with unread := s.unread.filter (·.1 != c) }) := by
  simp only [send, ExceptT.run_mk, Program.bind_eq_bind]
  rw [Program.race_takeUnread_run, unread]
  rfl

end Server

end SessionKeeper
