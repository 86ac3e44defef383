import SessionKeeper.Proofs.Program.Along
import SessionKeeper.Proofs.Sql.Executor

/-!
How often a statement is executed that a query sends: once, or not at all if the query fails, even
where the context is done before the reply (`Server.send_along`). A query in a transaction is
executed on the connection of the transaction, every other one on the pool (`Executor.query_asks`,
`Executor.pool_account`).

A query that fails leaves it open whether its statement was executed: the reply may have been an
error, or may not have been waited for. `PoolTo` keeps the two apart from the query that was
answered.
-/

namespace SessionKeeper

variable {H : Host} {α : Type}

theorem Program.forM_along {γ : Type} {f : γ → Program H Unit}
    (silent : ∀ x h, (f x).Along h fun es h' => es = [] ∧ h' = h) (xs : List γ) (h : H.State) :
    (xs.forM f).Along h fun es h' => es = [] ∧ h' = h := by
  induction xs with
  | nil => exact ⟨rfl, rfl⟩
  | cons x xs ih =>
    refine (silent x h).bind (fun _ _ => id) ?_
    rintro _ _ _ ⟨rfl, rfl⟩
    exact ih

namespace Server

variable (server : Server H) (connection : Option Connection) (statement : Statement) (h : H.State)

/-- What is recorded where a statement is executed, and the state that it leaves. -/
def Executes (es : List (Event H.Note)) (h' : H.State) : Prop :=
  es = [.executed connection statement (server.respond connection statement h).1.reply] ∧
    h' = (server.respond connection statement h).2

/-- The statement is executed, or nothing happens. -/
def MayExecute (es : List (Event H.Note)) (h' : H.State) : Prop :=
  es = [] ∧ h' = h ∨ server.Executes connection statement h es h'

theorem transmit_along : (server.transmit connection statement).run.Along h
    (server.Executes connection statement h) := by
  have canceling := Program.forM_along (H := H) (f := Program.cancel)
    (fun _ _ => fun _ => ⟨rfl, rfl⟩) (server.respond connection statement h).1.cancels
    (server.respond connection statement h).2
  intro recorded
  refine canceling.bind (fun es h' => ?_) fun _ es h' => ?_
  · rintro ⟨rfl, rfl⟩
    exact ⟨rfl, rfl⟩
  · rintro ⟨rfl, rfl⟩ wake
    cases wake with
    | elapsed => exact ⟨rfl, rfl⟩
    | fired place reason => exact ⟨rfl, rfl⟩
    | dropped =>
      cases connection with
      | none => exact ⟨rfl, rfl⟩
      | some c =>
        simp only
        split
        · exact fun _ => ⟨rfl, rfl⟩
        · exact ⟨rfl, rfl⟩

theorem send_along : (server.send connection statement).run.Along h
    (server.MayExecute connection statement h) := by
  have transmitting : (server.transmit connection statement).run.Along h
      (server.MayExecute connection statement h) :=
    (server.transmit_along connection statement h).mono fun _ _ => .inr
  cases connection with
  | none => exact transmitting
  | some c =>
    intro unread
    cases unread with
    | some error => exact .inl ⟨rfl, rfl⟩
    | none => exact transmitting

theorem discard_along (c : Connection) : (server.discard c).Along h
    (server.Executes (some c) rollingBack h) := by
  intro recorded now
  refine (Program.forM_along (H := H) (f := fun scope => Program.cancelAt scope now)
    (fun _ _ => fun _ => ⟨rfl, rfl⟩) _ _).mono ?_
  rintro _ _ ⟨rfl, rfl⟩
  exact ⟨rfl, rfl⟩

end Server

namespace Executor

variable {e : Executor H} {statement : Statement} {read : Answer → Except DriverFailure α}

/-- A query in a transaction is executed on its connection, once or not at all. -/
theorem query_asks {handle : Handle} (target : e.target = some handle) {s s' : State H}
    {outcome : Except Stop (Except Failure α)}
    (ran : (e.query statement read).run.run s = (outcome, s')) :
    s'.trace = s.trace ∨ ∃ c time reply, s.connectionOf handle.lease = some c ∧
      s'.trace = s.trace ++ [(time, .executed (some c) statement reply)] := by
  obtain ⟨answer, s₁, answering, account⟩ := e.query_run statement read s
  rw [ran] at answering
  cases answering
  rcases account.recorded with nothing | ⟨connection, reply, route, executed⟩
  · exact .inl nothing
  · rw [route_of_handle target] at route
    obtain ⟨c, lease, rfl⟩ := Option.map_eq_some_iff.mp route
    exact .inr ⟨c, _, reply, lease, executed⟩

/-- What running a statement on the pool comes to. -/
inductive PoolTo (statement : Statement) (read : Answer → Except DriverFailure α) (s s' : State H) :
    Except Failure α → Prop
  | replied (reply : Reply) :
      s'.trace = s.trace ++ [(s.timeline.now, .executed none statement reply)] →
      PoolTo statement read s s' ((reply.bind read).mapError .ofDriver)
  /-- The context was done before the reply, and the statement may have been executed. -/
  | interrupted (reason : Cancellation) : (s'.trace = s.trace ∨
      ∃ time reply, s'.trace = s.trace ++ [(time, .executed none statement reply)]) →
      PoolTo statement read s s' (.error (.canceled reason))

theorem pool_account (target : e.target = none) {answer : Except Failure α} {s s' : State H}
    (ran : (e.query statement read).run.run s = (.ok answer, s')) :
    PoolTo statement read s s' answer := by
  have pool := route_of_pool target s
  cases answersTo_of_run ran with
  | done status => exact .interrupted _ (.inl rfl)
  | ended live route =>
    rw [pool] at route
    cases route
  | unread live route left trace host timeline =>
    rw [pool] at route
    cases route
  | replied live route clear unfired executed =>
    rw [pool] at route
    cases route
    exact .replied _ executed.trace
  | interrupted live route clear fires executed done =>
    rw [pool] at route
    cases route
    exact .interrupted _ (.inr ⟨_, _, executed.trace⟩)

end Executor

end SessionKeeper
