import SessionKeeper.Proofs.Program.Later
import SessionKeeper.Proofs.Program.Race
import SessionKeeper.Proofs.Transaction.Account
import SessionKeeper.Sql.Server

/-!
Exchanges: the statements that were sent on a connection and the replies to them, as the trace of a
run tells of them (`sent`). An account of each thing that a server is asked for says which exchanges
it adds. An error that an abandoned statement left unread is the one thing that can stand in the way
of an exchange, and one that was awaited leaves none behind (`Server.SendTo`).

Here statements are waited for to the end, as they are within an attempt that has begun; how they
turn out in a race is told elsewhere. `Server.EndsWith` is what is sent to end a transaction: one
statement, and where that fails one more that discards it.

Correspondence: `commit` and `rollback` of a backend ↔ `Server.finish` with `COMMIT` or `ROLLBACK`,
the drop of a transaction that was not ended ↔ `Server.discard`.
-/

namespace SessionKeeper

variable {H : Host} {N : Type} {α : Type}

/-- A statement and the reply to it. -/
abbrev Exchange := Statement × Reply

/-- The exchange on `c` that an event is. -/
def Event.exchange? (c : Connection) : Event N → Option Exchange
  | .executed connection statement reply =>
    if connection = some c then some (statement, reply) else none
  | _ => none

theorem Event.connection_of_exchange {c : Connection} {e : Event N} {exchange : Exchange}
    (h : e.exchange? c = some exchange) : e.connection? = some c := by
  cases e with
  | executed connection statement reply =>
    simp only [exchange?] at h
    split at h
    · assumption
    · cases h
  | _ => cases h

/-- The event that an exchange on `c` is. -/
def Exchange.event (c : Connection) (exchange : Exchange) : Event N :=
  .executed (some c) exchange.1 exchange.2

/-- The exchanges on `c` in a trace, in order. -/
def sent (c : Connection) (trace : Trace N) : List Exchange :=
  trace.filterMap fun e => e.2.exchange? c

section Sent

variable {c : Connection} {trace later : Trace N}

@[simp] theorem sent_append : sent c (trace ++ later) = sent c trace ++ sent c later :=
  List.filterMap_append

@[simp] theorem sent_nil : sent c ([] : Trace N) = [] := rfl

@[simp] theorem sent_executed (time : Instant) (statement : Statement) (reply : Reply) :
    sent c ((time, .executed (some c) statement reply) :: trace) =
      (statement, reply) :: sent c trace := by
  simp [sent, Event.exchange?]

theorem sent_eq_nil (h : ∀ e ∈ trace, e.2.exchange? c = none) : sent c trace = [] :=
  List.filterMap_eq_nil_iff.mpr h

theorem sent_of_events {exchanges : List Exchange}
    (h : trace.map (·.2) = exchanges.map (Exchange.event c)) : sent c trace = exchanges := by
  have exchanged : ∀ exchange, (Exchange.event c exchange : Event N).exchange? c =
      some exchange := fun exchange => if_pos rfl
  have mapped : sent c trace = (trace.map (·.2)).filterMap (Event.exchange? c) := by
    rw [List.filterMap_map]
    rfl
  rw [mapped, h, List.filterMap_map]
  simp [exchanged]

theorem sent_noted {s : State H} {e : Event H.Note} (h : e.exchange? c = none) :
    sent c (s.noted e).trace = sent c s.trace := by
  simp [sent, State.noted, h]

theorem State.Sound.sent_eq_nil {s : State H} (sound : s.Sound) (new : c ∉ s.connections) :
    sent c s.trace = [] := by
  apply SessionKeeper.sent_eq_nil
  intro e mem
  refine Option.eq_none_iff_forall_ne_some.mpr fun exchange h => new ?_
  exact sound.traced e mem c (Event.connection_of_exchange h)

end Sent

/-- What was recorded in the course of a run of the unit of work. -/
def WorkRun.added (r : WorkRun H α) : Trace H.Note := r.after.trace.drop r.before.trace.length

theorem WorkRun.added_eq {r : WorkRun H α} {added : Trace H.Note}
    (h : r.after.trace = r.before.trace ++ added) : r.added = added := by
  rw [WorkRun.added, h, List.drop_left]

theorem WorkRun.added_as {r : WorkRun H α} {Q : Event H.Note → Prop}
    (h : r.before.Adds Q r.after) : ∀ e ∈ r.added, Q e.2 := by
  obtain ⟨added, trace, as⟩ := h
  rwa [r.added_eq trace]

/-- The exchanges on `c` in the course of a run. -/
def WorkRun.sent (r : WorkRun H α) (c : Connection) : List Exchange :=
  SessionKeeper.sent c r.added

namespace Store.Runs

variable {store : Store H} {handle : Handle} {begun : Connection} {work : UnitOfWork H α}
  {ctx : RequestContext} {restarts : Nat} {s : State H} {r : WorkRun H α}

theorem trace (runs : store.Runs handle begun work ctx restarts s r) :
    r.after.trace = r.before.trace ++ r.added := by
  obtain ⟨added, added_eq⟩ := (Program.later_of_run runs.ran).trace
  rw [WorkRun.added, ← added_eq, List.drop_left]

theorem sent_after (runs : store.Runs handle begun work ctx restarts s r) (c : Connection) :
    sent c r.after.trace = sent c s.trace ++ r.sent c := by
  rw [runs.trace, sent_append, runs.before, sent_noted rfl, WorkRun.sent]

end Store.Runs

/-- The error left unread on a connection. -/
def State.unreadOn (s : State H) (c : Connection) : Option DriverFailure :=
  (s.unread.find? (·.1 == c)).map (·.2)

theorem Program.run_takeUnread (c : Connection) (s : State H) :
    ∃ s₁, (Program.takeUnread c).run s = (.ok (s.unreadOn c), s₁) ∧ s₁.trace = s.trace ∧
      s₁.timeline = s.timeline ∧ s₁.unreadOn c = none := by
  refine ⟨_, rfl, rfl, rfl, ?_⟩
  simp [State.unreadOn]

theorem Program.run_modifyGet (f : H.State → α × H.State) (s : State H) :
    (Program.modifyGet f).run s = (.ok (f s.host).1, { s with host := (f s.host).2 }) := rfl

theorem Program.run_cancels {f : Scope → Program H Unit}
    (h : ∀ scope s, ∃ timeline, (f scope).run s = (.ok (), { s with timeline }))
    (scopes : List Scope) (s : State H) :
    ∃ timeline, (scopes.forM f).run s = (.ok (), { s with timeline }) := by
  induction scopes generalizing s with
  | nil => exact ⟨s.timeline, rfl⟩
  | cons scope scopes ih =>
    obtain ⟨timeline, ran⟩ := h scope s
    obtain ⟨timeline', rest⟩ := ih { s with timeline }
    exact ⟨timeline', (Program.run_bind_ok ran _).trans rest⟩

namespace Server

variable {server : Server H} {c : Connection} {statement : Statement} {s s' : State H}

def beginning : Statement := ⟨"BEGIN", []⟩

def committing : Statement := ⟨"COMMIT", []⟩

def rollingBack : Statement := ⟨"ROLLBACK", []⟩

/-! ## Patience -/

theorem transmit_patient (connection : Option Connection) :
    (server.transmit connection statement).run.Patient := by
  intro state _ _
  have canceling : ∀ scope, (Program.cancel scope : Program H Unit).Patient := fun _ _ => trivial
  refine (Program.Patient.forM canceling _).bind fun _ => ⟨rfl, fun wake => ?_⟩
  cases wake with
  | elapsed => trivial
  | fired place reason => trivial
  | dropped =>
    cases connection with
    | none => trivial
    | some c =>
      simp only
      split
      · exact fun _ => trivial
      · trivial

theorem send_patient (connection : Option Connection) :
    (server.send connection statement).run.Patient := by
  cases connection with
  | none => exact server.transmit_patient none
  | some c =>
    intro unread
    cases unread with
    | some error => trivial
    | none => exact server.transmit_patient (some c)

theorem sendAll_patient (connection : Option Connection) (statements : List Statement) :
    (server.sendAll connection statements).run.Patient := by
  induction statements with
  | nil => trivial
  | cons statement rest ih =>
    apply (server.send_patient connection).bind
    intro answer
    cases answer with
    | error failure => trivial
    | ok answer => exact ih

theorem discard_patient (c : Connection) : (server.discard c).Patient := by
  intro state _ _ now
  have canceling : ∀ scope, (Program.cancelAt scope now : Program H Unit).Patient :=
    fun _ _ => trivial
  exact .forM canceling _

theorem begin_patient (store : String) (setUp : List Statement) :
    (server.begin store setUp).run.Patient := by
  refine fun c => (server.send_patient (some c)).bind fun answer => ?_
  cases answer with
  | error failure => trivial
  | ok begun =>
    refine ((server.sendAll_patient (some c) setUp).onDrop (server.discard_patient c)).bind ?_
    intro answer
    cases answer with
    | error failure => exact (server.discard_patient c).bind fun _ => trivial
    | ok done => trivial

/-! ## Sending -/

/-- What sending a statement on `c` comes to. -/
inductive SendTo (c : Connection) (statement : Statement) (s : State H) :
    Except Failure Answer → State H → Prop
  | answered {answer : Answer} {s' : State H} : s.unreadOn c = none →
      s'.trace = s.trace ++ [(s.timeline.now, .executed (some c) statement (.ok answer))] →
      s'.unreadOn c = none → SendTo c statement s (.ok answer) s'
  | refused {error : DriverFailure} {s' : State H} : s.unreadOn c = none →
      s'.trace = s.trace ++ [(s.timeline.now, .executed (some c) statement (.error error))] →
      s'.unreadOn c = none → SendTo c statement s (.error (.ofDriver error)) s'
  /-- The error left unread was taken for the reply, and nothing was sent. -/
  | unread {error : DriverFailure} {s' : State H} : s.unreadOn c = some error →
      s'.trace = s.trace → s'.unreadOn c = none → SendTo c statement s (.error (.ofDriver error)) s'

/-- What is transmitted is recorded, and then the reply is waited for. -/
theorem transmit_run (server : Server H) (connection : Option Connection) (statement : Statement)
    (s : State H) : ∃ reply s', (server.transmit connection statement).run.run s =
        (.ok (reply.mapError Failure.ofDriver), s') ∧ s'.unread = s.unread ∧
      s'.trace = s.trace ++ [(s.timeline.now, .executed connection statement reply)] := by
  let response := (server.respond connection statement s.host).1
  let s₁ : State H := { s with host := (server.respond connection statement s.host).2 }
  let s₂ := s₁.noted (.executed connection statement response.reply)
  obtain ⟨timeline, canceled⟩ := Program.run_cancels (H := H) (f := Program.cancel)
    (fun _ _ => ⟨_, rfl⟩) response.cancels s₂
  refine ⟨response.reply,
    { s₂ with timeline := (timeline.wait response.delay []).2 }, ?_, rfl, rfl⟩
  unfold transmit
  simp only [ExceptT.run_mk, Program.bind_eq_bind]
  rw [Program.run_bind_ok (Program.run_modifyGet _ s), Program.run_bind_ok (Program.run_record s₁ _),
    Program.run_bind_ok canceled]
  rfl

theorem send_account {outcome : Except Stop (Except Failure Answer)}
    (ran : (server.send (some c) statement).run.run s = (outcome, s')) :
    ∃ answer, outcome = .ok answer ∧ SendTo c statement s answer s' := by
  unfold send at ran
  simp only [ExceptT.run_mk, Program.bind_eq_bind] at ran
  obtain ⟨s₁, taken, trace, timeline, read⟩ := Program.run_takeUnread c s
  rw [Program.run_bind_ok taken] at ran
  cases hunread : s.unreadOn c with
  | some error =>
    rw [hunread] at ran
    cases ran
    exact ⟨_, rfl, .unread hunread trace read⟩
  | none =>
    rw [hunread] at ran
    obtain ⟨reply, s₂, transmitted, unread, executed⟩ := server.transmit_run (some c) statement s₁
    rw [transmitted] at ran
    cases ran
    rw [trace, timeline] at executed
    rw [State.unreadOn, ← unread] at read
    cases reply with
    | ok answer => exact ⟨_, rfl, .answered hunread executed read⟩
    | error error => exact ⟨_, rfl, .refused hunread executed read⟩

theorem discard_run (server : Server H) (c : Connection) (s : State H) :
    ∃ reply s', (server.discard c).run s = (.ok (), s') ∧
      s'.trace = s.trace ++ [(s.timeline.now, .executed (some c) rollingBack reply)] := by
  let response := (server.respond (some c) rollingBack s.host).1
  let s₁ : State H := { s with host := (server.respond (some c) rollingBack s.host).2 }
  let s₂ := s₁.noted (.executed (some c) rollingBack response.reply)
  obtain ⟨timeline, canceled⟩ := Program.run_cancels (H := H)
    (f := fun scope => Program.cancelAt scope s₂.timeline.now) (fun _ _ => ⟨_, rfl⟩)
    response.cancels s₂
  exact ⟨response.reply, { s₂ with timeline }, canceled, rfl⟩

/-- What is sent on a connection to end its transaction with a statement, given the error left
unread on it, and what the end comes to. An end that fails makes the transaction be discarded. -/
inductive EndsWith (statement : Statement) :
    Option DriverFailure → Except Failure Unit → List Exchange → Prop
  | answered (answer : Answer) : EndsWith statement none (.ok ()) [(statement, .ok answer)]
  | refused (error : DriverFailure) (discarded : Reply) :
      EndsWith statement none (.error (.ofDriver error))
        [(statement, .error error), (rollingBack, discarded)]
  | unread (error : DriverFailure) (discarded : Reply) :
      EndsWith statement (some error) (.error (.ofDriver error)) [(rollingBack, discarded)]

theorem finish_account {answer : Except Failure Unit}
    (ran : (server.finish statement c).run.run s = (.ok answer, s')) :
    ∃ exchanges added, EndsWith statement (s.unreadOn c) answer exchanges ∧
      s'.trace = s.trace ++ added ∧ added.map (·.2) = exchanges.map (Exchange.event c) := by
  unfold finish at ran
  simp only [ExceptT.run_mk, Program.bind_eq_bind] at ran
  obtain ⟨reply, s₁, sending, ran⟩ := Program.run_bind_ok_inv ran
  obtain ⟨reply, replied, sends⟩ := send_account sending
  cases replied
  cases sends with
  | @answered reply _ unread executed read =>
    cases ran
    rw [unread]
    exact ⟨_, _, .answered reply, executed, rfl⟩
  | @refused error _ unread executed read =>
    obtain ⟨discarded, s₂, discarding, trace⟩ := server.discard_run c s₁
    rw [Program.run_bind_ok discarding] at ran
    cases ran
    rw [unread, trace, executed, List.append_assoc]
    exact ⟨_, _, .refused error discarded, rfl, rfl⟩
  | @unread error _ unread idle read =>
    obtain ⟨discarded, s₂, discarding, trace⟩ := server.discard_run c s₁
    rw [Program.run_bind_ok discarding] at ran
    cases ran
    rw [unread, trace, idle]
    exact ⟨_, _, .unread error discarded, rfl, rfl⟩

theorem sendAll_singleton (server : Server H) (connection : Option Connection)
    (statement : Statement) : (server.sendAll connection [statement]).run =
      (server.send connection statement).run.bind fun
        | .error failure => .done (.error failure)
        | .ok _ => .done (.ok ()) := rfl

theorem sendAll_singleton_account {outcome : Except Stop (Except Failure Unit)}
    (ran : (server.sendAll (some c) [statement]).run.run s = (outcome, s')) :
    ∃ answer, outcome = .ok (answer.map fun _ => ()) ∧ SendTo c statement s answer s' := by
  rw [sendAll_singleton] at ran
  rcases Program.run_bind_inv ran with ⟨answer, s₁, sending, ran⟩ | ⟨cause, stopping, -⟩
  · obtain ⟨answer, answered, sends⟩ := send_account sending
    cases answered
    cases answer with
    | error failure =>
      cases ran
      exact ⟨_, rfl, sends⟩
    | ok answer =>
      cases ran
      exact ⟨_, rfl, sends⟩
  · obtain ⟨answer, answered, -⟩ := send_account stopping
    cases answered

/-- The statements were sent, in this order, and none was refused. -/
structure Agreed (statements : List Statement) (exchanges : List Exchange) : Prop where
  sent : exchanges.map (·.1) = statements
  replies : ∀ x ∈ exchanges, ∃ answer, x.2 = .ok answer

theorem Agreed.cons {rest : List Statement} {exchanges : List Exchange} (answer : Answer)
    (agreed : Agreed rest exchanges) :
    Agreed (statement :: rest) ((statement, .ok answer) :: exchanges) :=
  ⟨congrArg _ agreed.sent, List.forall_mem_cons.mpr ⟨⟨answer, rfl⟩, agreed.replies⟩⟩

theorem Agreed.pair {other : Statement} {exchanges : List Exchange}
    (agreed : Agreed [statement, other] exchanges) :
    ∃ first second, exchanges = [(statement, .ok first), (other, .ok second)] := by
  obtain ⟨⟨_, reply⟩, rest, rfl, rfl, rest_sent⟩ := List.map_eq_cons_iff.mp agreed.sent
  obtain ⟨⟨_, reply'⟩, none, rfl, rfl, none_sent⟩ := List.map_eq_cons_iff.mp rest_sent
  obtain rfl := List.map_eq_nil_iff.mp none_sent
  obtain ⟨first, rfl⟩ := agreed.replies _ List.mem_cons_self
  obtain ⟨second, rfl⟩ := agreed.replies _ (List.mem_cons_of_mem _ (List.mem_singleton_self _))
  exact ⟨first, second, rfl⟩

/-- Statements that were sent without a failure were agreed to. -/
theorem sendAll_sent {statements : List Statement}
    (ran : (server.sendAll (some c) statements).run.run s = (.ok (.ok ()), s')) :
    ∃ exchanges, Agreed statements exchanges ∧
      sent c s'.trace = sent c s.trace ++ exchanges := by
  induction statements generalizing s with
  | nil =>
    cases ran
    exact ⟨[], ⟨rfl, List.forall_mem_nil _⟩, (List.append_nil _).symm⟩
  | cons statement rest ih =>
    unfold sendAll at ran
    simp only [ExceptT.run_mk, Program.bind_eq_bind] at ran
    obtain ⟨answer, s₁, sending, ran⟩ := Program.run_bind_ok_inv ran
    obtain ⟨answer, same, sends⟩ := send_account sending
    cases same
    cases answer with
    | error failure => cases ran
    | ok answer =>
      obtain ⟨exchanges, agreed, later⟩ := ih ran
      cases sends with
      | answered unread executed read =>
        refine ⟨_, agreed.cons answer, ?_⟩
        rw [later, executed, sent_append, List.append_assoc]
        simp

/-- A transaction that was begun and set up has sent just that on its connection. -/
theorem begin_agreed {store : String} {setUp : List Statement} (sound : s.Sound)
    (ran : (server.begin store setUp).run.run s = (.ok (.ok c), s')) :
    Agreed (beginning :: setUp) (sent c s'.trace) := by
  unfold begin at ran
  simp only [ExceptT.run_mk, Program.bind_eq_bind] at ran
  obtain ⟨d, s₁, connecting, ran⟩ := Program.run_bind_ok_inv ran
  have opened : sent d s₁.trace = [] := by
    cases connecting
    have nothing := sound.sent_eq_nil (sound.fresh store)
    exact sent_append.trans (List.append_eq_nil_iff.mpr ⟨nothing, rfl⟩)
  obtain ⟨begun, s₂, sending, ran⟩ := Program.run_bind_ok_inv ran
  cases begun with
  | error failure => cases ran
  | ok begun =>
    obtain ⟨done, s₃, setting, ran⟩ := Program.run_bind_ok_inv ran
    cases done with
    | error failure =>
      obtain ⟨_, s₄, -, failed⟩ := Program.run_bind_ok_inv ran
      cases failed
    | ok done =>
      cases ran
      obtain ⟨_, began, begins⟩ := send_account sending
      obtain ⟨exchanges, agreed, set⟩ := sendAll_sent (Program.run_of_onDrop setting)
      cases began
      cases begins with
      | answered _ began _ =>
        rw [set, began, sent_append, opened, List.nil_append, sent_executed, sent_nil]
        exact agreed.cons begun

end Server

/-- A connection that a store has given was begun on and set up, and nothing else was sent on it. -/
theorem Store.request_agreed {store : Store H} {server : Server H} {mode : Mode}
    {ctx : RequestContext} {name : String} {setUp : List Statement} {c : Connection}
    {s given : State H} (start : store.start mode = server.begin name setUp) (sound : s.Sound)
    (obtained : (ctx.guard (store.request mode)).run.run s = (.ok (.ok c), given)) :
    Server.Agreed (Server.beginning :: setUp) (sent c given.trace) := by
  have asking : (store.request mode).run = (Program.record (.requested store.name mode)).bind
      fun _ => (server.begin name setUp).run := by
    rw [← start]
    rfl
  have patient : (store.request mode).run.Patient := by
    rw [asking]
    exact fun _ => server.begin_patient _ _
  have requested := Context.run_of_guard patient obtained
  rw [asking, Program.run_bind_ok (Program.run_record s _)] at requested
  have asked : Steady (fun _ _ => False) s (s.noted (.requested store.name mode)) :=
    Steady.noted sound fun _ h => by cases h
  exact Server.begin_agreed asked.sound requested

end SessionKeeper
