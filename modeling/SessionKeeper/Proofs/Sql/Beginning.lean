import SessionKeeper.Proofs.Program.Dropped
import SessionKeeper.Proofs.Sql.Attended
import SessionKeeper.Proofs.Sql.Reply

/-!
How the beginning of a transaction can turn out under a context, with all that is recorded of it
(`Server.begin_raced`, `Store.request_begins`). The statements are sent in order, each after the
reply to the one before. Where one of them is refused, or the context is done before the reply to
it, those after it are not sent, and what had begun is discarded.

`Server.SendsAll` is how a list of statements can turn out that is sent in a race against a signal,
and `Server.Begins` how a beginning can: all was agreed to, or it broke off at one of its statements
(`Server.BreaksOff`).

Correspondence: `begin` of a backend ↔ `Server.begin`, and the `run` of the context around it ↔
`Context.guard`. The beginning is the one part of an attempt that a context interrupts.
-/

namespace SessionKeeper

variable {H : Host} {α : Type}

/-- What a guard answers when a race has turned out so. -/
def Context.guarded : Except Cancellation (Except Failure α) → Except Failure α
  | .ok answer => answer
  | .error reason => .error (.canceled reason)

theorem Context.guard_live {κ : Type} {V : κ → Type} {ctx : Context V} {w : Work H α}
    {s s' : State H} {answer : Except Failure α} (live : s.timeline.status ctx.signal = none)
    (ran : (ctx.guard w).run.run s = (.ok answer, s')) :
    ∃ raced, (w.run.race ctx.signal).run s = (.ok raced, s') ∧ answer = guarded raced := by
  rw [guard_run, status, Program.run_bind_ok (Program.run_status s _), live] at ran
  obtain ⟨raced, s₁, racing, ran⟩ := Program.run_bind_ok_inv ran
  refine ⟨raced, ?_⟩
  cases raced <;> cases ran <;> exact ⟨racing, rfl⟩

/-- From `s` to `s'` the events were recorded, and nothing else. -/
def State.Records (s : State H) (events : List (Event H.Note)) (s' : State H) : Prop :=
  ∃ added, s'.trace = s.trace ++ added ∧ added.map (·.2) = events

theorem State.Records.append {s s₁ s' : State H} {events later : List (Event H.Note)}
    (first : s.Records events s₁) (rest : s₁.Records later s') :
    s.Records (events ++ later) s' := by
  obtain ⟨added, trace, rfl⟩ := first
  obtain ⟨added', trace', rfl⟩ := rest
  exact ⟨added ++ added', by rw [trace', trace, List.append_assoc], List.map_append⟩

theorem Program.connect_account {store : String} {s s' : State H} {c : Connection}
    (ran : (Program.connect store).run s = (.ok c, s')) :
    s.Records [.opened c] s' ∧ s'.unreadOn c = s.unreadOn c ∧ (s.Sound → c ∉ s.connections) := by
  cases ran
  exact ⟨⟨[_], rfl, rfl⟩, rfl, fun sound => sound.fresh store⟩

namespace Server

variable {server : Server H} {c : Connection} {statement : Statement} {signal : Signal}
  {s s' : State H}

/-! ## Nothing comes of what was dropped -/

theorem receive_dropped_barren (connection : Option Connection) (reply : Reply) :
    (receive connection reply .dropped : Program H _).Barren := by
  cases connection with
  | none => trivial
  | some c =>
    cases reply with
    | ok answer => trivial
    | error error => exact fun _ => trivial

theorem transmit_relents (connection : Option Connection) :
    (server.transmit connection statement).run.Relents := by
  rw [transmit_eq]
  intro state _ _
  have canceling : ∀ scope, (Program.cancel scope : Program H Unit).Prompt := fun _ _ => trivial
  refine (Program.Prompt.forM canceling _).relents.bind fun _ => ?_
  have barren := receive_dropped_barren (H := H) connection
    (server.respond connection statement state).1.reply
  refine ⟨barren, fun wake => ?_⟩
  cases wake with
  | elapsed => trivial
  | fired place reason => trivial
  | dropped => exact barren.relents

theorem send_relents (connection : Option Connection) :
    (server.send connection statement).run.Relents := by
  cases connection with
  | none => exact server.transmit_relents none
  | some c =>
    intro unread
    cases unread with
    | some error => trivial
    | none => exact server.transmit_relents (some c)

theorem sendAll_relents (connection : Option Connection) (statements : List Statement) :
    (server.sendAll connection statements).run.Relents := by
  induction statements with
  | nil => trivial
  | cons statement rest ih =>
    refine (server.send_relents connection).bind fun answer => ?_
    cases answer with
    | error failure => trivial
    | ok answer => exact ih

/-! ## One statement -/

/-- What a statement comes to that is sent in a race: what it comes to otherwise, or it was executed
and the signal won before the reply. -/
theorem race_send_account {raced : Except Cancellation (Except Failure Answer)}
    (ran : ((server.send (some c) statement).run.race signal).run s = (.ok raced, s')) :
    (∃ answer, raced = .ok answer ∧ SendTo c statement s answer s') ∨
      ∃ reason reply, s.unreadOn c = none ∧ raced = .error reason ∧
        s'.trace = s.trace ++ [(s.timeline.now, .executed (some c) statement reply)] ∧
        s'.timeline.DoneFor signal reason := by
  rcases (server.send_patient (some c)).race_account ran with ⟨answer, rfl, won⟩ | ⟨reason, rfl, -⟩
  · obtain ⟨_, answered, sends⟩ := send_account won
    cases answered
    exact .inl ⟨_, rfl, sends⟩
  · cases unread : s.unreadOn c with
    | some error =>
      rw [race_send_of_unread unread] at ran
      cases ran
    | none =>
      have clear : ∀ d, some c = some d → s.unreadOn d = none := by
        rintro _ ⟨⟩
        exact unread
      by_cases fires : ∃ first, server.FiresAt (some c) statement signal s first
      · obtain ⟨first, fires⟩ := fires
        obtain ⟨why, s₁, raced, executed, done⟩ := race_send_of_fires clear fires
        rw [ran] at raced
        cases raced
        exact .inr ⟨reason, _, rfl, rfl, executed.trace, done⟩
      · obtain ⟨s₁, raced, -⟩ := race_send_of_unfired clear fires
        rw [ran] at raced
        cases raced

/-! ## Statements in order -/

/-- Of some statements those up to one were sent. The others were agreed to, and this one got the
reply, or would have got it. -/
def HaltsAt (statements : List Statement) (reply : Reply) (exchanges : List Exchange) : Prop :=
  ∃ before statement after agreed, statements = before ++ statement :: after ∧
    Agreed before agreed ∧ exchanges = agreed ++ [(statement, reply)]

theorem HaltsAt.here (rest : List Statement) (reply : Reply) :
    HaltsAt (statement :: rest) reply [(statement, reply)] :=
  ⟨[], statement, rest, [], rfl, ⟨rfl, List.forall_mem_nil _⟩, rfl⟩

theorem HaltsAt.later {rest : List Statement} {reply : Reply} {exchanges : List Exchange}
    (answer : Answer) (halts : HaltsAt rest reply exchanges) :
    HaltsAt (statement :: rest) reply ((statement, .ok answer) :: exchanges) := by
  obtain ⟨before, last, after, agreed, rfl, agrees, rfl⟩ := halts
  exact ⟨statement :: before, last, after, _, rfl, agrees.cons answer, rfl⟩

/-- What comes of sending some statements in a race, and what was exchanged. -/
inductive SendsAll (statements : List Statement) :
    Except Cancellation (Except Failure Unit) → List Exchange → Prop
  | agreed {exchanges : List Exchange} : Agreed statements exchanges →
      SendsAll statements (.ok (.ok ())) exchanges
  | refused {error : DriverFailure} {exchanges : List Exchange} :
      HaltsAt statements (.error error) exchanges →
      SendsAll statements (.ok (.error (.ofDriver error))) exchanges
  | abandoned {reason : Cancellation} {reply : Reply} {exchanges : List Exchange} :
      HaltsAt statements reply exchanges → SendsAll statements (.error reason) exchanges

theorem SendsAll.cons {rest : List Statement} {exchanges : List Exchange}
    {raced : Except Cancellation (Except Failure Unit)} (answer : Answer)
    (sends : SendsAll rest raced exchanges) :
    SendsAll (statement :: rest) raced ((statement, .ok answer) :: exchanges) := by
  cases sends with
  | agreed agreed => exact .agreed (agreed.cons answer)
  | refused halts => exact .refused (halts.later answer)
  | abandoned halts => exact .abandoned (halts.later answer)

/-- From `s` to `s'` the exchanges on `c` were recorded, and nothing else. -/
def Exchanged (c : Connection) (s : State H) (exchanges : List Exchange) (s' : State H) : Prop :=
  s.Records (exchanges.map (Exchange.event c)) s'

theorem Exchanged.one {reply : Reply} {time : Instant}
    (trace : s'.trace = s.trace ++ [(time, .executed (some c) statement reply)]) :
    Exchanged c s [(statement, reply)] s' := ⟨_, trace, rfl⟩

theorem Exchanged.append {s₁ : State H} {exchanges later : List Exchange}
    (first : Exchanged c s exchanges s₁) (rest : Exchanged c s₁ later s') :
    Exchanged c s (exchanges ++ later) s' := by
  rw [Exchanged, List.map_append]
  exact State.Records.append first rest

theorem race_sendAll_account {statements : List Statement}
    {raced : Except Cancellation (Except Failure Unit)} (clear : s.unreadOn c = none)
    (ran : ((server.sendAll (some c) statements).run.race signal).run s = (.ok raced, s')) :
    ∃ exchanges, SendsAll statements raced exchanges ∧ Exchanged c s exchanges s' ∧
      ∀ reason, raced = .error reason → s'.timeline.DoneFor signal reason := by
  induction statements generalizing s with
  | nil =>
    cases ran
    exact ⟨[], .agreed ⟨rfl, List.forall_mem_nil _⟩, ⟨[], (List.append_nil _).symm, rfl⟩, by simp⟩
  | cons statement rest ih =>
    unfold sendAll at ran
    simp only [ExceptT.run_mk, Program.bind_eq_bind] at ran
    rw [(server.send_relents (some c)).race_bind] at ran
    obtain ⟨first, s₁, sending, ran⟩ := Program.run_bind_ok_inv ran
    rcases race_send_account sending with
      ⟨answer, rfl, sends⟩ | ⟨reason, reply, -, rfl, trace, done⟩
    · cases sends with
      | answered _ trace read =>
        obtain ⟨exchanges, sends, exchanged, done⟩ := ih read ran
        exact ⟨_, sends.cons _, (Exchanged.one trace).append exchanged, done⟩
      | refused _ trace _ =>
        cases ran
        exact ⟨_, .refused (.here rest _), .one trace, by simp⟩
      | unread left _ _ => cases clear.symm.trans left
    · cases ran
      refine ⟨_, .abandoned (.here rest reply), .one trace, ?_⟩
      rintro _ ⟨⟩
      exact done

/-! ## Beginnings -/

/-- What was exchanged in order to begin a transaction that did not come about, where the last
statement but the final `ROLLBACK` got the reply or would have got it: `BEGIN` alone, or some of
what sets the transaction up as well, and then what had begun was discarded. -/
inductive BreaksOff (setUp : List Statement) (reply : Reply) : List Exchange → Prop
  | first : BreaksOff setUp reply [(beginning, reply)]
  | later {answer : Answer} {discarded : Reply} {exchanges : List Exchange} :
      HaltsAt setUp reply exchanges →
      BreaksOff setUp reply ((beginning, .ok answer) :: (exchanges ++ [(rollingBack, discarded)]))

/-- How the beginning of a transaction on `c` turns out and what was exchanged, given the error left
unread on the connection and whether the context is done in the end. -/
inductive Begins (c : Connection) (setUp : List Statement) (done : Prop) :
    Option DriverFailure → Except Failure Connection → List Exchange → Prop
  | begun {exchanges : List Exchange} :
      Agreed (beginning :: setUp) exchanges → Begins c setUp done none (.ok c) exchanges
  | refused {error : DriverFailure} {exchanges : List Exchange} :
      BreaksOff setUp (.error error) exchanges →
      Begins c setUp done none (.error (.ofDriver error)) exchanges
  /-- The context was done before the reply. -/
  | overtaken {reason : Cancellation} {reply : Reply} {exchanges : List Exchange} :
      BreaksOff setUp reply exchanges → done →
      Begins c setUp done none (.error (.canceled reason)) exchanges
  /-- The error left unread was taken for the reply to `BEGIN`, and nothing was sent. -/
  | unread {error : DriverFailure} :
      Begins c setUp done (some error) (.error (.ofDriver error)) []

theorem discard_exchanged (server : Server H) (c : Connection) (s : State H) :
    ∃ discarded s', (server.discard c).run s = (.ok (), s') ∧
      Exchanged c s [(rollingBack, discarded)] s' := by
  obtain ⟨discarded, s', ran, trace⟩ := server.discard_run c s
  exact ⟨discarded, s', ran, .one trace⟩

theorem discard_prompt (server : Server H) (c : Connection) : (server.discard c).Prompt := by
  intro state _ _ now
  have canceling : ∀ scope, (Program.cancelAt scope now : Program H Unit).Prompt :=
    fun _ _ => trivial
  exact .forM canceling _

/-- What sets a transaction up is sent in a race, and what has begun is discarded if the signal
wins. -/
theorem race_setUp_account {setUp : List Statement}
    {raced : Except Cancellation (Except Failure Unit)} (clear : s.unreadOn c = none)
    (ran : (((server.sendAll (some c) setUp).run.onDrop (server.discard c)).race signal).run s =
      (.ok raced, s')) :
    ∃ exchanges, SendsAll setUp raced exchanges ∧
      ((∃ answer, raced = .ok answer ∧ Exchanged c s exchanges s') ∨
        ∃ reason discarded, raced = .error reason ∧
          Exchanged c s (exchanges ++ [(rollingBack, discarded)]) s' ∧
          s'.timeline.status signal ≠ none) := by
  rw [(server.sendAll_relents (some c) setUp).race_onDrop
    (server.sendAll_answers (some c) setUp)] at ran
  obtain ⟨first, s₁, sending, ran⟩ := Program.run_bind_ok_inv ran
  obtain ⟨exchanges, sends, exchanged, done⟩ := race_sendAll_account clear sending
  cases first with
  | ok answer =>
    cases ran
    exact ⟨exchanges, sends, .inl ⟨answer, rfl, exchanged⟩⟩
  | error reason =>
    obtain ⟨discarded, s₂, discarding, after⟩ := server.discard_exchanged c s₁
    have settled := Program.settle_run discarding
    rw [Program.tidied, Program.run_bind_ok settled] at ran
    cases ran
    -- What is done stays so while the transaction is discarded.
    have still := (Program.later_of_run discarding).timeline.doneFor (done reason rfl)
    exact ⟨exchanges, sends,
      .inr ⟨reason, discarded, rfl, exchanged.append after, still.status_ne_none⟩⟩

theorem begin_raced {store : String} {setUp : List Statement}
    {raced : Except Cancellation (Except Failure Connection)}
    (ran : ((server.begin store setUp).run.race signal).run s = (.ok raced, s')) :
    ∃ c s₁ exchanges, (Program.connect store).run s = (.ok c, s₁) ∧
      Begins c setUp (s'.timeline.status signal ≠ none) (s₁.unreadOn c) (Context.guarded raced)
        exchanges ∧ Exchanged c s₁ exchanges s' := by
  unfold begin at ran
  simp only [ExceptT.run_mk, Program.bind_eq_bind] at ran
  have connects : (Program.connect store : Program H Connection).Prompt := fun _ => trivial
  rw [connects.race_bind] at ran
  obtain ⟨c, s₁, connecting, ran⟩ := Program.run_bind_ok_inv ran
  refine ⟨c, s₁, ?_⟩
  rw [(server.send_relents (some c)).race_bind] at ran
  obtain ⟨first, s₂, sending, ran⟩ := Program.run_bind_ok_inv ran
  rcases race_send_account sending with
    ⟨answer, rfl, sends⟩ | ⟨reason, reply, clear, rfl, trace, done⟩
  · cases sends with
    | refused clear trace _ =>
      cases ran
      rw [clear]
      exact ⟨_, connecting, .refused .first, .one trace⟩
    | unread left trace _ =>
      cases ran
      rw [left]
      exact ⟨[], connecting, .unread, [], by simp [trace], rfl⟩
    | answered clear trace read =>
      have began := Exchanged.one trace
      change (((Program.bind (Program.onDrop _ _) _).race signal).run _) = _ at ran
      rw [((server.sendAll_relents (some c) setUp).onDrop (server.discard c)).race_bind] at ran
      obtain ⟨set, s₃, setting, ran⟩ := Program.run_bind_ok_inv ran
      obtain ⟨exchanges, sends, outcome⟩ := race_setUp_account read setting
      rw [clear]
      rcases outcome with ⟨answer, rfl, exchanged⟩ | ⟨reason, discarded, rfl, exchanged, done⟩
      · cases sends with
        | agreed agreed =>
          cases ran
          exact ⟨_, connecting, .begun (agreed.cons _), began.append exchanged⟩
        | refused halts =>
          obtain ⟨discarded, s₄, discarding, after⟩ := server.discard_exchanged c s₃
          change ((Program.race signal (Program.bind (server.discard c) _)).run _) = _ at ran
          rw [(server.discard_prompt c).race_bind, Program.run_bind_ok discarding] at ran
          cases ran
          exact ⟨_, connecting, .refused (.later halts), (began.append exchanged).append after⟩
      · cases sends with
        | abandoned halts =>
          cases ran
          exact ⟨_, connecting, .overtaken (.later halts) done, began.append exchanged⟩
  · cases ran
    rw [clear]
    exact ⟨_, connecting, .overtaken .first done.status_ne_none, .one trace⟩

end Server

namespace Store

variable {store : Store H} {server : Server H} {mode : Mode} {ctx : RequestContext}
  {name : String} {setUp : List Statement} {s s' : State H}

/-- What was recorded when a store asked its server to begin a transaction, under a context that is
live. -/
theorem request_begins (start : store.start mode = server.begin name setUp)
    (live : s.timeline.status ctx.signal = none) (sound : s.Sound)
    {answer : Except Failure Connection}
    (ran : (ctx.guard (store.request mode)).run.run s = (.ok answer, s')) :
    ∃ c exchanges, c ∉ s.connections ∧
      Server.Begins c setUp (s'.timeline.status ctx.signal ≠ none) (s.unreadOn c) answer
        exchanges ∧
      s.Records (.requested store.name mode :: .opened c :: exchanges.map (Exchange.event c))
        s' := by
  obtain ⟨raced, racing, rfl⟩ := Context.guard_live live ran
  have asking : (store.request mode).run = (Program.record (.requested store.name mode)).bind
      fun _ => (server.begin name setUp).run := by
    rw [← start]
    rfl
  have records : (Program.record (.requested store.name mode) : Program H Unit).Prompt :=
    fun _ => trivial
  rw [asking, records.race_bind, Program.run_bind_ok (Program.run_record s _)] at racing
  obtain ⟨c, s₁, exchanges, connecting, begins, exchanged⟩ := Server.begin_raced racing
  obtain ⟨opened, unread, new⟩ := Program.connect_account connecting
  have asked : s.Records [.requested store.name mode] (s.noted (.requested store.name mode)) :=
    ⟨[_], rfl, rfl⟩
  have steady : Steady (fun _ _ => False) s (s.noted (.requested store.name mode)) :=
    Steady.noted sound fun _ h => by cases h
  exact ⟨c, exchanges, new steady.sound, unread ▸ begins, (asked.append opened).append exchanged⟩

end Store

end SessionKeeper
