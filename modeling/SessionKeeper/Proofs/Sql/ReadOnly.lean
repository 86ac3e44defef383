import SessionKeeper.Proofs.Sql.PostgresWire
import SessionKeeper.Proofs.Sql.SingleRun

/-!
Transactions that only read. On the databases that speak the protocol of PostgreSQL they are begun
and restricted to reading before anything else is sent, they are never started over, and nothing
prepares their commit. So the unit of work runs once, and what is sent on the connection is the
opening, what that run sends, and the end (`takes_readOnly`). Of a unit of work that asks one thing
at most, nothing else is ever asked, however many attempts are made (`attempts_ask`).

`OpensReadOnly` are the statements of the opening: `BEGIN`, and what restricts the transaction,
which is `SET TRANSACTION READ ONLY` or, for follower reads, a point of time in the past.

Correspondence: `ro_tx` ↔ `Store.readOnlyTransaction`, `read_only_statement` ↔ `Cockroach.setUp` for
the mode.
-/

namespace SessionKeeper

variable {H : Host} {N : Type} {α : Type}

namespace Statement

/-- After the statement a transaction only reads, and in the second case it reads what was in the
past. -/
inductive Restricts : Statement → Prop
  | readOnly : Restricts ⟨"SET TRANSACTION READ ONLY", []⟩
  | past : Restricts ⟨"SET TRANSACTION AS OF SYSTEM TIME follower_read_timestamp()", []⟩

/-- The statement says what a transaction is to be like. -/
inductive SetsUp : Statement → Prop
  | isolates (level : IsolationLevel) : SetsUp level.statement
  | restricts {statement : Statement} : statement.Restricts → SetsUp statement

/-- The statement begins, sets up or ends a transaction. -/
inductive Controls : Statement → Prop
  | begins : Controls Server.beginning
  | setsUp {statement : Statement} : statement.SetsUp → Controls statement
  | commits : Controls Server.committing
  | rollsBack : Controls Server.rollingBack

theorem SetsUp.ne_committing {statement : Statement} (setsUp : statement.SetsUp) :
    statement ≠ Server.committing := by
  cases setsUp with
  | isolates level => cases level <;> decide
  | restricts restricts => cases restricts <;> decide

end Statement

/-- With the exchanges a transaction was begun and restricted to reading, and the server agreed to
all of them. -/
def OpensReadOnly (exchanges : List Exchange) : Prop :=
  ∃ setUp, Server.Agreed (Server.beginning :: setUp) exchanges ∧ (∀ x ∈ setUp, x.SetsUp) ∧
    ∃ x ∈ setUp, x.Restricts

namespace Database.SpeaksPostgres

variable {db : Database H} {c : Connection} {ctx : RequestContext} {s : State H}

/-! ## The store in read-only mode -/

theorem start_readOnly (speaks : db.SpeaksPostgres) : ∃ name setUp,
    db.store.start .readOnly = db.server.begin name setUp ∧ (∀ x ∈ setUp, x.SetsUp) ∧
      ∃ x ∈ setUp, x.Restricts := by
  cases speaks with
  | postgres server policy isolation =>
    refine ⟨"postgres", Postgres.setUp isolation .readOnly, rfl, fun x mem => ?_,
      _, List.mem_append_right _ (List.mem_singleton_self _), .readOnly⟩
    rcases List.mem_append.mp mem with mem | mem
    · obtain ⟨level, -, rfl⟩ := Option.map_eq_some_iff.mp (Option.mem_toList.mp mem)
      exact .isolates level
    · obtain rfl := List.mem_singleton.mp mem
      exact .restricts .readOnly
  | cockroach server settings =>
    have restricts : (Cockroach.setUp settings .readOnly).Restricts := by
      unfold Cockroach.setUp
      cases settings.followerReads with
      | true => exact .past
      | false => exact .readOnly
    refine ⟨"cockroach", [Cockroach.setUp settings .readOnly], rfl, fun x mem => ?_,
      _, List.mem_singleton_self _, restricts⟩
    obtain rfl := List.mem_singleton.mp mem
    exact .restricts restricts

theorem runsOnce_readOnly (speaks : db.SpeaksPostgres) : db.store.RunsOnce .readOnly := by
  cases speaks <;> exact ⟨fun _ => rfl, fun _ _ _ => rfl⟩

theorem readOnly (speaks : db.SpeaksPostgres) : db.store.readOnly = true := by
  cases speaks <;> rfl

theorem sends_readOnly (speaks : db.SpeaksPostgres) {P : Statement → Prop}
    (controls : ∀ x : Statement, x.Controls → x ≠ Server.committing → P x) :
    db.store.Sends .readOnly P := by
  obtain ⟨name, setUp, start, sets, -⟩ := speaks.start_readOnly
  refine ⟨?_, fun c => ?_, fun c failure n => ?_⟩
  · rw [start]
    refine (db.server.begin_tame name (Server.allows_sends fun x mem => ?_)).confined
    rcases List.mem_cons.mp mem with rfl | mem
    · exact controls _ .begins (by decide)
    rcases List.mem_cons.mp mem with rfl | mem
    · exact controls _ .rollsBack (by decide)
    · exact controls x (.setsUp (sets x mem)) (sets x mem).ne_committing
  · rw [speaks.runsOnce_readOnly.prepares c]
    trivial
  · rw [speaks.runsOnce_readOnly.declines failure c n]
    trivial

theorem opened_readOnly (speaks : db.SpeaksPostgres) {given : State H} (sound : s.Sound)
    (obtained : (ctx.guard (db.store.request .readOnly)).run.run s = (.ok (.ok c), given)) :
    OpensReadOnly (sent c given.trace) := by
  obtain ⟨name, setUp, start, sets, restricts⟩ := speaks.start_readOnly
  exact ⟨setUp, Store.request_agreed start sound obtained, sets, restricts⟩

end Database.SpeaksPostgres

/-! ## Transactions -/

/-- The transaction only read, in the one run `r` of its unit of work, and that is all that a trace
knows of its connection. -/
structure OnlyReads (t : Transaction H α) (r : WorkRun H α) (trace : Trace H.Note) : Prop where
  once : t.runs = [r]
  ending : t.ending = .ofVerdict r.verdict
  sent : ∃ opening finish unread, OpensReadOnly opening ∧
    Server.EndsWith (Store.endingStatement t.ending.commits) unread t.answer finish ∧
    sent t.connection trace = opening ++ (r.sent t.connection ++ finish)

/-- In the run the statement was executed on the connection and nothing else was done, or nothing
was done at all. -/
def WorkRun.AsksOnce (r : WorkRun H α) (c : Connection) (statement : Statement) : Prop :=
  r.added = [] ∨ ∃ time reply, r.added = [(time, .executed (some c) statement reply)]

/-- If the event is a statement, it is about a transaction as a whole, or it is the one given, on a
connection that is `On`. -/
def Event.AsksOnly (statement : Statement) (On : Option Connection → Prop) : Event N → Prop
  | .executed connection other _ => other.Controls ∨ other = statement ∧ On connection
  | _ => True

theorem Event.Sends.mono {P Q : Statement → Prop} {e : Event N} (h : e.Sends P)
    (le : ∀ x, P x → Q x) : e.Sends Q := by
  cases e with
  | executed connection statement reply => exact le statement h
  | _ => trivial

theorem Event.Sends.asksOnly {statement : Statement} {On : Option Connection → Prop} {e : Event N}
    (h : e.Sends Statement.Controls) : e.AsksOnly statement On := by
  cases e with
  | executed => exact .inl h
  | _ => trivial

theorem Event.AsksOnly.mono {statement : Statement} {On On' : Option Connection → Prop}
    {e : Event N} (h : e.AsksOnly statement On) (le : ∀ connection, On connection → On' connection) :
    e.AsksOnly statement On' := by
  cases e with
  | executed => exact h.imp_right fun asked => ⟨asked.1, le _ asked.2⟩
  | _ => trivial

theorem Server.EndsWith.controls {commits : Bool} {unread : Option DriverFailure}
    {answer : Except Failure Unit} {finish : List Exchange}
    (ends : EndsWith (Store.endingStatement commits) unread answer finish) :
    ∀ x ∈ finish, x.1.Controls := by
  have ending : (Store.endingStatement commits).Controls := by
    cases commits with
    | true => exact .commits
    | false => exact .rollsBack
  cases ends with
  | answered answer => simpa using ending
  | refused error discarded => simpa using ⟨ending, .rollsBack⟩
  | unread error discarded => simpa using Statement.Controls.rollsBack

namespace Store.Takes

variable {store : Store H} {mode : Mode} {work : UnitOfWork H α} {ctx : RequestContext} {n : Nat}
  {s s' : State H} {t : Transaction H α} {outcome : Except Stop (Except Failure α)}

theorem finish_adds (takes : store.Takes ctx mode work n s t outcome s') {server : Server H}
    (ends : store.EndsBy server) : t.ended.Adds (Event.Sends Statement.Controls) s' := by
  obtain ⟨finish, added, closing, ending, events, committed, trace⟩ := takes.finish_account ends
  refine ⟨_, trace, fun e mem => ?_⟩
  rcases List.mem_cons.mp mem with rfl | mem
  · cases t.ending.commits <;> trivial
  · rcases List.mem_append.mp mem with mem | mem
    · have exchanged : e.2 ∈ finish.map (Exchange.event t.connection) :=
        events ▸ List.mem_map_of_mem mem
      obtain ⟨exchange, mem, same⟩ := List.mem_map.mp exchanged
      rw [← same]
      exact ending.controls exchange mem
    · rw [committed e mem]
      trivial

end Store.Takes

namespace Database.SpeaksPostgres

variable {db : Database H} {work : UnitOfWork H α} {ctx : RequestContext} {n : Nat}
  {s s' : State H} {t : Transaction H α} {outcome : Except Stop (Except Failure α)}

/-- What is sent for a transaction in read-only mode. -/
theorem takes_readOnly (speaks : db.SpeaksPostgres)
    (takes : db.store.Takes ctx .readOnly work n s t outcome s')
    (keeps : ∀ inner, (work inner).run.Keeps []) (sound : s.Sound) :
    ∃ r, OnlyReads t r s'.trace ∧
      db.store.Runs (Store.handleIn t.given .readOnly n) t.connection work ctx 0
        (db.store.begunIn t.given t.connection .readOnly n) r ∧
      r.after.Adds (Event.Sends fun _ => False) t.ended := by
  obtain ⟨r, finish, once, runs, ending, quiet, ends, -, sent⟩ := takes.sent_once
    speaks.runsOnce_readOnly speaks.lawful speaks.endsBy keeps sound (List.forall_mem_nil _)
  have opened := speaks.opened_readOnly sound takes.given
  exact ⟨r, ⟨once, ending, _, finish, _, opened, ends, sent⟩, runs, quiet⟩

/-- A transaction in which one thing is asked at most, and asked on its connection. -/
theorem takes_ask (speaks : db.SpeaksPostgres)
    (takes : db.store.Takes ctx .readOnly work n s t outcome s') {r : WorkRun H α}
    (runs : db.store.Runs (Store.handleIn t.given .readOnly n) t.connection work ctx 0
      (db.store.begunIn t.given t.connection .readOnly n) r)
    (quiet : r.after.Adds (Event.Sends fun _ => False) t.ended) {statement : Statement}
    (asks : r.AsksOnce t.connection statement) :
    s.Adds (Event.AsksOnly statement (· = some t.connection)) s' := by
  have requested := Store.request_sends
    (speaks.sends_readOnly (P := Statement.Controls) fun _ controls _ => controls) takes.given
  have begun : t.given.Adds (Event.Sends Statement.Controls)
      (db.store.begunIn t.given t.connection .readOnly n) := .of_append rfl trivial
  have started : (db.store.begunIn t.given t.connection .readOnly n).Adds
      (Event.Sends Statement.Controls) r.before := runs.before ▸ .noted _ trivial
  have worked : r.before.Adds (Event.AsksOnly statement (· = some t.connection)) r.after := by
    refine ⟨r.added, runs.trace, fun e mem => ?_⟩
    rcases asks with nothing | ⟨time, reply, asked⟩
    · rw [nothing] at mem
      cases mem
    · rw [asked, List.mem_singleton] at mem
      exact mem ▸ .inr ⟨rfl, rfl⟩
  have finished := takes.finish_adds speaks.endsBy
  have ended : r.after.Adds (Event.Sends Statement.Controls) s' :=
    (quiet.mono fun _ h => h.mono fun _ no => no.elim).trans finished
  exact ((((requested.trans begun).trans started).mono fun _ h => h.asksOnly).trans worked).trans
    (ended.mono fun _ h => h.asksOnly)

/-! ## Calls -/

end Database.SpeaksPostgres

/-- The attempt got no connection, and fails with what stood in the way. -/
def Store.Fruitless (store : Store H) (ctx : RequestContext) (mode : Mode) (m : Made H α) : Prop :=
  ∃ failure, (ctx.guard (store.request mode)).run.run m.before = (.ok (.error failure), m.after) ∧
    m.outcome = .ok (.error failure)

namespace Database

variable {db : Database H} {work : UnitOfWork H α} {ctx : RequestContext} {n : Nat}
  {s s' : State H} {outcome : Except Stop (Except Failure α)}

/-- The attempt took a transaction in which its unit of work asked one thing at most, and of what
was recorded this is all that its connection saw. -/
structure Reads (db : Database H) (ctx : RequestContext) (work : UnitOfWork H α)
    (statement : Statement) (added : Trace H.Note) (m : Made H α) (t : Transaction H α)
    (r : WorkRun H α) : Prop where
  takes : db.store.Takes ctx .readOnly work m.number m.before t m.outcome m.after
  reads : OnlyReads t r added
  asks : r.AsksOnce t.connection statement

/-- Of a unit of work that asks one thing at most, nothing else is asked in the course of a call,
and that on connections that were opened for reading only. -/
theorem SpeaksPostgres.attempts_ask (speaks : db.SpeaksPostgres)
    (keeps : ∀ inner, (work inner).run.Keeps []) {statement : Statement}
    (asks : ∀ {handle : Handle} {begun : Connection} {restarts : Nat} {s : State H}
      {r : WorkRun H α}, Underway handle begun [] s →
      db.store.Runs handle begun work ctx restarts s r → r.AsksOnce begun statement)
    {policy : RetryPolicy} {retries : Failure → Bool} {left : Nat} {ms : List (Made H α)}
    (account : policy.RunTo ctx retries (db.store.attempt ctx .readOnly work) left n s ms outcome
      s') (completed : outcome ≠ .error .dropped) (sound : s.Sound) {added : Trace H.Note}
    (trace : s'.trace = s.trace ++ added) :
    (∀ m ∈ ms, db.store.Fruitless ctx .readOnly m ∨
      ∃ t r, Reads db ctx work statement added m t r) ∧
    ∀ e ∈ added, e.2.AsksOnly statement fun connection => ∃ m ∈ ms, ∃ t r,
      Reads db ctx work statement added m t r ∧ connection = some t.connection := by
  obtain ⟨-, attempts⟩ := Store.attempts_keep speaks.lawful keeps account completed sound (by simp)
  have each : ∀ m ∈ ms, (db.store.Fruitless ctx .readOnly m ∨
        ∃ t r, Reads db ctx work statement added m t r) ∧
      m.before.Adds (Event.AsksOnly statement fun connection => ∃ t r,
        Reads db ctx work statement added m t r ∧ connection = some t.connection) m.after := by
    intro m mem
    obtain ⟨-, -, -, after⟩ := attempts m mem
    obtain ⟨before, ⟨failure, refused, outcome⟩ | ⟨t, takes⟩⟩ :=
      Store.attempts_take speaks.lawful keeps account completed sound (by simp) mem
    · refine ⟨.inl ⟨failure, refused, outcome⟩, ?_⟩
      exact (Store.request_sends (speaks.sends_readOnly fun _ controls _ => controls) refused).mono
        fun _ h => h.asksOnly
    · obtain ⟨r, reads, runs, quiet⟩ := speaks.takes_readOnly takes keeps before.sound
      have asked := asks (takes.underway speaks.lawful before.sound (List.forall_mem_nil _)) runs
      -- The connection was new, and nothing is sent on it once the transaction is over.
      have new : t.connection ∉ s.connections := fun known =>
        takes.fresh speaks.lawful before.sound (before.known known)
      have all : sent t.connection added = sent t.connection m.after.trace := by
        rw [← takes.sent_later speaks.lawful keeps before.sound (by simp) after, trace, sent_append,
          sound.sent_eq_nil new, List.nil_append]
      have reads : Reads db ctx work statement added m t r :=
        ⟨takes, ⟨reads.once, reads.ending, all ▸ reads.sent⟩, asked⟩
      refine ⟨.inr ⟨t, r, reads⟩, (speaks.takes_ask takes runs quiet asked).mono fun e h => ?_⟩
      exact h.mono fun connection here => ⟨t, r, reads, here⟩
  have whole : s.Adds (Event.AsksOnly statement fun connection => ∃ m ∈ ms, ∃ t r,
      Reads db ctx work statement added m t r ∧ connection = some t.connection) s' := by
    refine account.along_made (P := State.Adds _) State.Adds.trans
      (fun quiet => .of_trace_eq quiet.trace) fun m mem => ?_
    exact (each m mem).2.mono fun e h => h.mono fun _ here => ⟨m, mem, here⟩
  obtain ⟨added', trace', asked⟩ := whole
  rw [List.append_cancel_left (trace'.symm.trans trace)] at asked
  exact ⟨fun m mem => (each m mem).1, asked⟩

end Database

end SessionKeeper
