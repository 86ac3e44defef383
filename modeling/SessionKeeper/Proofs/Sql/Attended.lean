import SessionKeeper.Proofs.Sql.Executor
import SessionKeeper.Proofs.Sql.PostgresWire
import SessionKeeper.Proofs.Transaction.Attended
import SessionKeeper.Sql.MySql

/-!
Servers that are waited for. Whatever a server replies and however long it takes, sending a
statement comes to an end, and so do the primitives of every store here. CockroachDB starts over no
more often than its settings say, which is how far an attempt is followed.

`Store.Attends` is what is wanted of a store: its primitives are attended, and it declines to start
over where an attempt is followed no further. It is shown of all three (`Postgres.store_attends`,
`MySql.store_attends`, `Cockroach.store_attends`), so that every call of theirs can be shown to
return.
-/

namespace SessionKeeper

variable {H : Host} {α : Type}

namespace Server

variable (server : Server H)

theorem transmit_answers (connection : Option Connection) (statement : Statement) :
    (server.transmit connection statement).run.Answers := by
  intro state _ _
  have canceling : ∀ scope, (Program.cancel scope : Program H Unit).Answers :=
    fun _ _ => trivial
  refine (Program.Attended.forM canceling _).bind fun _ _ wake kept => ?_
  cases wake with
  | elapsed => trivial
  | fired place reason => trivial
  | dropped => exact absurd rfl kept

theorem send_answers (connection : Option Connection) (statement : Statement) :
    (server.send connection statement).run.Answers := by
  cases connection with
  | none => exact server.transmit_answers none statement
  | some c =>
    intro unread
    cases unread with
    | some error => trivial
    | none => exact server.transmit_answers (some c) statement

theorem sendAll_answers (connection : Option Connection) (statements : List Statement) :
    (server.sendAll connection statements).run.Answers := by
  induction statements with
  | nil => trivial
  | cons statement rest ih =>
    refine (server.send_answers connection statement).bind fun answer _ => ?_
    cases answer with
    | error failure => trivial
    | ok answer => exact ih

theorem discard_answers (c : Connection) : (server.discard c).Answers := by
  intro state _ _ now
  have canceling : ∀ scope, (Program.cancelAt scope now : Program H Unit).Answers :=
    fun _ _ => trivial
  exact .forM canceling _

theorem begin_answers (store : String) (setUp : List Statement) :
    (server.begin store setUp).run.Answers := by
  refine fun c => (server.send_answers (some c) beginning).bind fun answer _ => ?_
  cases answer with
  | error failure => trivial
  | ok begun =>
    refine (server.sendAll_answers (some c) setUp).onDrop.bind fun answer _ => ?_
    cases answer with
    | error failure => exact (server.discard_answers c).bind fun _ _ => trivial
    | ok done => trivial

theorem finish_answers (statement : Statement) (c : Connection) :
    (server.finish statement c).run.Answers := by
  refine (server.send_answers (some c) statement).bind fun answer _ => ?_
  cases answer with
  | ok answer => trivial
  | error failure => exact (server.discard_answers c).bind fun _ _ => trivial

end Server

/-! ## Stores -/

theorem Postgres.store_attends (server : Server H) (policy : RetryPolicy)
    (isolation : Option IsolationLevel) : (Postgres.store server policy isolation).Attends where
  start _ := server.begin_answers _ _
  prepare _ _ := trivial
  restart _ _ _ _ := trivial
  commit _ := server.finish_answers _ _
  rollback _ := server.finish_answers _ _
  limited _ _ _ := by
    rintro ⟨⟩

theorem MySql.store_attends (server : Server H) (policy : RetryPolicy) :
    (MySql.store server policy).Attends where
  start _ := server.begin_answers _ _
  prepare _ _ := trivial
  restart _ _ _ _ := trivial
  commit _ := server.finish_answers _ _
  rollback _ := server.finish_answers _ _
  limited _ _ _ := by
    rintro ⟨⟩

namespace Cockroach

variable (server : Server H) (settings : Settings)

theorem restart_answers (mode : Mode) (c : Connection) (failure : Failure) (restarts : Nat) :
    (restart server settings mode c failure restarts).run.Answers := by
  unfold restart
  split
  · refine (server.send_answers (some c) rewind).bind fun answer _ => ?_
    cases answer <;> trivial
  · trivial

/-- There is no restart beyond those that the settings allow. -/
theorem restart_limited (mode : Mode) (c : Connection) (failure : Failure) :
    (restart server settings mode c failure settings.maxRestarts).run = .done (.ok false) := by
  have unwanted : wantsRestart settings mode failure settings.maxRestarts = false := by
    simp [wantsRestart]
  rw [restart, unwanted]
  rfl

theorem store_attends : (store server settings).Attends where
  start _ := server.begin_answers _ _
  prepare mode c := by
    cases mode with
    | readWrite => exact server.sendAll_answers (some c) [releaseSavepoint]
    | readOnly => trivial
  restart := restart_answers server settings
  commit _ := server.finish_answers _ _
  rollback _ := server.finish_answers _ _
  limited mode c failure := by
    have limited := restart_limited server settings mode c failure
    change (restart server settings mode c failure settings.maxRestarts).run.Attended _ _
    rw [limited]
    rintro ⟨⟩

end Cockroach

theorem Database.SpeaksPostgres.attends {db : Database H} (speaks : db.SpeaksPostgres) :
    db.store.Attends := by
  cases speaks with
  | postgres server policy isolation => exact Postgres.store_attends server policy isolation
  | cockroach server settings => exact Cockroach.store_attends server settings

/-! ## Statements -/

theorem Executor.sending_answers (e : Executor H) (statement : Statement)
    (read : Answer → Except DriverFailure α) (connection : Option Connection) :
    (e.sending statement read connection).Answers := by
  have tame : (e.server.send connection statement).run.Tame Event.Plain connection.toList :=
    e.server.send_tame (Server.allows_plain _) fun c hc => Option.mem_toList.mpr hc
  refine (e.context.guard_answers (e.server.send_answers connection statement) tame.calm).bind
    fun answer _ => ?_
  cases answer <;> trivial

theorem Executor.query_answers (e : Executor H) (statement : Statement)
    (read : Answer → Except DriverFailure α) :
    (e.query statement read).run.Answers := by
  cases target : e.target with
  | none =>
    rw [query_of_pool target]
    exact e.sending_answers statement read none
  | some handle =>
    rw [query_of_handle target]
    intro status
    cases status with
    | some reason => trivial
    | none =>
      intro found
      cases found with
      | none => trivial
      | some c => exact e.sending_answers statement read (some c)

end SessionKeeper
