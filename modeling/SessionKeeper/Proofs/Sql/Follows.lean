import SessionKeeper.Proofs.Sql.Pool
import SessionKeeper.Proofs.Sql.PostgresWire
import SessionKeeper.Proofs.Transaction.Follows

/-!
A server alone changes the state of its host. If the states succeed one another in some way where a
statement is executed (`Server.Leads`), they do so in the primitives of the stores on this server
and in every query.

Each part is made of the sending of statements, so there is one lemma a part, and the step is that
of `send`. With what is known of calls under any succession (`Store.call_follows`) whole
transactions follow.
-/

namespace SessionKeeper

variable {H : Host} {α : Type} {R : Succession H}

/-- Executing a statement, the server goes from a state to one that may succeed it. -/
def Server.Leads (R : Succession H) (server : Server H) : Prop :=
  ∀ connection statement h,
    R.leads h [.executed connection statement (server.respond connection statement h).1.reply]
      (server.respond connection statement h).2

namespace Server.Leads

open Program.Follows (ask done)

variable {server : Server H}

theorem send (leads : server.Leads R) (connection : Option Connection) (statement : Statement) :
    (server.send connection statement).run.Follows R := by
  refine fun h => (server.send_along connection statement h).mono ?_
  rintro es h' (⟨rfl, rfl⟩ | ⟨rfl, rfl⟩)
  · exact R.still h'
  · exact leads connection statement h

theorem sendAll (leads : server.Leads R) (connection : Option Connection)
    (statements : List Statement) : (server.sendAll connection statements).run.Follows R := by
  induction statements with
  | nil => exact done _
  | cons statement rest ih =>
    refine (leads.send connection statement).bind fun answer => ?_
    cases answer with
    | error failure => exact done _
    | ok answer => exact ih

theorem discard (leads : server.Leads R) (c : Connection) : (server.discard c).Follows R := by
  refine fun h => (server.discard_along h c).mono ?_
  rintro es h' ⟨rfl, rfl⟩
  exact leads (some c) Server.rollingBack h

theorem begin (leads : server.Leads R) (store : String) (setUp : List Statement) :
    (server.begin store setUp).run.Follows R := by
  refine ask trivial fun c => (leads.send (some c) Server.beginning).bind fun answer => ?_
  cases answer with
  | error failure => exact done _
  | ok begun =>
    refine ((leads.sendAll (some c) setUp).onDrop (leads.discard c)).bind fun answer => ?_
    cases answer with
    | error failure => exact (leads.discard c).bind fun _ => done _
    | ok ready => exact done _

theorem finish (leads : server.Leads R) (statement : Statement) (c : Connection) :
    (server.finish statement c).run.Follows R := by
  refine (leads.send (some c) statement).bind fun answer => ?_
  cases answer with
  | ok answer => exact done _
  | error failure => exact (leads.discard c).bind fun _ => done _

/-! ## Stores and queries -/

theorem postgres (leads : server.Leads R) (policy : RetryPolicy)
    (isolation : Option IsolationLevel) : (Postgres.store server policy isolation).Follows R where
  start _ := leads.begin _ _
  prepare _ _ := done _
  restart _ _ _ _ := done _
  commit := leads.finish _
  rollback := leads.finish _

theorem cockroach (leads : server.Leads R) (settings : Cockroach.Settings) :
    (Cockroach.store server settings).Follows R where
  start _ := leads.begin _ _
  prepare mode c := by
    cases mode with
    | readWrite => exact leads.sendAll (some c) [Cockroach.releaseSavepoint]
    | readOnly => exact done _
  restart mode c failure n := by
    change (Cockroach.restart server settings mode c failure n).run.Follows R
    unfold Cockroach.restart
    split
    · refine (leads.send (some c) Cockroach.rewind).bind fun answer => ?_
      cases answer <;> exact done _
    · exact done _
  commit := leads.finish _
  rollback := leads.finish _

theorem sending {e : Executor H} (leads : e.server.Leads R) (statement : Statement)
    (read : Answer → Except DriverFailure α) (connection : Option Connection) :
    (e.sending statement read connection).Follows R := by
  refine ((leads.send connection statement).guard e.context).bind fun answer => ?_
  cases answer <;> exact done _

theorem query {e : Executor H} (leads : e.server.Leads R) (statement : Statement)
    (read : Answer → Except DriverFailure α) : (e.query statement read).run.Follows R := by
  cases target : e.target with
  | none =>
    rw [Executor.query_of_pool target]
    exact leads.sending statement read none
  | some handle =>
    rw [Executor.query_of_handle target]
    refine ask trivial fun status => ?_
    cases status with
    | some reason => exact done _
    | none =>
      refine ask trivial fun found => ?_
      cases found with
      | none => exact done _
      | some c => exact leads.sending statement read (some c)

end Server.Leads

theorem Database.SpeaksPostgres.follows {db : Database H} (speaks : db.SpeaksPostgres)
    (leads : db.server.Leads R) : db.store.Follows R := by
  cases speaks with
  | postgres server policy isolation => exact leads.postgres policy isolation
  | cockroach server settings => exact leads.cockroach settings

end SessionKeeper
