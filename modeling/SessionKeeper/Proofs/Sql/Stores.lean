import SessionKeeper.Proofs.Transaction.Statements
import SessionKeeper.Sql.Cockroach
import SessionKeeper.Sql.MySql
import SessionKeeper.Sql.Postgres

/-!
The stores of all three databases are lawful, whatever their server replies and however long it
takes: a transaction is begun on a connection of its own, every statement about it is sent there,
and a beginning that is given up halfway discards what it has begun.

`Event.Sends P` is what their primitives may record: statements of `P`, executed on the connection
that they were handed. PostgreSQL and MySQL never start over, and so are tidy; what CockroachDB
rewinds is told from the statements that it sends.

Correspondence: `PostgresBackend` ↔ `Postgres.store`, `MySqlBackend` ↔ `MySql.store`,
`CockroachBackend` ↔ `Cockroach.store`.
-/

namespace SessionKeeper

variable {H : Host}

/-- If the event is a statement, it is one of `P`. -/
def Event.Sends {N : Type} (P : Statement → Prop) : Event N → Prop
  | .executed _ statement _ => P statement
  | _ => True

namespace Server

variable {held : List Connection} {c : Connection} {connection : Option Connection}
  {may : Event H.Note → Prop}

/-- Some statements may be sent, on whatever connection, and whatever the reply. -/
def Allows (may : Event H.Note → Prop) (statements : List Statement) : Prop :=
  ∀ statement ∈ statements, ∀ connection reply, may (.executed connection statement reply)

theorem allows_plain (statements : List Statement) :
    Allows (Event.Plain : Event H.Note → Prop) statements := fun _ _ _ _ => trivial

theorem allows_sends {P : Statement → Prop} {statements : List Statement}
    (h : ∀ statement ∈ statements, P statement) :
    Allows (Event.Sends P : Event H.Note → Prop) statements := fun statement mem _ _ => h statement mem

theorem Allows.sub {statements others : List Statement} (allowed : Allows may statements)
    (sub : others ⊆ statements) : Allows may others :=
  fun statement mem => allowed statement (sub mem)

theorem mem_of_some (mem : c ∈ held) : ∀ d, some c = some d → d ∈ held := by
  rintro _ ⟨⟩
  exact mem

/-- A statement is sent on the connection that it is for, or on one of the pool. -/
theorem transmit_tame (server : Server H) {statement : Statement}
    (allowed : Allows may [statement]) (mem : ∀ c, connection = some c → c ∈ held) :
    (server.transmit connection statement).run.Tame may held := by
  unfold transmit
  apply (Program.Tame.modifyGet _).bind
  intro response
  have executed : (Program.record (.executed connection statement response.reply) :
      Program H Unit).Tame may held := .ask _ ⟨allowed _ List.mem_cons_self _ _, mem⟩
  refine executed.bind fun _ => ?_
  refine (Program.Tame.forM (fun scope => .ask (.cancel scope) trivial) _).bind fun _ => ?_
  refine .wait ?_
  intro wake
  cases wake with
  | elapsed => exact .done _
  | fired place reason => exact .done _
  | dropped =>
    cases connection with
    | none => exact (Program.Tame.done ()).bind fun _ => .dropped
    | some c =>
      cases response.reply with
      | ok answer => exact (Program.Tame.done ()).bind fun _ => .dropped
      | error error =>
        have left : (Program.leaveUnread c error : Program H Unit).Tame may held :=
          .ask _ (mem c rfl)
        exact left.bind fun _ => .dropped

theorem send_tame (server : Server H) {statement : Statement} (allowed : Allows may [statement])
    (mem : ∀ c, connection = some c → c ∈ held) :
    (server.send connection statement).run.Tame may held := by
  unfold send
  cases connection with
  | none => exact server.transmit_tame allowed mem
  | some c =>
    have asked : (Program.takeUnread c : Program H (Option DriverFailure)).Tame may held :=
      .ask _ (mem c rfl)
    apply asked.bind
    intro unread
    cases unread with
    | some error => exact .done _
    | none => exact server.transmit_tame allowed mem

theorem sendAll_tame (server : Server H) {statements : List Statement}
    (allowed : Allows may statements) (mem : c ∈ held) :
    (server.sendAll (some c) statements).run.Tame may held := by
  induction statements with
  | nil => exact .done _
  | cons statement rest ih =>
    apply (server.send_tame (allowed.sub (by simp)) (mem_of_some mem)).bind
    intro sent
    cases sent with
    | error failure => exact .done _
    | ok answer => exact ih (allowed.sub (List.subset_cons_self _ _))

theorem discard_tame (server : Server H) (allowed : Allows may [⟨"ROLLBACK", []⟩])
    (mem : c ∈ held) : (server.discard c).Tame may held := by
  unfold discard
  apply (Program.Tame.modifyGet _).bind
  intro response
  have executed : (Program.record (.executed (some c) ⟨"ROLLBACK", []⟩ response.reply) :
      Program H Unit).Tame may held := .ask _ ⟨allowed _ List.mem_cons_self _ _, mem_of_some mem⟩
  refine executed.bind fun _ => ?_
  exact (Program.Tame.ask .now trivial).bind fun now =>
    .forM (fun scope => .ask (.cancelAt scope now) trivial) _

theorem finish_tame (server : Server H) {statement : Statement}
    (allowed : Allows may [statement, ⟨"ROLLBACK", []⟩]) (mem : c ∈ held) :
    (server.finish statement c).run.Tame may held := by
  unfold finish
  apply (server.send_tame (allowed.sub (by simp)) (mem_of_some mem)).bind
  intro sent
  cases sent with
  | error failure =>
    exact (server.discard_tame (allowed.sub (by simp)) mem).bind fun _ => .done _
  | ok answer => exact .done _

/-- The transaction is begun, set up and perhaps discarded on the connection that was opened for
it. -/
theorem begin_tame (server : Server H) (store : String) {setUp : List Statement}
    (allowed : Allows may (⟨"BEGIN", []⟩ :: ⟨"ROLLBACK", []⟩ :: setUp)) :
    (server.begin store setUp).run.Tame may [] := by
  unfold begin
  refine .connect fun c => ?_
  apply (server.send_tame (allowed.sub (by simp)) (mem_of_some List.mem_cons_self)).bind
  intro sent
  cases sent with
  | error failure => exact .done _
  | ok answer =>
    have held : c ∈ [c] := List.mem_cons_self
    have later : setUp ⊆ ⟨"BEGIN", []⟩ :: ⟨"ROLLBACK", []⟩ :: setUp := fun _ mem => by simp [mem]
    have setting := server.sendAll_tame (allowed.sub later) held
    have giving_up := server.discard_tame (allowed.sub (by simp)) held
    apply (setting.onDrop giving_up).bind
    intro set
    cases set with
    | error failure => exact giving_up.bind fun _ => .done _
    | ok done => exact .done _

theorem begin_opens (server : Server H) (store : String) (setUp : List Statement) :
    (server.begin store setUp).run.Gives (fun opened r => ∀ c, r = .ok c → c ∈ opened) [] := by
  unfold begin
  refine .connect fun c => (Program.Gives.of_mem List.mem_cons_self).bind ?_
  intro opened sent mem
  cases sent with
  | error failure =>
    intro _
    exact nofun
  | ok answer =>
    apply (Program.Gives.of_mem mem).bind
    intro opened set mem
    cases set with
    | error failure =>
      exact (Program.Gives.of_mem mem).bind fun _ _ _ => fun _ => nofun
    | ok done =>
      rintro _ ⟨⟩
      exact mem

end Server

theorem Postgres.store_lawful (server : Server H) (policy : RetryPolicy)
    (isolation : Option IsolationLevel) : (Postgres.store server policy isolation).Lawful where
  start _ := server.begin_tame _ (Server.allows_plain _)
  start_opens _ := server.begin_opens _ _
  prepare _ _ := .done _
  restart _ _ _ _ := .done _
  commit _ := server.finish_tame (Server.allows_plain _) List.mem_cons_self
  rollback _ := server.finish_tame (Server.allows_plain _) List.mem_cons_self

theorem MySql.store_lawful (server : Server H) (policy : RetryPolicy) :
    (MySql.store server policy).Lawful where
  start _ := server.begin_tame _ (Server.allows_plain _)
  start_opens _ := server.begin_opens _ _
  prepare _ _ := .done _
  restart _ _ _ _ := .done _
  commit _ := server.finish_tame (Server.allows_plain _) List.mem_cons_self
  rollback _ := server.finish_tame (Server.allows_plain _) List.mem_cons_self

namespace Cockroach

variable {may : Event H.Note → Prop}

theorem prepare_tame (server : Server H) (allowed : Server.Allows may [releaseSavepoint])
    (mode : Mode) (c : Connection) : (prepare server mode c).run.Tame may [c] := by
  cases mode with
  | readWrite => exact server.sendAll_tame allowed List.mem_cons_self
  | readOnly => exact .done _

theorem restart_tame (server : Server H) (allowed : Server.Allows may [rewind])
    (settings : Settings) (mode : Mode) (c : Connection) (failure : Failure) (restarts : Nat) :
    (restart server settings mode c failure restarts).run.Tame may [c] := by
  unfold restart
  split
  · apply (server.send_tame allowed (Server.mem_of_some List.mem_cons_self)).bind
    intro sent
    cases sent <;> exact .done _
  · exact .done _

theorem store_lawful (server : Server H) (settings : Settings) :
    (store server settings).Lawful where
  start _ := server.begin_tame _ (Server.allows_plain _)
  start_opens _ := server.begin_opens _ _
  prepare := prepare_tame server (Server.allows_plain _)
  restart := restart_tame server (fun _ _ _ _ => trivial) settings
  commit _ := server.finish_tame (Server.allows_plain _) List.mem_cons_self
  rollback _ := server.finish_tame (Server.allows_plain _) List.mem_cons_self

end Cockroach

end SessionKeeper
