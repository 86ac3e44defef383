import SessionKeeper.Proofs.Sql.Attended
import SessionKeeper.Proofs.Sql.Pool
import SessionKeeper.Proofs.Sql.ReadOnly
import SessionKeeper.Session.Table

/-!
Looking up a user. The unit of work asks the server for one user and for nothing else, once at most
in a run (`finding_asks`), and gives what the server answered to that (`finding_account`). So a
lookup in a read-only transaction gives a user just when one is in the row of a transaction that was
committed, and none just when such a transaction had no row (`lookup_settles`).

Correspondence: `get_user_by_id` ↔ `Users.find?`, and `Users.finding` is the unit of work around it.
`Users.Lookup` gathers what is known of a call of it: its attempts, what was sent, and the answer.
-/

namespace SessionKeeper.Users

variable {H : Host} {db : Database H} {user : Int} {ctx inner : RequestContext} {handle : Handle}
  {begun : Connection} {restarts : Nat} {s s' : State H}

theorem read_eq_ok_iff {d : Dialect} {row : List Datum} {found : User} :
    read d row = .ok found ↔ ∃ rest, row = .int found.id :: .text found.username :: rest := by
  constructor
  · intro ran
    obtain ⟨id, name⟩ := found
    rcases row with _ | ⟨first, _ | ⟨second, rest⟩⟩
    · cases ran
    · cases first <;> cases ran
    · cases first <;> cases second <;> cases ran
      exact ⟨rest, rfl⟩
  · rintro ⟨rest, rfl⟩
    rfl

/-! ## Runs of the unit of work -/

/-- The unit of work that looks up a user. -/
def finding (db : Database H) (user : Int) : UnitOfWork H (Option User) :=
  fun ctx => find? (db.executor ctx) user

theorem finding_eq (db : Database H) (user : Int) (inner : RequestContext) :
    finding db user inner = (db.executor inner).query (lookup user)
      (Executor.readOptional (read db.dialect)) := rfl

theorem finding_keeps (db : Database H) (user : Int) (inner : RequestContext) :
    (finding db user inner).run.Keeps [] :=
  .of_confined ((db.executor inner).query_confined (fun _ _ _ _ => trivial) _)

theorem finding_answers (db : Database H) (user : Int) (inner : RequestContext) :
    (finding db user inner).run.Answers :=
  (db.executor inner).query_answers _ _

theorem lookup_ne_committing (user : Int) : lookup user ≠ Server.committing := by
  simp [lookup, Server.committing]

theorem finding_sends_no_commit (db : Database H) (user : Int) (inner : RequestContext) :
    (finding db user inner).run.Confined ⟨Event.Sends (· ≠ Server.committing), fun _ => True⟩
      [] := by
  refine (db.executor inner).query_confined (Server.allows_sends ?_) _
  rintro statement mem
  rw [List.mem_singleton.mp mem]
  exact lookup_ne_committing user

/-- No run panics, and what it gives is what the server answered. -/
theorem finding_account {r : WorkRun H (Option User)}
    (runs : db.store.Runs handle begun (finding db user) ctx restarts s r) :
    ∃ answer, r.verdict = .ok answer ∧ Executor.QueryTo ctx.signal handle (lookup user)
      (Executor.readOptional (read db.dialect)) r.before answer r.after := by
  obtain ⟨answer, verdict, ran⟩ := runs.answered fun inner => (db.executor inner).query_calm _ _
  exact ⟨answer, verdict,
    Executor.query_account (RequestContext.active?_bind_self ctx db.store.channel handle) ran⟩

/-- In a run the server is asked for the user at most, once, on the connection of the attempt. -/
theorem finding_asks {r : WorkRun H (Option User)} (underway : Underway handle begun [] s)
    (runs : db.store.Runs handle begun (finding db user) ctx restarts s r) :
    r.AsksOnce begun (lookup user) := by
  have leads := (underway.step (runs.noted underway)).leads
  have ran := Program.run_of_catchPanic runs.ran
  rw [finding_eq] at ran
  rcases Executor.query_asks (RequestContext.active?_bind_self ctx db.store.channel handle) ran with
    nothing | ⟨c, time, reply, lease, executed⟩
  · exact .inl (r.added_eq (nothing.trans (List.append_nil _).symm))
  · obtain rfl := Option.some.inj (lease.symm.trans leads)
    exact .inr ⟨time, reply, r.added_eq executed⟩

/-! ## Lookups -/

/-- Of what was recorded, one transaction was committed and no other. It only read, and one thing
was asked in it, for the user, to which the server gave the answer. -/
def Confirmed (user : Int) (answer : Answer) (added : Trace H.Note) : Prop :=
  ∃ c opening reply, OpensReadOnly opening ∧
    sent c added = opening ++ [(lookup user, .ok answer), (Server.committing, .ok reply)] ∧
    ∀ e ∈ added, ∀ connection, e.2.Commits connection → connection = some c

/-- What a lookup gives, by what was recorded in the course of it. -/
inductive Settles (user : Int) (added : Trace H.Note) : Except Failure (Option User) → Prop
  | found {answer : Answer} {id : Int} {name : String} {row : List Datum}
      {rows : List (List Datum)} :
      Confirmed user answer added → answer.rows = (.int id :: .text name :: row) :: rows →
      Settles user added (.ok (some ⟨id, name⟩))
  | missing {answer : Answer} : Confirmed user answer added → answer.rows = [] →
      Settles user added (.ok none)
  /-- Nothing was committed. -/
  | failed {failure : Failure} :
      (∀ e ∈ added, ∀ connection, ¬ e.2.Commits connection) → Settles user added (.error failure)

/-- The attempt took a transaction for the lookup. -/
abbrev Looks (db : Database H) (ctx : RequestContext) (user : Int) (added : Trace H.Note)
    (m : Made H (Option User)) (t : Transaction H (Option User)) (r : WorkRun H (Option User)) :
    Prop :=
  Database.Reads db ctx (finding db user) (lookup user) added m t r

/-- The lookup of a user, from `s` to `s'`, gave `answer` after the attempts `ms`. -/
structure Lookup (db : Database H) (ctx : RequestContext) (user : Int) (s s' : State H)
    (ms : List (Made H (Option User))) (answer : Except Failure (Option User))
    (added : Trace H.Note) : Prop where
  account : (db.store.policy .readOnly).RunTo ctx db.store.retries
    (db.store.attempt ctx .readOnly (finding db user))
    ((db.store.policy .readOnly).maxAttempts - 1) 1 s ms (.ok answer) s'
  trace : s'.trace = s.trace ++ added
  /-- Each attempt got no connection, or took a transaction that only read, in one run that asked
  for the user at most. -/
  attempts : ∀ m ∈ ms, db.store.Fruitless ctx .readOnly m ∨ ∃ t r, Looks db ctx user added m t r
  /-- Whatever else was sent began, set up or ended a transaction. -/
  statements : ∀ e ∈ added, e.2.AsksOnly (lookup user) fun connection => ∃ m ∈ ms, ∃ t r,
    Looks db ctx user added m t r ∧ connection = some t.connection
  settles : Settles user added answer

/-- What was asked in a transaction that was committed, and answered. -/
theorem looks_confirm {added : Trace H.Note} {m : Made H (Option User)}
    {t : Transaction H (Option User)} {r : WorkRun H (Option User)} {found : Option User}
    (looks : Looks db ctx user added m t r) (gives : m.outcome = .ok (.ok found)) :
    ∃ opening answer reply, OpensReadOnly opening ∧
      sent t.connection added =
        opening ++ [(lookup user, .ok answer), (Server.committing, .ok reply)] ∧
      Executor.readOptional (read db.dialect) answer = .ok found := by
  obtain ⟨takes, ⟨once, ending, opening, finish, unread, opens, ends, hsent⟩, asks⟩ := looks
  rw [gives] at takes
  obtain ⟨succeeded, committed⟩ := takes.of_ok
  obtain ⟨restarts, s₁, runs⟩ := takes.rounds.runs r (by simp [once])
  obtain ⟨answer, verdict, account⟩ := finding_account runs
  rw [succeeded, verdict] at ending
  have gave : answer = .ok found := by
    cases answer <;> cases ending
    rfl
  rw [gave] at account
  obtain ⟨c, answer, -, executed, read⟩ := account.of_ok
  -- The one statement of the run was sent on the connection of the transaction.
  have asked : r.sent t.connection = [(lookup user, .ok answer)] := by
    have added := r.added_eq executed
    rcases asks with nothing | ⟨time, reply, one⟩
    · rw [added] at nothing
      cases nothing
    · have same := one.symm.trans added
      cases (List.singleton_inj.mp same)
      rw [WorkRun.sent, one]
      simp
  rw [succeeded, committed] at ends
  cases ends with
  | answered reply => exact ⟨opening, answer, reply, opens, by rw [hsent, asked]; rfl, read⟩

theorem lookup_settles (speaks : db.SpeaksPostgres) (sound : s.Sound)
    (own : ctx.active? db.store.channel = none) {answer : Except Failure (Option User)}
    (ran : (db.store.readOnlyTransaction ctx (finding db user)).run.run s = (.ok answer, s')) :
    ∃ ms added, Lookup db ctx user s s' ms answer added := by
  have called : (db.store.call .readOnly ctx (finding db user)).run.run s = (.ok answer, s') := ran
  have keeps := finding_keeps db user
  obtain ⟨ms, added, account, trace, commits⟩ := Store.call_commits speaks.lawful speaks.endsBy
    (speaks.sends_readOnly fun _ _ other => other) (finding_sends_no_commit db user) keeps own
    (fun _ => speaks.readOnly) called (by simp) sound (by simp)
  obtain ⟨attempts, statements⟩ := speaks.attempts_ask keeps finding_asks account (by simp) sound
    trace
  refine ⟨ms, added, account, trace, attempts, statements, ?_⟩
  cases answer with
  | error failure =>
    refine .failed fun e mem connection hcommits => ?_
    obtain ⟨⟨value, gave⟩, -⟩ := commits e mem connection hcommits
    cases gave
  | ok found =>
    obtain ⟨earlier, m, rfl, gives, -⟩ := account.last_of_ok
    rcases attempts m (by simp) with ⟨failure, -, failed⟩ | ⟨t, r, looks⟩
    · cases gives.symm.trans failed
    · obtain ⟨opening, answer, reply, opens, hsent, read⟩ := looks_confirm looks gives
      have confirmed : Confirmed user answer added := by
        refine ⟨t.connection, opening, reply, opens, hsent, fun e mem connection hcommits => ?_⟩
        obtain ⟨-, m', d, last, obtained, rfl⟩ := commits e mem connection hcommits
        obtain rfl : m = m' := by simpa using last
        rw [obtained.unique ⟨t.given, looks.takes.given⟩]
      cases found with
      | none => exact .missing confirmed (Executor.readOptional_eq_none_iff.mp read)
      | some found =>
        obtain ⟨first, rows, hrows, read⟩ := Executor.readOptional_eq_some_iff.mp read
        obtain ⟨row, rfl⟩ := read_eq_ok_iff.mp read
        exact .found confirmed hrows

end SessionKeeper.Users
