import SessionKeeper.Proofs.Sql.RestartProtocol

/-!
The databases that speak the protocol of PostgreSQL: PostgreSQL itself, whose conflicts make another
attempt, and CockroachDB, whose conflicts rewind the transaction. What is proved here of both is
what a unit of work has to know of its database to tell what was committed.

`Database.SpeaksPostgres` has one constructor for each of the two, at any settings. The store is
lawful, and ends its transactions as the server does. What it sends before that has no arguments and
is no `COMMIT`, and the last thing that it sends before a run that follows a restart has rewound the
transaction. Nothing is repeated because of a failure that no server's error is behind.
-/

namespace SessionKeeper

variable {H : Host}

/-- The database is one of PostgreSQL or of CockroachDB. -/
inductive Database.SpeaksPostgres : Database H → Prop
  | postgres (server : Server H) (policy : RetryPolicy) (isolation : Option IsolationLevel) :
      SpeaksPostgres (Postgres.database server policy isolation)
  | cockroach (server : Server H) (settings : Cockroach.Settings) :
      SpeaksPostgres (Cockroach.database server settings)

namespace Database.SpeaksPostgres

variable {db : Database H} {c : Connection} {s s' : State H}

theorem lawful (speaks : db.SpeaksPostgres) : db.store.Lawful := by
  cases speaks with
  | postgres server policy isolation => exact Postgres.store_lawful server policy isolation
  | cockroach server settings => exact Cockroach.store_lawful server settings

theorem endsBy (speaks : db.SpeaksPostgres) : db.store.EndsBy db.server := by
  cases speaks with
  | postgres server policy isolation => exact ⟨rfl, rfl⟩
  | cockroach server settings => exact Cockroach.store_endsBy server settings

/-- What the store sends before the end of a transaction has no arguments, and is no `COMMIT`. -/
theorem sends (speaks : db.SpeaksPostgres) {P : Statement → Prop}
    (bare : ∀ statement, statement.args = [] → statement ≠ Server.committing → P statement) :
    db.store.Sends .readWrite P := by
  have began : P Server.beginning := bare _ rfl (by decide)
  have discarded : P Server.rollingBack := bare _ rfl (by decide)
  cases speaks with
  | postgres server policy isolation =>
    refine ⟨(server.begin_tame _ (Server.allows_sends ?_)).confined, fun _ => trivial,
      fun _ _ _ => trivial⟩
    simp only [Postgres.setUp, List.append_nil, List.mem_cons, Option.mem_toList,
      Option.map_eq_some_iff]
    rintro statement (rfl | rfl | ⟨level, -, rfl⟩)
    · exact began
    · exact discarded
    · cases level <;> exact bare _ rfl (by decide)
  | cockroach server settings =>
    have released : ∀ x ∈ [Cockroach.releaseSavepoint], P x := by
      simpa using bare Cockroach.releaseSavepoint rfl (by decide)
    have rewound : ∀ x ∈ [Cockroach.rewind], P x := by
      simpa using bare Cockroach.rewind rfl (by decide)
    have saved : P Cockroach.savepoint := bare _ rfl (by decide)
    refine ⟨(server.begin_tame _ (Server.allows_sends ?_)).confined,
      fun c =>
        (Cockroach.prepare_tame server (Server.allows_sends released) .readWrite c).confined,
      fun c failure n => (Cockroach.restart_tame server (Server.allows_sends rewound) settings
        .readWrite c failure n).confined⟩
    simp only [Cockroach.setUp, List.mem_cons, List.not_mem_nil, or_false]
    rintro statement (rfl | rfl | rfl)
    · exact began
    · exact discarded
    · exact saved

theorem prepare_sent (speaks : db.SpeaksPostgres)
    (ran : (db.store.prepare .readWrite c).run.run s = (.ok (.ok ()), s')) :
    ∃ prepared, sent c s'.trace = sent c s.trace ++ prepared ∧
      ∀ x ∈ prepared, x.1 = Cockroach.releaseSavepoint := by
  cases speaks with
  | postgres server policy isolation =>
    cases ran
    exact ⟨[], by simp, by simp⟩
  | cockroach server settings =>
    obtain ⟨answer, answered, sends⟩ := Server.sendAll_singleton_account ran
    cases sends with
    | @answered answer _ unread executed read =>
      exact ⟨[(Cockroach.releaseSavepoint, .ok answer)], by simp [executed], by simp⟩
    | refused => cases answered
    | unread => cases answered

/-- The last thing that was sent before a run that follows a restart has rewound the transaction. -/
theorem rewound (speaks : db.SpeaksPostgres) {handle : Handle} {ctx : RequestContext}
    {failure : Failure} {restarts : Nat}
    (account : Store.StartOverTo db.store .readWrite handle ctx failure restarts s (.ok ()) s')
    (leads : s.connectionOf handle.lease = some c) :
    ∃ earlier answer, sent c s'.trace = earlier ++ [(Cockroach.rewind, .ok answer)] := by
  cases speaks with
  | postgres server policy isolation =>
    cases account with
    | ready status restart ran =>
      cases restart with
      | answered hlease asked => cases asked
  | cockroach server settings =>
    obtain ⟨exchanges, readying, hsent⟩ := Cockroach.startOver_sent account leads
    cases readying with
    | ready answer serializes allowed => exact ⟨_, answer, hsent⟩

/-- There is no restart because of a failure that no server error is behind. -/
theorem declines (speaks : db.SpeaksPostgres) {failure : Failure}
    (own : failure.serverErrors = []) : db.store.Declines .readWrite failure := by
  intro c n
  cases speaks with
  | postgres server policy isolation => rfl
  | cockroach server settings =>
    have unwanted : Cockroach.wantsRestart settings .readWrite failure n = false := by
      simp [Cockroach.wantsRestart, own]
    change (Cockroach.restart server settings .readWrite c failure n).run = _
    rw [Cockroach.restart, unwanted]
    rfl

theorem retries_eq_false (speaks : db.SpeaksPostgres) {failure : Failure}
    (own : failure.serverErrors = []) : db.store.retries failure = false := by
  cases speaks with
  | postgres server policy isolation =>
    simp [Postgres.database, Postgres.store, ConflictRule.retries, own]
  | cockroach server settings =>
    simp [Cockroach.database, Cockroach.store, ConflictRule.retries, own]

end Database.SpeaksPostgres

end SessionKeeper
