import SessionKeeper.Proofs.Session.Answered
import SessionKeeper.Proofs.Session.Effects
import SessionKeeper.Proofs.Sql.Follows

/-!
The six operations on refresh tokens as requests to the session service. Each is answered
(`TokenRequest.serve_answers`), and its answer says what it has done to the table
(`TokenRequest.serve_ledger`): rotating a token and ending the sessions of its owner are
transactions, of which the table shows all or nothing; every other one is a query on the pool.

`TokenRequest.Does` is what a request that gave a value has done to the table, one case for each
operation. `TokenRequest.Leaves` says the rest: a transaction that fails leaves the table as it was,
while of a query that fails on the pool all may have been done.
-/

namespace SessionKeeper

variable {H : Host}

theorem Session.createRefreshToken_follows {db : Database H} {R : Succession H}
    (leads : db.server.Leads R) (inner : RequestContext) (user : Int) :
    (createRefreshToken db inner user).run.Follows R := by
  open Program.Follows in
  refine step (lift (ask trivial done)) fun bytes => ?_
  refine step (lift (ask trivial done)) fun now => ?_
  refine step ?_ fun _ => done _
  have leads : (db.executor inner).server.Leads R := leads
  exact step (leads.query _ _) fun _ => done _

/-- Between `s` and `s'` the wall clock showed `now`. -/
def State.Showed (s s' : State H) (now : Timestamp) : Prop :=
  ∃ i, s.timeline.now ≤ i ∧ i ≤ s'.timeline.now ∧ now = s.epoch.after i

/-- Between `s` and `s'` the bytes were handed out that the token is made of. -/
def State.Drew (s s' : State H) (token : String) : Prop :=
  ∃ k, s.drawn ≤ k ∧ k < s'.drawn ∧ token = Session.hex (s.entropy k)

/-- What is asked of the session service about refresh tokens. -/
inductive TokenRequest where
  | create (user : Int)
  | rotate (token : String)
  | revoke (token : String)
  | revokeAllOf (token : String)
  | revokeUser (user : Int)
  | cleanUp
  deriving DecidableEq, Repr

namespace TokenRequest

@[reducible] def Answer : TokenRequest → Type
  | create _ => String
  | rotate _ => Int × String
  | revoke _ => Unit
  | revokeAllOf _ => Int × Nat
  | revokeUser _ => Nat
  | cleanUp => Nat

/-- The operation that a request is served with. -/
def serve (db : Database H) (ctx : RequestContext) : (r : TokenRequest) → Work H r.Answer
  | create user => Session.createRefreshToken db ctx user
  | rotate token => Session.rotate db ctx token
  | revoke token => Session.revoke db ctx token
  | revokeAllOf token => Session.revokeAllOf db ctx token
  | revokeUser user => Session.revokeUser db ctx user
  | cleanUp => Session.cleanUp db ctx

/-- Whether the request is served in a transaction. -/
def transactional : TokenRequest → Bool
  | rotate _ | revokeAllOf _ => true
  | _ => false

/-- What a request has done to the table that was answered with a value. -/
def Does (s s' : State H) (t t' : TokenTable) : (r : TokenRequest) → r.Answer → Prop
  | create user, token => s.Drew s' token ∧ ∃ now, s.Showed s' now ∧
      t'.rows = t.rows ++ [⟨token, user, (now.after Session.refreshLifetime).atServer⟩]
  | rotate old, (user, token) => s.Drew s' token ∧ ∃ now later, s.Showed s' now ∧
      s.Showed s' later ∧ t.Exchanged t' old now
        ⟨token, user, (later.after Session.refreshLifetime).atServer⟩
  | revoke token, () => t' = t.removing (·.token == token)
  | revokeAllOf token, (user, n) => t.Vacated t' token user n
  | revokeUser user, n => n = (t.selected (·.user == user)).length ∧
      t' = t.removing (·.user == user)
  | cleanUp, n => ∃ now, s.Showed s' now ∧ n = (t.selected (·.expiredBy now)).length ∧
      t' = t.removing (·.expiredBy now)

/-- What a request has done to the table. A transaction that fails leaves it as it was, and of what
fails on the pool all may have been done, or nothing. -/
def Leaves (s s' : State H) (t t' : TokenTable) (r : TokenRequest) : Except Failure r.Answer → Prop
  | .ok value => r.Does s s' t t' value
  | .error _ => t' = t ∨ r.transactional = false ∧ ∃ value, r.Does s s' t t' value

section Serve

variable {db : Database H} {ctx : RequestContext} {s s' : State H} {l l' : Ledger}

/-- The operation on the table that a query on the pool amounts to. -/
theorem leaves_of_execute {r : TokenRequest} {e : Executor H} {q : TokenQuery} {s₁ s₂ : State H}
    {f : Nat → r.Answer} {counted : Except Failure Nat} (pool : r.transactional = false)
    (target : e.target = none) (ran : (e.execute q.statement).run.run s₁ = (.ok counted, s₂))
    (turns : l.Turns s₁ l' s₂)
    (does : q.Makes l.table l'.table → r.Does s s' l.table l'.table (f (q.answer l.table).affected)) :
    r.Leaves s s' l.table l'.table (counted.map f) := by
  rcases e.execute_ledger target ran turns with ⟨rfl, makes⟩ | ⟨⟨failure, rfl⟩, same | makes⟩
  · exact does makes
  · exact .inl same
  · exact .inr ⟨pool, _, does makes⟩

theorem create_ledger {user : Int} {answer : Except Failure String}
    (own : ctx.active? db.store.channel = none)
    (ran : (Session.createRefreshToken db ctx user).run.run s = (.ok answer, s'))
    (turns : l.Turns s l' s') : (create user).Leaves s s' l.table l'.table answer := by
  obtain ⟨stored, rfl, storing⟩ := Session.createRefreshToken_run ran
  have later := Program.later_of_run storing
  have drawn : s.Drew s' (Session.nextToken s) := ⟨s.drawn, Nat.le_refl _, later.drawn, rfl⟩
  have clock : s.Showed s' (s.epoch.after s.timeline.now) :=
    ⟨_, Nat.le_refl _, later.timeline.now, rfl⟩
  refine leaves_of_execute (r := create user) rfl own storing (l := l) ⟨turns.recorded⟩ ?_
  rintro ⟨fits, table⟩
  exact ⟨drawn, _, clock, by rw [table, TokenQuery.rows_insert fits]⟩

theorem revoke_ledger {token : String} {answer : Except Failure Unit}
    (own : ctx.active? db.store.channel = none)
    (ran : (Session.revoke db ctx token).run.run s = (.ok answer, s'))
    (turns : l.Turns s l' s') : (revoke token).Leaves s s' l.table l'.table answer := by
  have erased : ∀ {counted}, ((db.executor ctx).execute (TokenQuery.erase token).statement).run.run s =
      (.ok counted, s') →
      (revoke token).Leaves s s' l.table l'.table (counted.map fun _ => ()) := fun erasing =>
    leaves_of_execute (r := revoke token) rfl own erasing turns fun makes => makes.table
  rcases Program.run_step_inv ran with ⟨failure, erasing, rfl⟩ | ⟨count, s₁, erasing, returned⟩
  · exact erased erasing
  · cases returned
    exact erased erasing

theorem revokeUser_ledger {user : Int} {answer : Except Failure Nat}
    (own : ctx.active? db.store.channel = none)
    (ran : (Session.revokeUser db ctx user).run.run s = (.ok answer, s'))
    (turns : l.Turns s l' s') : (revokeUser user).Leaves s s' l.table l'.table answer := by
  have left : (revokeUser user).Leaves s s' l.table l'.table (answer.map id) :=
    leaves_of_execute rfl own ran turns fun makes => ⟨Nat.zero_add _, makes.table⟩
  cases answer <;> exact left

theorem cleanUp_ledger {answer : Except Failure Nat} (own : ctx.active? db.store.channel = none)
    (ran : (Session.cleanUp db ctx).run.run s = (.ok answer, s'))
    (turns : l.Turns s l' s') : cleanUp.Leaves s s' l.table l'.table answer := by
  let now := s.epoch.after s.timeline.now
  have clocked : (Session.cleanUp db ctx).run.run s =
      ((db.executor ctx).execute (TokenQuery.eraseExpired now).statement >>= fun removed => do
        if 0 < removed then
          Work.lift (.log .info s!"[session] removed {removed} expired refresh tokens")
        return removed).run.run s := rfl
  have erased : ∀ {counted s₁},
      ((db.executor ctx).execute (TokenQuery.eraseExpired now).statement).run.run s =
        (.ok counted, s₁) → s₁.trace = s'.trace →
      cleanUp.Leaves s s' l.table l'.table counted := by
    intro counted s₁ erasing same
    have turned : l.Turns s l' s₁ := ⟨same ▸ turns.recorded⟩
    have shown : s.Showed s' now :=
      ⟨_, Nat.le_refl _, (Program.later_of_run ran).timeline.now, rfl⟩
    have left : cleanUp.Leaves s s' l.table l'.table (counted.map id) :=
      leaves_of_execute rfl own erasing turned fun makes =>
        ⟨now, shown, Nat.zero_add _, makes.table⟩
    cases counted <;> exact left
  rw [clocked] at ran
  rcases Program.run_step_inv ran with ⟨failure, erasing, rfl⟩ | ⟨count, s₁, erasing, logged⟩
  · exact erased erasing rfl
  · -- Whether or not the number is logged, it is the answer.
    by_cases some : 0 < count
    · simp only [if_pos some] at logged
      cases logged
      exact erased erasing rfl
    · simp only [if_neg some] at logged
      cases logged
      exact erased erasing rfl

section Transactions

variable (speaks : db.SpeaksPostgres) (sound : s.Sound) (own : ctx.active? db.store.channel = none)
  (turns : l.Turns s l' s') (blank : ∀ c ∉ s.connections, l.drafts c = {})

include speaks sound own turns blank

theorem rotate_ledger {old : String} {answer : Except Failure (Int × String)}
    (ran : (Session.rotate db ctx old).run.run s = (.ok answer, s')) :
    (rotate old).Leaves s s' l.table l'.table answer := by
  have called : (db.store.call .readWrite ctx (Session.rotation db old)).run.run s =
      (.ok answer, s') := ran
  obtain ⟨failed, gave⟩ :=
    (Session.rotation_enquires db old).call_ledger speaks sound own called turns blank
  cases answer with
  | error failure => exact .inl (failed failure rfl)
  | ok value =>
    obtain ⟨user, token⟩ := value
    obtain ⟨c, handle, r, obtained⟩ := gave _ rfl
    obtain ⟨restarts, s₁, runs⟩ := obtained.runs
    obtain ⟨given, verdict, account⟩ := Session.run_account runs
    obtain rfl := Except.ok.inj (verdict.symm.trans obtained.verdict)
    obtain ⟨taken, stored, rotates⟩ := account.rotates obtained.leads
    obtain ⟨i, j, le, le', le'', added⟩ := rotates.added
    obtain ⟨row, rest, shown⟩ := rotates.answered
    obtain ⟨k, drawn, drawn', rfl⟩ := rotates.drawn
    have before := obtained.before
    have after := obtained.after
    have serves := obtained.serves
    rw [WorkRun.sent, added, sent_executed, sent_executed, sent_nil, before.epoch] at serves
    have first := Nat.le_trans before.timeline.now le
    have last := Nat.le_trans le'' after.timeline.now
    refine ⟨⟨k, Nat.le_trans before.drawn drawn, Nat.lt_of_lt_of_le drawn' after.drawn,
      by rw [before.entropy]⟩, _, _, ⟨i, first, Nat.le_trans le' last, rfl⟩,
      ⟨j, Nat.le_trans first le', last, rfl⟩, ?_⟩
    exact TokenTable.exchanged_of_serves shown serves

theorem revokeAllOf_ledger {token : String} {answer : Except Failure (Int × Nat)}
    (ran : (Session.revokeAllOf db ctx token).run.run s = (.ok answer, s')) :
    (revokeAllOf token).Leaves s s' l.table l'.table answer := by
  have called : (db.store.call .readWrite ctx (Session.revocation db token)).run.run s =
      (.ok answer, s') := ran
  obtain ⟨failed, gave⟩ :=
    (Session.revocation_enquires db token).call_ledger speaks sound own called turns blank
  cases answer with
  | error failure => exact .inl (failed failure rfl)
  | ok value =>
    obtain ⟨user, n⟩ := value
    obtain ⟨c, handle, r, obtained⟩ := gave _ rfl
    obtain ⟨restarts, s₁, runs⟩ := obtained.runs
    have working := runs.ran
    rw [obtained.verdict] at working
    obtain ⟨i, j, shown, erased, row, rest, trace, owner, rfl⟩ := Session.revocation_sent
      (RequestContext.active?_bind_self ctx db.store.channel handle) obtained.leads
      (Program.run_of_catchPanic working)
    have serves := obtained.serves
    rw [WorkRun.sent, r.added_eq trace, sent_executed, sent_executed, sent_nil] at serves
    exact TokenTable.vacated_of_serves owner serves

/-- However a request is answered, that is what it has done to the table. -/
theorem serve_ledger {r : TokenRequest} {answer : Except Failure r.Answer}
    (ran : (r.serve db ctx).run.run s = (.ok answer, s')) :
    r.Leaves s s' l.table l'.table answer := by
  cases r with
  | create user => exact create_ledger own ran turns
  | rotate token => exact rotate_ledger speaks sound own turns blank ran
  | revoke token => exact revoke_ledger own ran turns
  | revokeAllOf token => exact revokeAllOf_ledger speaks sound own turns blank ran
  | revokeUser user => exact revokeUser_ledger own ran turns
  | cleanUp => exact cleanUp_ledger own ran turns

end Transactions

end Serve

/-! ## Serving -/

section Serving

variable {db : Database H} {ctx : RequestContext} {R : Succession H}

/-- Every request is answered. -/
theorem serve_answers (speaks : db.SpeaksPostgres) (r : TokenRequest) :
    (r.serve db ctx).run.Answers := by
  open Program (Attended) in
  cases r with
  | create user => exact Session.createRefreshToken_answers db ctx user
  | rotate token => exact Session.rotate_answers speaks.lawful speaks.attends token
  | revoke token => exact Attended.step ((db.executor ctx).query_answers _ _) fun _ => trivial
  | revokeAllOf token =>
    have called : (db.store.call .readWrite ctx (Session.revocation db token)).run.Answers := by
      refine Store.call_attended speaks.lawful speaks.attends fun inner => ?_
      refine Attended.step ((db.executor inner).query_answers _ _) fun owner => ?_
      cases owner with
      | none => trivial
      | some user =>
        exact Attended.step ((db.executor inner).query_answers _ _) fun _ => trivial
    exact called
  | revokeUser user => exact (db.executor ctx).query_answers _ _
  | cleanUp =>
    refine Attended.step (Attended.lift fun _ => trivial) fun now => ?_
    refine Attended.step ((db.executor ctx).query_answers _ _) fun removed => ?_
    by_cases some : 0 < removed
    · simp only [if_pos some]
      exact fun _ => trivial
    · simp only [if_neg some]
      trivial

/-- Of the state of the host a request changes nothing but by what it sends. -/
theorem serve_follows (speaks : db.SpeaksPostgres) (leads : db.server.Leads R) (r : TokenRequest) :
    (r.serve db ctx).run.Follows R := by
  open Program.Follows in
  have leading : ∀ inner, (db.executor inner).server.Leads R := fun _ => leads
  cases r with
  | create user => exact Session.createRefreshToken_follows leads ctx user
  | rotate token =>
    have called : (db.store.call .readWrite ctx (Session.rotation db token)).run.Follows R := by
      refine Store.call_follows (speaks.follows leads) fun inner => ?_
      refine step (lift (ask trivial done)) fun now => ?_
      refine step ((leading inner).query _ _) fun taken => ?_
      cases taken with
      | none => exact done _
      | some user => exact step (Session.createRefreshToken_follows leads inner user) fun _ => done _
    exact called
  | revoke token => exact step ((leading ctx).query _ _) fun _ => done _
  | revokeAllOf token =>
    have called : (db.store.call .readWrite ctx (Session.revocation db token)).run.Follows R := by
      refine Store.call_follows (speaks.follows leads) fun inner => ?_
      refine step ((leading inner).query _ _) fun owner => ?_
      cases owner with
      | none => exact done _
      | some user => exact step ((leading inner).query _ _) fun _ => done _
    exact called
  | revokeUser user => exact (leading ctx).query _ _
  | cleanUp =>
    refine step (lift (ask trivial done)) fun now => ?_
    refine step ((leading ctx).query _ _) fun removed => ?_
    by_cases some : 0 < removed
    · simp only [if_pos some]
      exact step (lift (ask trivial done)) fun _ => done _
    · simp only [if_neg some]
      exact done _

theorem serve_keeps (lawful : db.store.Lawful) (r : TokenRequest) :
    (r.serve db ctx).run.Keeps [] := by
  cases r with
  | create user =>
    exact .of_confined (Session.createRefreshToken_confined (fun _ _ _ _ _ => trivial) db ctx user)
  | rotate token =>
    have conduct : Conduct False ctx [] (Session.rotate db ctx token).run :=
      Session.rotate_conduct lawful token
    exact conduct.keeps
  | revoke token =>
    have conduct : Conduct False ctx [] (Session.revoke db ctx token).run :=
      Session.revoke_conduct db ctx token
    exact conduct.keeps
  | revokeAllOf token =>
    have conduct : Conduct False ctx [] (Session.revokeAllOf db ctx token).run :=
      Session.revokeAllOf_conduct lawful token
    exact conduct.keeps
  | revokeUser user =>
    exact .of_confined ((db.executor ctx).query_confined (fun _ _ _ _ => trivial) _)
  | cleanUp =>
    refine .of_confined (.step Session.wallClock_confined fun now => ?_)
    refine .step ((db.executor ctx).query_confined (fun _ _ _ _ => trivial) _) fun removed => ?_
    by_cases some : 0 < removed
    · simp only [if_pos some]
      exact ⟨trivial, fun _ => trivial⟩
    · simp only [if_neg some]
      trivial

end Serving

end TokenRequest

end SessionKeeper
