import SessionKeeper.Proofs.Session.Enquiry

/-!
What is made of the table of refresh tokens by the queries of the session service. Those of a unit
of work are served one after the other: where a token was exchanged for another, its row was
replaced (`TokenTable.exchanged_of_serves`), and where the sessions of its owner were ended, all
rows of that user were removed (`TokenTable.vacated_of_serves`). A query on the pool is done at
once, and may be done even though nobody has heard of it (`Executor.execute_ledger`).

The two transactions of the service are units of work that ask queries and nothing else
(`rotation_enquires`, `revocation_enquires`); which queries they asked is told from what was sent in
their last run.
-/

namespace SessionKeeper

variable {H : Host} {α : Type}

/-! ## Queries -/

theorem TokenQuery.statement_injective {q other : TokenQuery}
    (same : q.statement = other.statement) : q = other := by
  have found := q.ofStatement?_statement
  rw [same, other.ofStatement?_statement] at found
  exact (Option.some.inj found).symm

/-- The query could be done to `t`, and makes `t'` of it. -/
structure TokenQuery.Makes (q : TokenQuery) (t t' : TokenTable) : Prop where
  fits : q.Fits t
  table : t' = q.apply t

namespace TokenTable

variable {t t' : TokenTable} {exchanges : List Exchange}

theorem Serves.of_answered {q : TokenQuery} {answer : Answer}
    (serves : t.Serves ((q.statement, .ok answer) :: exchanges) t') :
    q.Fits t ∧ answer = q.answer t ∧ (q.apply t).Serves exchanges t' := by
  generalize first : (q.statement, (.ok answer : Reply)) = exchange at serves
  cases serves with
  | answered other fits rest =>
    obtain ⟨same, given⟩ := Prod.mk.inj first
    obtain rfl := TokenQuery.statement_injective same
    exact ⟨fits, Except.ok.inj given, rest⟩
  | refused other error rest => cases (Prod.mk.inj first).2

theorem Serves.of_nil (serves : t.Serves [] t') : t' = t := by
  cases serves
  rfl

theorem removing_congr {selects selects' : TokenRow → Bool}
    (same : ∀ row ∈ t.rows, selects row = selects' row) : t.removing selects = t.removing selects' :=
  ext_rows (List.filter_congr fun row mem => by rw [same row mem])

/-- In `t'` the row of the token `old`, which had not expired by `now`, is replaced by one of the same
user. -/
structure Exchanged (t t' : TokenTable) (old : String) (now : Timestamp) (row : TokenRow) : Prop where
  taken : ∃ gone ∈ t.rows, gone.token = old ∧ gone.user = row.user ∧
    now.atServer.nanos < gone.expires.nanos
  rows : t'.rows = (t.removing (·.token == old)).rows ++ [row]

/-- In `t'` there are none of the `n` rows of the user who owned the token. -/
structure Vacated (t t' : TokenTable) (token : String) (user : Int) (n : Nat) : Prop where
  owned : ∃ row ∈ t.rows, row.token = token ∧ row.user = user
  count : n = (t.selected (·.user == user)).length
  table : t' = t.removing (·.user == user)

theorem selected_of_shown {q : TokenQuery} {user : Int} {rest : List Datum}
    {more : List (List Datum)} (shown : (q.answer t).rows = (.int user :: rest) :: more) :
    ∃ row ∈ t.rows, q.selects row ∧ row.user = user := by
  have mem : (.int user :: rest : List Datum) ∈ (q.answer t).rows := shown ▸ List.mem_cons_self
  unfold TokenQuery.answer at mem
  simp only at mem
  split at mem
  · obtain ⟨row, selected, same⟩ := List.mem_map.mp mem
    obtain ⟨known, selects⟩ := List.mem_filter.mp selected
    cases same
    exact ⟨row, known, selects, rfl⟩
  · cases mem

/-- A token that was taken and another that was stored then are exchanged. -/
theorem exchanged_of_serves {old token : String} {user : Int} {now expires : Timestamp}
    {taken stored : Answer} {row : List Datum} {rest : List (List Datum)}
    (shown : taken.rows = (.int user :: row) :: rest)
    (serves : t.Serves [((TokenQuery.take old now).statement, .ok taken),
      ((TokenQuery.insert token user expires).statement, .ok stored)] t') :
    t.Exchanged t' old now ⟨token, user, expires.atServer⟩ := by
  obtain ⟨-, rfl, storing⟩ := serves.of_answered
  obtain ⟨fits, -, nothing⟩ := storing.of_answered
  obtain rfl := nothing.of_nil
  obtain ⟨gone, mem, selects, owner⟩ := selected_of_shown shown
  simp only [TokenQuery.selects, Bool.and_eq_true, beq_iff_eq, decide_eq_true_eq] at selects
  obtain ⟨rfl, unexpired⟩ := selects
  refine ⟨⟨gone, mem, rfl, owner, unexpired⟩, ?_⟩
  -- No other row has this token, so that none is spared for having expired.
  have same : (TokenQuery.take gone.token now).apply t = t.removing (·.token == gone.token) := by
    refine removing_congr fun other mem' => ?_
    by_cases token : other.token = gone.token
    · obtain rfl := eq_of_token mem' mem token
      simp [TokenQuery.selects, unexpired]
    · simp [TokenQuery.selects, token]
  rw [TokenQuery.rows_insert fits, same]

theorem vacated_of_serves {token : String} {user : Int} {shown erased : Answer} {row : List Datum}
    {rest : List (List Datum)} (owner : shown.rows = (.int user :: row) :: rest)
    (serves : t.Serves [((TokenQuery.owner token).statement, .ok shown),
      ((TokenQuery.eraseUser user).statement, .ok erased)] t') :
    t.Vacated t' token user erased.affected := by
  obtain ⟨-, rfl, erasing⟩ := serves.of_answered
  obtain ⟨-, rfl, nothing⟩ := erasing.of_answered
  obtain rfl := nothing.of_nil
  obtain ⟨found, mem, selects, rfl⟩ := selected_of_shown owner
  exact ⟨⟨found, mem, beq_iff_eq.mp selects, rfl⟩, Nat.zero_add _, rfl⟩

end TokenTable

/-! ## The pool -/

section Pool

variable {l l' : Ledger} {s s' : State H} {q : TokenQuery}

/-- A query on the pool is done at once, or refused. -/
theorem Ledger.Turns.pool (turns : l.Turns s l' s') {time : Instant} {reply : Reply}
    (trace : s'.trace = s.trace ++ [(time, .executed none q.statement reply)]) :
    (∃ error, reply = .error error) ∧ l'.table = l.table ∨
      reply = .ok (q.answer l.table) ∧ q.Makes l.table l'.table := by
  obtain ⟨⟨agrees, -⟩, rfl⟩ := turns.of_added trace
  cases reply with
  | error error => exact .inl ⟨⟨error, rfl⟩, rfl⟩
  | ok answer =>
    obtain ⟨fits, rfl⟩ := agrees q q.ofStatement?_statement
    have table : (l.enterAll [(Event.executed none q.statement (.ok (q.answer (l.view none))) :
        Event H.Note)]).table = q.apply l.table := by
      simp [Ledger.enterAll, Ledger.enter, q.ofStatement?_statement]
    exact .inr ⟨rfl, fits, table⟩

/-- A query on the pool gives the number of rows that it touched. If it fails, it may have been done
all the same. -/
theorem Executor.execute_ledger {e : Executor H} (target : e.target = none)
    {answer : Except Failure Nat} (ran : (e.execute q.statement).run.run s = (.ok answer, s'))
    (turns : l.Turns s l' s') :
    answer = .ok (q.answer l.table).affected ∧ q.Makes l.table l'.table ∨
      (∃ failure, answer = .error failure) ∧ (l'.table = l.table ∨ q.Makes l.table l'.table) := by
  cases pool_account target ran with
  | replied reply trace =>
    rcases turns.pool trace with ⟨⟨error, rfl⟩, same⟩ | ⟨rfl, makes⟩
    · exact .inr ⟨⟨_, rfl⟩, .inl same⟩
    · exact .inl ⟨rfl, makes⟩
  | interrupted reason executed =>
    refine .inr ⟨⟨_, rfl⟩, ?_⟩
    rcases executed with nothing | ⟨time, reply, trace⟩
    · exact .inl (turns.table_eq (.of_trace_eq nothing))
    · rcases turns.pool trace with ⟨-, same⟩ | ⟨-, makes⟩
      · exact .inl same
      · exact .inr makes

end Pool

/-! ## Units of work -/

namespace Session

variable {db : Database H} {old token : String} {inner : RequestContext} {handle : Handle}
  {s s' : State H}

theorem createRefreshToken_asks {user : Int} {outcome : Except Stop (Except Failure String)}
    (active : inner.active? db.store.channel = some handle)
    (ran : (createRefreshToken db inner user).run.run s = (outcome, s')) : handle.Asks s s' := by
  have target : (db.executor inner).target = some handle := active
  refine Handle.Asks.step ran (fun drawn => ?_) fun {bytes} _ _ _ ran => ?_
  · cases drawn
    exact .of_eq rfl rfl
  refine Handle.Asks.step ran (fun clocked => ?_) fun {now} _ _ _ ran => ?_
  · cases clocked
    exact .of_eq rfl rfl
  refine Handle.Asks.step ran (fun storing => ?_) fun returned => ?_
  · refine Handle.Asks.step storing (Handle.Asks.query target (.insert _ user _)) fun counted => ?_
    cases counted
    exact .of_eq rfl rfl
  · cases returned
    exact .of_eq rfl rfl

theorem rotation_enquires (db : Database H) (old : String) : db.Enquires (rotation db old) where
  keeps := rotation_keeps db old
  sends inner := rotation_confined (fun q => Server.allows_sends fun _ mem =>
    ⟨q, List.mem_singleton.mp mem⟩) db old inner
  asks {inner handle s s' outcome} active ran := by
    have target : (db.executor inner).target = some handle := active
    refine Handle.Asks.step ran (fun clocked => ?_) fun {now} _ _ _ ran => ?_
    · cases clocked
      exact .of_eq rfl rfl
    refine Handle.Asks.step ran (Handle.Asks.query target (.take old now)) fun {taken} _ _ _ ran => ?_
    cases taken with
    | none =>
      cases ran
      exact .of_eq rfl rfl
    | some user =>
      refine Handle.Asks.step ran (createRefreshToken_asks active) fun returned => ?_
      cases returned
      exact .of_eq rfl rfl

/-- The unit of work that ends every session of the owner of a token. -/
def revocation (db : Database H) (token : String) : UnitOfWork H (Int × Nat) := fun ctx => do
  let e := db.executor ctx
  match ← RefreshTokens.owner? e token with
  | none => throw unknownToken
  | some user => return (user, ← RefreshTokens.eraseUser e user)

theorem revocation_confined {may : Event H.Note → Prop} {held : List Connection}
    (allowed : ∀ q : TokenQuery, Server.Allows may [q.statement]) (db : Database H) (token : String)
    (inner : RequestContext) :
    (revocation db token inner).run.Confined ⟨may, fun _ => True⟩ held := by
  apply Program.Confined.step ((db.executor inner).query_confined (allowed (.owner token)) _)
  intro owner
  cases owner with
  | none => trivial
  | some user =>
    exact .step ((db.executor inner).query_confined (allowed (.eraseUser user)) _) fun _ => trivial

theorem revocation_enquires (db : Database H) (token : String) :
    db.Enquires (revocation db token) where
  keeps inner := .of_confined (revocation_confined (fun _ _ _ _ _ => trivial) db token inner)
  sends inner := revocation_confined (fun q => Server.allows_sends fun _ mem =>
    ⟨q, List.mem_singleton.mp mem⟩) db token inner
  asks {inner handle s s' outcome} active ran := by
    have target : (db.executor inner).target = some handle := active
    refine Handle.Asks.step ran (Handle.Asks.query target (.owner token)) fun {owner} _ _ _ ran => ?_
    cases owner with
    | none =>
      cases ran
      exact .of_eq rfl rfl
    | some user =>
      refine Handle.Asks.step ran (Handle.Asks.query target (.eraseUser user)) fun returned => ?_
      cases returned
      exact .of_eq rfl rfl

/-- What was sent in a run that ended the sessions of the owner. -/
theorem revocation_sent {c : Connection} {user : Int} {n : Nat}
    (active : inner.active? db.store.channel = some handle)
    (leads : s.connectionOf handle.lease = some c)
    (ran : (revocation db token inner).run.run s = (.ok (.ok (user, n)), s')) :
    ∃ i j shown erased row rest, s'.trace = s.trace ++
        [(i, .executed (some c) (TokenQuery.owner token).statement (.ok shown)),
          (j, .executed (some c) (TokenQuery.eraseUser user).statement (.ok erased))] ∧
      shown.rows = (.int user :: row) :: rest ∧ n = erased.affected := by
  have target : (db.executor inner).target = some handle := active
  rcases Program.run_step_inv ran with ⟨failure, -, same⟩ | ⟨owner, s₁, showing, ran⟩
  · cases same
  cases owner with
  | none => cases ran
  | some owner =>
    rcases Program.run_step_inv ran with ⟨failure, -, same⟩ | ⟨count, s₂, erasing, returned⟩
    · cases same
    cases returned
    obtain ⟨c', shown, lease, trace, read⟩ := (Executor.query_account target showing).of_ok
    obtain ⟨d, erased, lease', trace', counted⟩ := (Executor.query_account target erasing).of_ok
    obtain ⟨first, rest, rows, read⟩ := Executor.readOptional_eq_some_iff.mp read
    obtain ⟨row, rfl⟩ := Dialect.readFirst_eq_ok read
    have same : s₁.connectionOf handle.lease = s.connectionOf handle.lease := by
      rw [State.connectionOf, State.connectionOf, Executor.query_holdings showing]
    obtain rfl := Option.some.inj (lease.symm.trans leads)
    obtain rfl := Option.some.inj (lease'.symm.trans (same.trans leads))
    rw [trace, List.append_assoc] at trace'
    exact ⟨_, _, shown, erased, row, rest, trace', rows, (Except.ok.inj counted).symm⟩

end Session

end SessionKeeper
