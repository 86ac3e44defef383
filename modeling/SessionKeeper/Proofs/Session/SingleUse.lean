import SessionKeeper.Proofs.Session.Requests

/-!
Refresh tokens are good for one use. On a server that keeps the table of them (`Server.KeepsTokens`)
any number of requests are served one after the other (`TokenHistory`), whatever conflicts, fails or
is canceled in the course of them. Each does to the table what its answer says. A token that was
exchanged is gone from the table, and as no token is made twice it never comes back, so it is not
exchanged again (`Session.tokens_single_use`).

Between two requests the surroundings are in order, and the server knows nothing of connections that
are still to be opened (`Ledger.Tidy`). One request keeps that (`Moment.served`), and a history is
gone through by induction.

Assumed of the tokens is that they are new when they are made (`NewTokens`): each is drawn at
random, no two draws of a history are the same, and none is in the table before it.
-/

namespace SessionKeeper

variable {H : Host} {α : Type}

/-! ## Servers that keep the table -/

/-- From the state of the server a ledger can be told. A statement turns the ledger as it should, and
is answered as the ledger calls for. -/
structure Server.KeepsTokens (server : Server H) (ledger : H.State → Ledger) : Prop where
  agrees : ∀ connection statement h, (ledger h).Agrees
    (.executed connection statement (server.respond connection statement h).1.reply : Event H.Note)
  turns : ∀ connection statement h, ledger (server.respond connection statement h).2 =
    (ledger h).enter
      (.executed connection statement (server.respond connection statement h).1.reply :
        Event H.Note)

/-- What a statement is answered with as the ledger calls for. A query that cannot be done violates
the key of the table. -/
def Ledger.reply (l : Ledger) (connection : Option Connection) (statement : Statement) : Reply :=
  match TokenQuery.ofStatement? statement with
  | none => .ok {}
  | some q =>
    if q.Fits (l.view connection) then .ok (q.answer (l.view connection))
    else .error (.database (.state (some "23505") "duplicate key value violates unique constraint"))

/-- A server that is its own ledger and counts what it executes. Which statements fail is up to the
script. -/
def Server.keeping (N : Type) (script : Nat → Option DriverFailure) : Server ⟨Ledger × Nat, N⟩ where
  respond connection statement h :=
    let reply := ((script h.2).map .error).getD (h.1.reply connection statement)
    ({ reply }, h.1.enter (.executed connection statement reply : Event N), h.2 + 1)

theorem Server.keeping_keepsTokens (N : Type) (script : Nat → Option DriverFailure) :
    (Server.keeping N script).KeepsTokens (·.1) where
  turns _ _ _ := rfl
  agrees connection statement h := by
    obtain ⟨l, n⟩ := h
    have answered : ∀ {answer}, l.reply connection statement = .ok answer →
        l.Agrees (.executed connection statement (.ok answer) : Event N) := by
      intro answer same q found
      simp only [Ledger.reply, Option.mem_def.mp found] at same
      split at same
      · exact ⟨‹_›, (Except.ok.inj same).symm⟩
      · cases same
    change l.Agrees (.executed connection statement
      (((script n).map .error).getD (l.reply connection statement)) : Event N)
    cases failing : script n with
    | some error => trivial
    | none =>
      cases same : l.reply connection statement with
      | error error => trivial
      | ok answer => simpa [same] using answered same

/-- How states succeed one another of which a ledger can be told. -/
def Ledger.succession (ledger : H.State → Ledger) : Succession H where
  leads h es h' := (ledger h).AgreesAll es ∧ ledger h' = (ledger h).enterAll es
  still h := ⟨trivial, rfl⟩
  trans := by
    rintro h h₁ h' es more ⟨agrees, turned⟩ ⟨agrees', turned'⟩
    rw [turned] at agrees' turned'
    exact ⟨Ledger.agreesAll_append.mpr ⟨agrees, agrees'⟩,
      turned'.trans (Ledger.enterAll_append _ _ _).symm⟩
  silent h e other := by
    cases e with
    | executed connection statement reply => exact absurd rfl (other _ _ _)
    | _ => exact ⟨⟨trivial, trivial⟩, rfl⟩

theorem Server.KeepsTokens.leads {server : Server H} {ledger : H.State → Ledger}
    (keeps : server.KeepsTokens ledger) : server.Leads (Ledger.succession ledger) :=
  fun connection statement h =>
    ⟨⟨keeps.agrees connection statement h, trivial⟩, keeps.turns connection statement h⟩

theorem Program.Follows.turns {ledger : H.State → Ledger} {p : Program H α}
    (follows : p.Follows (Ledger.succession ledger)) {s s' : State H} {outcome : Except Stop α}
    (ran : p.run s = (outcome, s')) : (ledger s.host).Turns s (ledger s'.host) s' := by
  obtain ⟨added, trace, agrees, turned⟩ := follows.run ran
  exact ⟨added, trace, agrees, turned⟩

/-! ## Tokens -/

namespace TokenRequest

/-- The token that is used up by a request, which is answered with another. -/
def spends : (r : TokenRequest) → Except Failure r.Answer → Option String
  | rotate token, .ok _ => some token
  | _, _ => none

variable {s s' : State H} {t t' : TokenTable} {r : TokenRequest}

theorem Does.tokens {value : r.Answer} (does : r.Does s s' t t' value) {token : String}
    (mem : token ∈ t'.tokens) : token ∈ t.tokens ∨ s.Drew s' token := by
  cases r with
  | create user =>
    obtain ⟨drew, now, -, rows⟩ := does
    rw [TokenTable.tokens, rows, List.map_append] at mem
    rcases List.mem_append.mp mem with mem | mem
    · exact .inl mem
    · exact .inr (List.mem_singleton.mp mem ▸ drew)
  | rotate old =>
    obtain ⟨drew, now, later, -, -, exchanged⟩ := does
    rw [TokenTable.tokens, exchanged.rows, List.map_append] at mem
    rcases List.mem_append.mp mem with mem | mem
    · exact .inl (t.tokens_removing _ mem)
    · exact .inr (List.mem_singleton.mp mem ▸ drew)
  | revoke token =>
    obtain rfl : t' = _ := does
    exact .inl (t.tokens_removing _ mem)
  | revokeAllOf token =>
    obtain ⟨-, -, rfl⟩ := does
    exact .inl (t.tokens_removing _ mem)
  | revokeUser user =>
    obtain ⟨-, rfl⟩ := does
    exact .inl (t.tokens_removing _ mem)
  | cleanUp =>
    obtain ⟨now, -, -, rfl⟩ := does
    exact .inl (t.tokens_removing _ mem)

theorem Leaves.tokens {answer : Except Failure r.Answer} (leaves : r.Leaves s s' t t' answer)
    {token : String} (mem : token ∈ t'.tokens) : token ∈ t.tokens ∨ s.Drew s' token := by
  cases answer with
  | ok value => exact Does.tokens leaves mem
  | error failure =>
    rcases leaves with rfl | ⟨-, value, does⟩
    · exact .inl mem
    · exact does.tokens mem

/-- A token that is used up was known, and is known no more unless it was made once more. -/
theorem Leaves.spent {answer : Except Failure r.Answer} (leaves : r.Leaves s s' t t' answer)
    {token : String} (spends : r.spends answer = some token) :
    token ∈ t.tokens ∧ (token ∈ t'.tokens → s.Drew s' token) := by
  cases r with
  | rotate old =>
    cases answer with
    | error failure => cases spends
    | ok value =>
      cases spends
      obtain ⟨drew, now, later, -, -, exchanged⟩ := leaves
      obtain ⟨gone, mem, same, -⟩ := exchanged.taken
      refine ⟨TokenTable.mem_tokens.mpr ⟨gone, mem, same⟩, fun again => ?_⟩
      obtain ⟨row, mem', same'⟩ := TokenTable.mem_tokens.mp again
      rw [exchanged.rows] at mem'
      rcases List.mem_append.mp mem' with left | made
      · obtain ⟨-, other⟩ := TokenTable.mem_removing.mp left
        simp [same'] at other
      · rw [← same', List.mem_singleton.mp made]
        exact drew
  | _ => cases spends

end TokenRequest

/-! ## Histories -/

/-- A request, the context that it arrives in, and the surroundings. -/
structure Moment (H : Host) where
  request : TokenRequest
  context : RequestContext
  start : State H

namespace Moment

/-- What serving the request comes to. -/
def outcome (m : Moment H) (db : Database H) : Except Stop (Except Failure m.request.Answer) :=
  ((m.request.serve db m.context).run.run m.start).1

/-- The surroundings once the request is served. -/
def after (m : Moment H) (db : Database H) : State H :=
  ((m.request.serve db m.context).run.run m.start).2

/-- The token is exchanged for another. -/
def Spends (m : Moment H) (db : Database H) (token : String) : Prop :=
  ∃ answer, m.outcome db = .ok answer ∧ m.request.spends answer = some token

/-- The request is answered, and has done to the table what its answer says. -/
def Settled (m : Moment H) (db : Database H) (ledger : H.State → Ledger) : Prop :=
  ∃ answer, m.outcome db = .ok answer ∧
    m.request.Leaves m.start (m.after db) (ledger m.start.host).table
      (ledger (m.after db).host).table answer

end Moment

/-- Requests that arrive outside any transaction are served one after the other. -/
inductive TokenHistory (db : Database H) : State H → List (Moment H) → State H → Prop
  | done (s : State H) : TokenHistory db s [] s
  /-- Between requests time passes, and contexts may become done. -/
  | idle {s s' : State H} {ms : List (Moment H)} {timeline : Timeline} :
      s.timeline.Later timeline → TokenHistory db { s with timeline } ms s' →
      TokenHistory db s ms s'
  | call {s s' : State H} {ms : List (Moment H)} (request : TokenRequest)
      (context : RequestContext) : context.active? db.store.channel = none →
      TokenHistory db (Moment.after ⟨request, context, s⟩ db) ms s' →
      TokenHistory db s (⟨request, context, s⟩ :: ms) s'

/-- The surroundings are in order, and the ledger knows nothing of connections that are still to
come. -/
structure Ledger.Tidy (ledger : H.State → Ledger) (s : State H) : Prop where
  sound : s.Sound
  blank : ∀ c ∉ s.connections, (ledger s.host).drafts c = {}

/-- The tokens in the table `t` were made before `s`. None that is made from `s` to `s'` is one of
them, and none is made twice. -/
structure NewTokens (s s' : State H) (t : TokenTable) : Prop where
  unknown : ∀ token, s.Drew s' token → token ∉ t.tokens
  distinct : ∀ j k, s.drawn ≤ j → j < k → k < s'.drawn →
    Session.hex (s.entropy j) ≠ Session.hex (s.entropy k)

section Histories

variable {db : Database H} {ledger : H.State → Ledger} {s s₁ s' : State H} {ms : List (Moment H)}
  {t t' : TokenTable} {token : String}

theorem State.Drew.before (later : s.Later s₁) (drew : s₁.Drew s' token) : s.Drew s' token := by
  obtain ⟨k, le, lt, rfl⟩ := drew
  exact ⟨k, Nat.le_trans later.drawn le, lt, by rw [later.entropy]⟩

theorem State.Drew.after (later : s₁.Later s') (drew : s.Drew s₁ token) : s.Drew s' token := by
  obtain ⟨k, le, lt, same⟩ := drew
  exact ⟨k, le, Nat.lt_of_lt_of_le lt later.drawn, same⟩

/-- From a later moment on tokens are new to what the table has become. -/
theorem NewTokens.step (new : NewTokens s s' t) (later : s.Later s₁)
    (tokens : ∀ token ∈ t'.tokens, token ∈ t.tokens ∨ s.Drew s₁ token) : NewTokens s₁ s' t' := by
  refine ⟨?_, fun j k le lt lt' => ?_⟩
  · intro token drew mem
    rcases tokens token mem with known | ⟨j, le, lt, same⟩
    · exact new.unknown token (drew.before later) known
    · obtain ⟨k, le', lt', rfl⟩ := drew
      rw [later.entropy] at same
      exact new.distinct j k le (Nat.lt_of_lt_of_le lt le') lt' same.symm
  · rw [later.entropy]
    exact new.distinct j k (Nat.le_trans later.drawn le) lt lt'

/-- What comes of serving a request. -/
structure Moment.Served (m : Moment H) (db : Database H) (ledger : H.State → Ledger) : Prop where
  settled : m.Settled db ledger
  tidy : Ledger.Tidy ledger (m.after db)
  later : m.start.Later (m.after db)

theorem Moment.served (speaks : db.SpeaksPostgres) (keeps : db.server.KeepsTokens ledger)
    (m : Moment H) (tidy : Ledger.Tidy ledger m.start)
    (own : m.context.active? db.store.channel = none) : m.Served db ledger := by
  have answers : (m.request.serve db m.context).run.Answers := m.request.serve_answers speaks
  obtain ⟨answer, s', ran, -⟩ := answers.gives m.start
  have after : m.after db = s' := by rw [Moment.after, ran]
  have turns := (m.request.serve_follows speaks keeps.leads).turns ran
  have steady := m.request.serve_keeps speaks.lawful _ _ _ tidy.sound (by simp) ran (by simp)
  refine ⟨⟨answer, by rw [Moment.outcome, ran], ?_⟩, ?_, ?_⟩
  · rw [after]
    exact TokenRequest.serve_ledger speaks tidy.sound own turns tidy.blank ran
  · rw [after]
    exact ⟨steady.sound, turns.blank tidy.sound steady.sound steady.opened.subset tidy.blank⟩
  · rw [after]
    exact Program.later_of_run ran

theorem Ledger.Tidy.idle (tidy : Ledger.Tidy ledger s) (timeline : Timeline) :
    Ledger.Tidy ledger { s with timeline } := by
  have steady : Steady (fun _ _ => False) s { s with timeline } := .of_eq tidy.sound rfl rfl rfl
  exact ⟨steady.sound, tidy.blank⟩

theorem TokenHistory.later (history : TokenHistory db s ms s') : s.Later s' := by
  induction history with
  | done s => exact .refl s
  | idle passed history ih => exact (State.Later.of_timeline passed).trans ih
  | call request context own history ih => exact (Program.run_later _ _).trans ih

theorem TokenHistory.settled (speaks : db.SpeaksPostgres) (keeps : db.server.KeepsTokens ledger)
    (history : TokenHistory db s ms s') (tidy : Ledger.Tidy ledger s) :
    ∀ m ∈ ms, m.Settled db ledger := by
  induction history with
  | done s => simp
  | idle passed history ih => exact ih (tidy.idle _)
  | @call s s' ms request context own history ih =>
    have served := Moment.served speaks keeps ⟨request, context, s⟩ tidy own
    exact List.forall_mem_cons.mpr ⟨served.settled, ih served.tidy⟩

/-- A token that is neither in the table nor made later is not exchanged. -/
theorem TokenHistory.unspent (speaks : db.SpeaksPostgres) (keeps : db.server.KeepsTokens ledger)
    (history : TokenHistory db s ms s') (tidy : Ledger.Tidy ledger s)
    (unknown : token ∉ (ledger s.host).table.tokens) (unmade : ¬ s.Drew s' token) :
    ∀ m ∈ ms, ¬ m.Spends db token := by
  induction history with
  | done s => simp
  | idle passed history ih =>
    exact ih (tidy.idle _) unknown fun drew => unmade (drew.before (.of_timeline passed))
  | @call s s' ms request context own history ih =>
    obtain ⟨⟨answer, outcome, leaves⟩, after, later⟩ :=
      Moment.served speaks keeps ⟨request, context, s⟩ tidy own
    refine List.forall_mem_cons.mpr ⟨?_, ih after (fun mem => ?_) fun drew =>
      unmade (drew.before later)⟩
    · rintro ⟨answer', outcome', spends⟩
      obtain rfl := Except.ok.inj (outcome.symm.trans outcome')
      exact unknown (leaves.spent spends).1
    · rcases leaves.tokens mem with known | drew
      · exact unknown known
      · exact unmade (drew.after history.later)

theorem TokenHistory.spends_once (speaks : db.SpeaksPostgres) (keeps : db.server.KeepsTokens ledger)
    (history : TokenHistory db s ms s') (tidy : Ledger.Tidy ledger s)
    (new : NewTokens s s' (ledger s.host).table) :
    ms.Pairwise fun m m' => ∀ token, m.Spends db token → ¬ m'.Spends db token := by
  induction history with
  | done s => exact .nil
  | idle passed history ih =>
    exact ih (tidy.idle _) (new.step (.of_timeline passed) fun _ => .inl)
  | @call s s' ms request context own history ih =>
    obtain ⟨⟨answer, outcome, leaves⟩, after, later⟩ :=
      Moment.served speaks keeps ⟨request, context, s⟩ tidy own
    refine .cons ?_ (ih after (new.step later fun token mem => leaves.tokens mem))
    rintro m mem token ⟨answer', outcome', spends⟩
    obtain rfl := Except.ok.inj (outcome.symm.trans outcome')
    obtain ⟨known, back⟩ := leaves.spent spends
    -- Being in the table, it is not made later, and so it is gone for good.
    have unmade : ¬ s.Drew s' token := fun drew => new.unknown token drew known
    refine history.unspent speaks keeps after (fun mem => ?_) (fun drew => ?_) m mem
    · exact unmade ((back mem).after history.later)
    · exact unmade (drew.before later)

/-- Refresh tokens are good for one use. Whatever requests a server serves that keeps the table of
them, each is answered and has done to the table what its answer says, and no token is exchanged
twice. -/
theorem Session.tokens_single_use (db : Database H) (ledger : H.State → Ledger) (s s' : State H)
    (ms : List (Moment H)) (speaks : db.SpeaksPostgres) (keeps : db.server.KeepsTokens ledger)
    (tidy : Ledger.Tidy ledger s) (new : NewTokens s s' (ledger s.host).table)
    (history : TokenHistory db s ms s') :
    (∀ m ∈ ms, m.Settled db ledger) ∧
      ms.Pairwise fun m m' => ∀ token, m.Spends db token → ¬ m'.Spends db token :=
  ⟨history.settled speaks keeps tidy, history.spends_once speaks keeps tidy new⟩

end Histories

/-- The first `COMMIT` fails with a conflict, and the token is exchanged in the second transaction.
Asked to exchange it once more, the service has nothing to exchange. -/
theorem Session.tokens_single_use_retried :
    let conflict : DriverFailure := .database (.state (some "40001") "could not serialize access")
    let script := fun n => if n = 3 then some conflict else none
    let db := Postgres.database (Server.keeping Unit script) .default none
    let table : TokenTable := ⟨[⟨"stale", 7, ⟨1000000000⟩⟩, ⟨"other", 8, ⟨0⟩⟩], by decide⟩
    let s : State ⟨Ledger × Nat, Unit⟩ :=
      { host := ({ table }, 0), entropy := fun n => [UInt8.ofNat n] }
    let first : Moment ⟨Ledger × Nat, Unit⟩ := ⟨.rotate "stale", .background, s⟩
    let second : Moment ⟨Ledger × Nat, Unit⟩ := ⟨.rotate "stale", .background, first.after db⟩
    first.Spends db "stale" ∧ ¬ second.Spends db "stale" ∧
      (second.after db).host.1.table.tokens = ["other", "01"] := by
  intro conflict script db table s first second
  have drawn : (second.after db).drawn = 2 := by decide +kernel
  have made : ∀ k < 2, Session.hex [UInt8.ofNat k] ∉ ["stale", "other"] := by decide
  have apart : ∀ j < 2, ∀ k < 2, j < k →
      Session.hex [UInt8.ofNat j] ≠ Session.hex [UInt8.ofNat k] := by decide
  have new : NewTokens s (second.after db) table := by
    refine ⟨?_, fun j k _ lt lt' => ?_⟩
    · rintro token ⟨k, -, lt, rfl⟩
      exact made k (drawn ▸ lt)
    · rw [drawn] at lt'
      exact apart j (Nat.lt_trans lt lt') k lt' lt
  obtain ⟨-, once⟩ := tokens_single_use db (·.1) s (second.after db) [first, second]
    (.postgres _ .default none) (Server.keeping_keepsTokens Unit script)
    ⟨State.sound_of_empty rfl rfl rfl, fun _ _ => rfl⟩ new
    (.call (.rotate "stale") .background rfl (.call (.rotate "stale") .background rfl (.done _)))
  have spends : first.Spends db "stale" := by
    have gave : ((Session.rotate db .background "stale").run.run s).1 = .ok (.ok (7, "01")) := by
      decide +kernel
    exact ⟨_, gave, rfl⟩
  refine ⟨spends, ?_, by decide +kernel⟩
  exact (List.pairwise_pair.mp once) "stale" spends

end SessionKeeper
