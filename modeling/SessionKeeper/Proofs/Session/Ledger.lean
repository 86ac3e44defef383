import SessionKeeper.Proofs.Session.TokenTable
import SessionKeeper.Proofs.Sql.Commit
import SessionKeeper.Proofs.Sql.RestartProtocol

/-!
A server that keeps the table of refresh tokens. It holds the table as it was committed, and for
each connection a draft: what was asked of the table in the transaction there, which can be rewound
to where its savepoint was taken. A query is answered from the table with the draft of its
transaction done to it. `COMMIT` does the draft to the table, and no other end of a transaction
does; a statement that fails changes nothing, and a query on the pool changes the table at once.

The ledger of a server is told from the statements that it executed and its replies (`enterAll`),
and so is whether it replied as such a server does (`AgreesAll`). So it is no model of how a server
works, but a condition on what it replies; locks and conflicts are left to it.
-/

namespace SessionKeeper

variable {H : Host} {N : Type}

namespace TokenQuery

/-- The queries that a statement with some arguments may be. -/
def candidates : List Datum → List TokenQuery
  | [.text token, .int user, .time expires] => [.insert token user expires]
  | [.text token, .time now] => [.take token now]
  | [.text token] => [.owner token, .erase token]
  | [.int user] => [.eraseUser user]
  | [.time now] => [.eraseExpired now]
  | _ => []

/-- The query that a statement is. -/
def ofStatement? (statement : Statement) : Option TokenQuery :=
  (candidates statement.args).find? (·.statement == statement)

theorem ofStatement?_statement (q : TokenQuery) : ofStatement? q.statement = some q := by
  cases q <;> simp [ofStatement?, candidates, statement]

theorem ofStatement?_eq_some {statement : Statement} {q : TokenQuery} :
    ofStatement? statement = some q ↔ statement = q.statement := by
  constructor
  · intro found
    have same := List.find?_some found
    exact (beq_iff_eq.mp same).symm
  · rintro rfl
    exact q.ofStatement?_statement

theorem ofStatement?_of_bare {statement : Statement} (bare : statement.args = []) :
    ofStatement? statement = none := by
  rw [ofStatement?, bare]
  rfl

end TokenQuery

/-- What was asked of the table in a transaction. -/
structure Draft where
  queries : List TokenQuery := []
  /-- What was asked before the savepoint. -/
  mark : List TokenQuery := []
  deriving DecidableEq

namespace Draft

/-- The draft once a statement that is no query is executed. -/
def control (d : Draft) (statement : Statement) : Draft :=
  if statement = Cockroach.savepoint then { d with mark := d.queries }
  else if statement = Cockroach.rewind then { d with queries := d.mark }
  else if statement ∈ [Server.beginning, Server.committing, Server.rollingBack] then {}
  else d

/-- The draft after an exchange. Of the statements that fail, those that end the transaction end it
all the same. -/
def enter (d : Draft) : Exchange → Draft
  | (statement, .ok _) =>
    match TokenQuery.ofStatement? statement with
    | some q => { d with queries := d.queries ++ [q] }
    | none => d.control statement
  | (statement, .error _) =>
    if statement ∈ [Server.committing, Server.rollingBack] then {} else d

def enterAll (d : Draft) (exchanges : List Exchange) : Draft := exchanges.foldl enter d

variable {d : Draft}

@[simp] theorem enterAll_nil : d.enterAll [] = d := rfl

@[simp] theorem enterAll_append (xs ys : List Exchange) :
    d.enterAll (xs ++ ys) = (d.enterAll xs).enterAll ys := List.foldl_append

theorem enter_query (d : Draft) (q : TokenQuery) (answer : Answer) :
    d.enter (q.statement, .ok answer) = { d with queries := d.queries ++ [q] } := by
  simp [enter, TokenQuery.ofStatement?_statement]

theorem query_ne_control (q : TokenQuery) {statement : Statement} (bare : statement.args = []) :
    q.statement ≠ statement := fun same => by
  cases q <;> simp [← same, TokenQuery.statement] at bare

theorem enter_refused (d : Draft) (q : TokenQuery) (error : DriverFailure) :
    d.enter (q.statement, .error error) = d := by
  have commits : q.statement ≠ Server.committing := query_ne_control q rfl
  have rollsBack : q.statement ≠ Server.rollingBack := query_ne_control q rfl
  simp [enter, commits, rollsBack]

theorem enterAll_bare {exchanges : List Exchange} (bare : ∀ x ∈ exchanges, x.1.args = []) :
    ({} : Draft).enterAll exchanges = {} := by
  have still : ∀ x : Exchange, x.1.args = [] → ({} : Draft).enter x = {} := by
    rintro ⟨statement, reply⟩ bare
    cases reply with
    | ok answer =>
      simp only [enter, TokenQuery.ofStatement?_of_bare bare, control]
      split
      · rfl
      · split
        · rfl
        · split <;> rfl
    | error error => simp [enter]
  induction exchanges with
  | nil => rfl
  | cons x xs ih =>
    rw [enterAll, List.foldl_cons, still x (bare x List.mem_cons_self)]
    exact ih fun y mem => bare y (List.mem_cons_of_mem _ mem)

theorem mark_enterAll {exchanges : List Exchange} (nothing : d.mark = [])
    (others : ∀ x ∈ exchanges, x.1 ≠ Cockroach.savepoint) : (d.enterAll exchanges).mark = [] := by
  have still : ∀ (d : Draft) (x : Exchange), d.mark = [] → x.1 ≠ Cockroach.savepoint →
      (d.enter x).mark = [] := by
    rintro d ⟨statement, reply⟩ nothing other
    cases reply with
    | ok answer =>
      simp only [enter]
      split
      · exact nothing
      · simp only [control, if_neg other]
        split
        · exact nothing
        · split
          · rfl
          · exact nothing
    | error error =>
      simp only [enter]
      split
      · rfl
      · exact nothing
  induction exchanges generalizing d with
  | nil => exact nothing
  | cons x xs ih =>
    exact ih (still d x nothing (others x List.mem_cons_self))
      fun y mem => others y (List.mem_cons_of_mem _ mem)

/-- Rewound, a transaction has asked for nothing since the mark. -/
theorem enter_rewind (d : Draft) (answer : Answer) :
    d.enter (Cockroach.rewind, .ok answer) = { d with queries := d.mark } := by
  have bare : TokenQuery.ofStatement? Cockroach.rewind = none := TokenQuery.ofStatement?_of_bare rfl
  have other : Cockroach.rewind ≠ Cockroach.savepoint := by decide
  simp [enter, bare, control, other]

theorem enterAll_released {exchanges : List Exchange}
    (released : ∀ x ∈ exchanges, x.1 = Cockroach.releaseSavepoint) : d.enterAll exchanges = d := by
  have still : ∀ reply, d.enter (Cockroach.releaseSavepoint, reply) = d := by
    have bare : TokenQuery.ofStatement? Cockroach.releaseSavepoint = none :=
      TokenQuery.ofStatement?_of_bare rfl
    have others : Cockroach.releaseSavepoint ≠ Cockroach.savepoint ∧
        Cockroach.releaseSavepoint ≠ Cockroach.rewind ∧
        Cockroach.releaseSavepoint ∉ [Server.beginning, Server.committing, Server.rollingBack] ∧
        Cockroach.releaseSavepoint ∉ [Server.committing, Server.rollingBack] := by decide
    intro reply
    cases reply with
    | ok answer => simp only [enter, bare, control, if_neg others.1, if_neg others.2.1,
        if_neg others.2.2.1]
    | error error => simp only [enter, if_neg others.2.2.2]
  induction exchanges with
  | nil => rfl
  | cons x xs ih =>
    obtain ⟨statement, reply⟩ := x
    obtain rfl := released _ List.mem_cons_self
    rw [enterAll, List.foldl_cons, still]
    exact ih fun y mem => released y (List.mem_cons_of_mem _ mem)

end Draft

/-- The table with some queries done to it. -/
def TokenTable.replay (t : TokenTable) (queries : List TokenQuery) : TokenTable :=
  queries.foldl (fun t q => q.apply t) t

/-- What a server keeps. -/
structure Ledger where
  table : TokenTable
  drafts : Connection → Draft := fun _ => {}

namespace Ledger

/-- The table as it is seen from a connection, or from the pool. -/
def view (l : Ledger) : Option Connection → TokenTable
  | some c => l.table.replay (l.drafts c).queries
  | none => l.table

/-- The ledger after an event. -/
def enter (l : Ledger) : Event N → Ledger
  | .executed (some c) statement reply => {
      table := if statement = Server.committing ∧ reply.isOk then l.view (some c) else l.table
      drafts := fun d => if d = c then (l.drafts c).enter (statement, reply) else l.drafts d }
  | .executed none statement (.ok _) =>
    match TokenQuery.ofStatement? statement with
    | some q => { l with table := q.apply l.table }
    | none => l
  | _ => l

/-- The reply to a query, unless it failed, is the answer that the ledger calls for. -/
def Agrees (l : Ledger) : Event N → Prop
  | .executed connection statement (.ok answer) =>
    ∀ q ∈ TokenQuery.ofStatement? statement,
      q.Fits (l.view connection) ∧ answer = q.answer (l.view connection)
  | _ => True

def enterAll (l : Ledger) (events : List (Event N)) : Ledger := events.foldl enter l

def AgreesAll (l : Ledger) : List (Event N) → Prop
  | [] => True
  | e :: rest => l.Agrees e ∧ (l.enter e).AgreesAll rest

variable {l : Ledger} {c : Connection} {events later : List (Event N)}

theorem enterAll_append (l : Ledger) (events later : List (Event N)) :
    l.enterAll (events ++ later) = (l.enterAll events).enterAll later := List.foldl_append

theorem agreesAll_append :
    l.AgreesAll (events ++ later) ↔ l.AgreesAll events ∧ (l.enterAll events).AgreesAll later := by
  induction events generalizing l with
  | nil => exact (iff_of_eq (true_and _)).symm
  | cons e events ih =>
    have step : l.enterAll (e :: events) = (l.enter e).enterAll events := rfl
    rw [List.cons_append, AgreesAll, AgreesAll, ih, step, and_assoc]

/-- The draft on a connection is told from what was sent there. -/
theorem drafts_enterAll (l : Ledger) (c : Connection) (trace : Trace N) :
    (l.enterAll (trace.map (·.2))).drafts c = (l.drafts c).enterAll (sent c trace) := by
  have step : ∀ (l : Ledger) (e : Instant × Event N),
      (l.enter e.2).drafts c = (l.drafts c).enterAll (sent c [e]) := by
    rintro l ⟨time, e⟩
    cases e with
    | executed connection statement reply =>
      cases connection with
      | none =>
        cases reply with
        | ok answer =>
          simp only [enter]
          split <;> rfl
        | error error => rfl
      | some d =>
        by_cases same : d = c
        · subst same
          simp [enter, Draft.enterAll]
        · have other : sent c [(time, (.executed (some d) statement reply : Event N))] = [] := by
            simp [sent, Event.exchange?, same]
          rw [other]
          simp [enter, Ne.symm same]
    | _ => rfl
  induction trace generalizing l with
  | nil => rfl
  | cons e trace ih =>
    have split : sent c (e :: trace) = sent c [e] ++ sent c trace := by
      rw [← sent_append, List.singleton_append]
    rw [split, Draft.enterAll_append, ← step]
    exact ih (l.enter e.2)

end Ledger

/-! ## Events by what they do to a ledger -/

/-- The event changes nothing that was committed. -/
def Event.Spares (e : Event N) : Prop :=
  (∀ connection, ¬ e.Commits connection) ∧
    ∀ (q : TokenQuery) answer, e ≠ .executed none q.statement (.ok answer)

/-- If the event is a statement, it is a query in the transaction on `c`. -/
def Event.Asks (c : Connection) (e : Event N) : Prop :=
  ∀ connection statement reply, e = .executed connection statement reply →
    connection = some c ∧ ∃ q : TokenQuery, statement = q.statement

namespace TokenTable

/-- Asked one query after the other, the server gives these replies, and the table becomes `t'`. -/
inductive Serves : TokenTable → List Exchange → TokenTable → Prop
  | done (t : TokenTable) : Serves t [] t
  | answered {t t' : TokenTable} {exchanges : List Exchange} (q : TokenQuery) : q.Fits t →
      Serves (q.apply t) exchanges t' →
      Serves t ((q.statement, .ok (q.answer t)) :: exchanges) t'
  | refused {t t' : TokenTable} {exchanges : List Exchange} (q : TokenQuery)
      (error : DriverFailure) : Serves t exchanges t' →
      Serves t ((q.statement, .error error) :: exchanges) t'

end TokenTable

namespace Ledger

variable {l : Ledger} {c : Connection} {e : Event N} {events : List (Event N)} {trace : Trace N}

theorem table_enter (spares : e.Spares) : (l.enter e).table = l.table := by
  obtain ⟨commits, asks⟩ := spares
  cases e with
  | executed connection statement reply =>
    cases reply with
    | error error => cases connection <;> simp [enter, Except.isOk, Except.toBool]
    | ok answer =>
      cases connection with
      | none =>
        simp only [enter]
        split
        · rename_i q found
          exact absurd (TokenQuery.ofStatement?_eq_some.mp found ▸ rfl) (asks q answer)
        · rfl
      | some c =>
        have other : statement ≠ Server.committing := by
          rintro rfl
          exact commits (some c) ⟨answer, rfl⟩
        simp [enter, other]
  | _ => rfl

theorem table_enterAll (spares : ∀ e ∈ events, e.Spares) : (l.enterAll events).table = l.table := by
  induction events generalizing l with
  | nil => rfl
  | cons e events ih =>
    have rest := ih (l := l.enter e) fun e mem => spares e (List.mem_cons_of_mem _ mem)
    exact rest.trans (table_enter (spares e List.mem_cons_self))

theorem view_enter_query (l : Ledger) (c : Connection) (q : TokenQuery) (answer : Answer) :
    (l.enter (.executed (some c) q.statement (.ok answer) : Event N)).view (some c) =
      q.apply (l.view (some c)) := by
  have other : q.statement ≠ Server.committing := Draft.query_ne_control q rfl
  simp [enter, view, other, Draft.enter_query, TokenTable.replay]

theorem view_enter_refused (l : Ledger) (c : Connection) (q : TokenQuery) (error : DriverFailure) :
    (l.enter (.executed (some c) q.statement (.error error) : Event N)).view (some c) =
      l.view (some c) := by
  have other : q.statement ≠ Server.committing := Draft.query_ne_control q rfl
  simp [enter, view, other, Draft.enter_refused]

theorem enter_commit (l : Ledger) (c : Connection) (answer : Answer) :
    (l.enter (.executed (some c) Server.committing (.ok answer) : Event N)).table =
      l.view (some c) := by
  simp [enter, Except.isOk, Except.toBool]

/-- In a transaction that only asks queries the server serves them from its view of the table. -/
theorem serves (agrees : l.AgreesAll (trace.map (·.2))) (asks : ∀ e ∈ trace, e.2.Asks c) :
    (l.view (some c)).Serves (sent c trace) ((l.enterAll (trace.map (·.2))).view (some c)) := by
  induction trace generalizing l with
  | nil => exact .done _
  | cons e trace ih =>
    obtain ⟨time, e⟩ := e
    obtain ⟨agree, agrees⟩ := agrees
    have rest := ih agrees fun e mem => asks e (List.mem_cons_of_mem _ mem)
    have first := asks _ List.mem_cons_self
    cases e with
    | executed connection statement reply =>
      obtain ⟨rfl, q, rfl⟩ := first _ _ _ rfl
      rw [sent_executed]
      cases reply with
      | ok answer =>
        obtain ⟨fits, rfl⟩ := agree q (TokenQuery.ofStatement?_statement q)
        rw [view_enter_query] at rest
        exact .answered q fits rest
      | error error =>
        rw [view_enter_refused] at rest
        exact .refused q error rest
    | _ => exact rest

end Ledger

/-! ## Ledgers in the course of a run -/

/-- What was executed from `s` to `s'` has made `l'` of the ledger `l`, and was answered as the ledger
calls for. -/
structure Ledger.Turns (l : Ledger) (s : State H) (l' : Ledger) (s' : State H) : Prop where
  recorded : ∃ added, s'.trace = s.trace ++ added ∧ l.AgreesAll (added.map (·.2)) ∧
    l' = l.enterAll (added.map (·.2))

namespace Ledger.Turns

variable {l l₁ l' : Ledger} {s s₁ s' : State H} {c : Connection}

/-- The ledger at a moment in between. -/
theorem split (turns : l.Turns s l' s') (before : s.trace <+: s₁.trace)
    (after : s₁.trace <+: s'.trace) : ∃ l₁, l.Turns s l₁ s₁ ∧ l₁.Turns s₁ l' s' := by
  obtain ⟨added, trace, agrees, rfl⟩ := turns
  obtain ⟨first, hfirst⟩ := before
  obtain ⟨second, hsecond⟩ := after
  rw [← hsecond, ← hfirst, List.append_assoc] at trace
  obtain rfl := List.append_cancel_left trace
  rw [List.map_append] at agrees ⊢
  obtain ⟨agrees, agrees'⟩ := agreesAll_append.mp agrees
  exact ⟨l.enterAll (first.map (·.2)), ⟨first, hfirst.symm, agrees, rfl⟩,
    ⟨second, hsecond.symm, agrees', l.enterAll_append _ _⟩⟩

theorem of_added (turns : l.Turns s l' s') {added : Trace H.Note}
    (trace : s'.trace = s.trace ++ added) :
    l.AgreesAll (added.map (·.2)) ∧ l' = l.enterAll (added.map (·.2)) := by
  obtain ⟨added', trace', agrees, rfl⟩ := turns
  rw [trace] at trace'
  obtain rfl := List.append_cancel_left trace'
  exact ⟨agrees, rfl⟩

theorem table_eq (turns : l.Turns s l' s') (spares : s.Adds Event.Spares s') :
    l'.table = l.table := by
  obtain ⟨added, trace, spares⟩ := spares
  obtain ⟨-, rfl⟩ := turns.of_added trace
  exact table_enterAll (List.forall_mem_map.mpr spares)

theorem drafts_eq (turns : l.Turns s l' s') {exchanges : List Exchange}
    (hsent : sent c s'.trace = sent c s.trace ++ exchanges) :
    l'.drafts c = (l.drafts c).enterAll exchanges := by
  obtain ⟨added, trace, agrees, rfl⟩ := turns
  rw [trace, sent_append] at hsent
  rw [drafts_enterAll, List.append_cancel_left hsent]

theorem blank (turns : l.Turns s l' s') (sound : s.Sound) (sound' : s'.Sound)
    (opened : s.connections ⊆ s'.connections) (blank : ∀ c ∉ s.connections, l.drafts c = {}) :
    ∀ c ∉ s'.connections, l'.drafts c = {} := by
  intro c unknown
  have unknown' : c ∉ s.connections := fun known => unknown (opened known)
  have nothing : sent c s'.trace = sent c s.trace ++ [] := by
    rw [sound'.sent_eq_nil unknown, sound.sent_eq_nil unknown', List.append_nil]
  rw [turns.drafts_eq nothing, blank c unknown', Draft.enterAll_nil]

end Ledger.Turns

end SessionKeeper
