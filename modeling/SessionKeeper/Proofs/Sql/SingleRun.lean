import SessionKeeper.Proofs.Sql.Commit

/-!
Stores that prepare nothing and never start over (`Store.RunsOnce`) run the unit of work once in a
transaction. What is sent on the connection is then what the transaction was begun with, what the
one run sends, and the end (`Takes.sent_once`). Once the transaction is over nothing happens to the
connection any more, as nothing does to any that nobody holds and no lease leads to
(`Steady.about_eq`).

PostgreSQL is such a store in both modes, and CockroachDB in the mode that only reads. `about c` is
what is recorded of one connection, of which the exchanges are a part.
-/

namespace SessionKeeper

variable {H : Host} {N : Type} {α : Type}

/-! ## What is told of a connection -/

/-- The events about `c`, in order. -/
def about (c : Connection) (trace : Trace N) : List (Event N) :=
  (trace.map (·.2)).filter (·.connection? = some c)

theorem about_append (c : Connection) (trace later : Trace N) :
    about c (trace ++ later) = about c trace ++ about c later := by
  simp [about]

theorem about_eq_nil {c : Connection} {trace : Trace N}
    (h : ∀ e ∈ trace, e.2.connection? ≠ some c) : about c trace = [] := by
  simpa [about] using fun e time mem => h (time, e) mem

theorem sent_eq_about (c : Connection) (trace : Trace N) :
    sent c trace = (about c trace).filterMap (Event.exchange? c) := by
  rw [about, List.filterMap_filter, List.filterMap_map]
  refine List.filterMap_congr fun e _ => ?_
  simp only [Function.comp_apply, decide_eq_true_eq]
  split
  · rfl
  · rename_i other
    exact Option.eq_none_iff_forall_ne_some.mpr fun _ h =>
      other (Event.connection_of_exchange h)

theorem Steady.about_eq {c : Connection} {held : List Connection} {s s' : State H}
    (steady : Steady (Footprint.unit.reach held s) s s') (here : c ∈ s.connections)
    (unheld : c ∉ held) (free : ∀ lease, s.connectionOf lease ≠ some c) :
    about c s'.trace = about c s.trace := by
  obtain ⟨added, trace, reached⟩ := steady.trace
  have nothing : about c added = [] := by
    refine about_eq_nil fun e mem of => ?_
    obtain ⟨-, held | ⟨lease, -, leads⟩⟩ := reached e mem _ here of
    · exact unheld held
    · exact free lease leads
  rw [trace, about_append, nothing, List.append_nil]

/-! ## One run -/

/-- What the verdict of the only run makes of the rounds, where there is nothing to prepare. -/
def Ending.ofVerdict : Except String (Except Failure α) → Ending α
  | .error message => .panicked message
  | .ok (.error failure) => .failed failure
  | .ok (.ok value) => .succeeded value

namespace Store

/-- In this mode the store prepares nothing and never starts over. -/
structure RunsOnce (store : Store H) (mode : Mode) : Prop where
  prepares : ∀ c, (store.prepare mode c).run = .done (.ok ())
  declines : ∀ failure, store.Declines mode failure

variable {store : Store H} {mode : Mode} {handle : Handle} {c begun : Connection}
  {work : UnitOfWork H α} {ctx : RequestContext} {held : List Connection} {restarts n : Nat}
  {s s' : State H}

theorem RoundTo.of_runsOnce {r : WorkRun H α} {ending : Ending α}
    (account : RoundTo store mode handle begun work ctx restarts s r ending s')
    (single : store.RunsOnce mode) (leads : r.after.connectionOf handle.lease = some c) :
    ending = .ofVerdict r.verdict ∧ r.after.Adds (Event.Sends fun _ => False) s' := by
  cases account with
  | panicked runs verdict => exact ⟨by rw [verdict]; rfl, .of_trace_eq rfl⟩
  | failed runs verdict => exact ⟨by rw [verdict]; rfl, .of_trace_eq rfl⟩
  | escaped runs verdict hlease =>
    rw [leads] at hlease
    cases hlease
  | unprepared runs verdict hlease ran =>
    rw [single.prepares] at ran
    cases ran
  | succeeded runs verdict hlease ran =>
    rw [single.prepares] at ran
    cases ran
    exact ⟨by rw [verdict]; rfl, .noted _ trivial⟩

/-- There is one round, as the store does not start over. -/
theorem RoundsTo.of_runsOnce {rs : List (WorkRun H α)} {ending : Ending α}
    (account : RoundsTo store mode handle begun work ctx restarts s rs ending s')
    (single : store.RunsOnce mode) (lawful : store.Lawful)
    (keeps : ∀ inner, (work inner).run.Keeps held) (underway : Underway handle begun held s) :
    ∃ r, rs = [r] ∧ store.Runs handle begun work ctx restarts s r ∧
      ending = .ofVerdict r.verdict ∧ r.after.Adds (Event.Sends fun _ => False) s' := by
  have leads : ∀ {r ending s'}, RoundTo store mode handle begun work ctx restarts s r ending s' →
      r.after.connectionOf handle.lease = some begun := fun account =>
    (account.runs.underway keeps underway).leads
  cases account with
  | succeeded round => exact ⟨_, rfl, round.runs, round.of_runsOnce single (leads round)⟩
  | panicked round => exact ⟨_, rfl, round.runs, round.of_runsOnce single (leads round)⟩
  | failed round anew =>
    obtain ⟨failed, quiet⟩ := round.of_runsOnce single (leads round)
    have ended := round.underway lawful keeps underway
    obtain ⟨same, asked, trace, asks⟩ := anew.declined_account
      (fun c => single.declines _ c restarts) ended.leads
    cases same
    refine ⟨_, rfl, round.runs, failed, quiet.trans ⟨asked, trace, fun e mem => ?_⟩⟩
    rw [asks e mem]
    trivial
  | again round anew tos =>
    have ended := round.underway lawful keeps underway
    cases anew.of_declines (single.declines _) ended.leads

namespace Takes

variable {t : Transaction H α} {outcome : Except Stop (Except Failure α)}

/-- What is sent for a transaction in which the unit of work runs once. -/
theorem sent_once (takes : store.Takes ctx mode work n s t outcome s')
    (single : store.RunsOnce mode) (lawful : store.Lawful) {server : Server H}
    (ends : store.EndsBy server) (keeps : ∀ inner, (work inner).run.Keeps held) (sound : s.Sound)
    (known : ∀ d ∈ held, d ∈ s.connections) :
    ∃ r finish, t.runs = [r] ∧
      store.Runs (handleIn t.given mode n) t.connection work ctx 0
        (store.begunIn t.given t.connection mode n) r ∧
      t.ending = .ofVerdict r.verdict ∧ r.after.Adds (Event.Sends fun _ => False) t.ended ∧
      Server.EndsWith (endingStatement t.ending.commits) (t.ended.unreadOn t.connection) t.answer
        finish ∧
      sent t.connection r.before.trace = sent t.connection t.given.trace ∧
      sent t.connection s'.trace =
        sent t.connection t.given.trace ++ (r.sent t.connection ++ finish) := by
  obtain ⟨r, once, runs, ending, quiet⟩ :=
    takes.rounds.of_runsOnce single lawful keeps (takes.underway lawful sound known)
  obtain ⟨finish, ends, finished⟩ := takes.finish_sent ends
  obtain ⟨nothing, ended, none⟩ := quiet.sent t.connection
  obtain rfl : nothing = [] := List.eq_nil_iff_forall_not_mem.mpr none
  have began : sent t.connection (store.begunIn t.given t.connection mode n).trace =
      sent t.connection t.given.trace := sent_noted rfl
  refine ⟨r, finish, once, runs, ending, quiet, ends, ?_, ?_⟩
  · rw [runs.before, sent_noted rfl, began]
  · rw [finished, ended, runs.sent_after, began, List.append_nil, List.append_assoc]

theorem sent_later (takes : store.Takes ctx mode work n s t outcome s') (lawful : store.Lawful)
    (keeps : ∀ inner, (work inner).run.Keeps held) (sound : s.Sound)
    (known : ∀ d ∈ held, d ∈ s.connections) {s'' : State H}
    (later : Steady (Footprint.unit.reach held s') s' s'') :
    sent t.connection s''.trace = sent t.connection s'.trace := by
  obtain ⟨here, free⟩ := takes.out_of_reach lawful keeps sound known
  have unheld : t.connection ∉ held := fun mem => takes.fresh lawful sound (known _ mem)
  rw [sent_eq_about, sent_eq_about, later.about_eq here unheld free]

end Takes

end Store

end SessionKeeper
