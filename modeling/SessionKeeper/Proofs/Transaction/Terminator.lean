import SessionKeeper.Proofs.Rehearsal.Players

/-!
One end for each transaction. An attempt that got a connection asks for its commit or for its
rollback, once, and commits just when the last run of the unit of work succeeded and so did the
preparation of the commit. After that nothing reaches the connection any more but the end itself:
not the rest of the attempt, and not whoever still has a handle of it.

`terminators c` are the requests to commit or roll back `c` in a trace, and `Store.EndedOnce` says
that there is one, with nothing about `c` behind it but its answer.

Correspondence: `run_tx` ↔ `Store.attempt`, its `commit` and `rollback` ↔ `Store.conclude`; an
attempt whose `begin` failed ends nothing. Assumed are a lawful store, a unit of work that conducts
itself, and surroundings in order; the number of restarts is not bounded.
-/

namespace SessionKeeper

variable {H : Host} {α : Type}

namespace Event

variable {N : Type} {c : Connection} {e : Event N}

/-- Whether the event is the commit or the rollback of the transaction on `c`. -/
def terminates (c : Connection) : Event N → Bool
  | .committing d => d = c
  | .rollingBack d => d = c
  | _ => false

theorem terminates_terminator (c : Connection) (commits : Bool) :
    (terminator c commits : Event N).terminates c = true := by
  cases commits <;> simp [terminator, terminates]

theorem connection_of_terminates (h : e.terminates c = true) : e.connection? = some c := by
  cases e <;> simp_all [terminates, connection?]

theorem Interim.not_terminates (h : e.Interim) (c : Connection) : e.terminates c = false := by
  cases e <;> first | rfl | exact h.elim

theorem Aside.not_terminates (h : e.Aside) (c : Connection) : e.terminates c = false := by
  cases e <;> first | rfl | exact h.elim

end Event

/-- The commits and rollbacks of the transaction on `c` in a trace. -/
def terminators {N : Type} (c : Connection) (trace : Trace N) : List (Event N) :=
  (trace.map (·.2)).filter (·.terminates c)

theorem terminators_append {N : Type} (c : Connection) (trace later : Trace N) :
    terminators c (trace ++ later) = terminators c trace ++ terminators c later := by
  simp [terminators]

theorem terminators_eq_nil {N : Type} {c : Connection} {trace : Trace N}
    (h : ∀ e ∈ trace, e.2.terminates c = false) : terminators c trace = [] := by
  apply List.filter_eq_nil_iff.mpr
  intro e he
  obtain ⟨entry, mem, rfl⟩ := List.mem_map.mp he
  simp [h entry mem]

namespace Store

/-- `r` is the last run of the unit of work in an attempt on `c` that went from `s` to `s'`. -/
structure LastOn (store : Store H) (ctx : RequestContext) (mode : Mode) (work : UnitOfWork H α)
    (n : Nat) (s : State H) (c : Connection) (handle : Handle) (r : WorkRun H α) (s' : State H) :
    Prop where
  includes : (store.attempt ctx mode work n).run.Includes s
    (work (ctx.bind store.channel handle)).run r.before
  ran : (work (ctx.bind store.channel handle)).run.catchPanic.run r.before =
    (.ok r.verdict, r.after)
  started : ∃ earlier time restarts reason,
    r.before.trace = earlier ++ [(time, .running c restarts reason)]
  last : ∃ later, s'.trace = r.before.trace ++ later ∧
    ∀ e ∈ later, ∀ restarts reason, e.2 ≠ .running c restarts reason

/-- The unit of work succeeded in the run `r`, and then the preparation of the commit. -/
def Prepared (store : Store H) (mode : Mode) (c : Connection) (r : WorkRun H α) : Prop :=
  (∃ value, r.verdict = .ok (.ok value)) ∧
    ∃ s₁, (store.prepare mode c).run.run (r.after.noted (.preparing c)) = (.ok (.ok ()), s₁)

/-- The transaction on `c` has ended by `s'`, with a commit if `commits`, and with a rollback if
not. -/
structure EndedOnce (store : Store H) (c : Connection) (commits : Bool) (s' : State H) : Prop where
  /-- There was one commit or rollback of it. -/
  once : terminators c s'.trace = [.terminator c commits]
  /-- With that the store was called, and what was recorded from then on is what it recorded, and
  that it did commit. -/
  called : ∃ before time asked answer answered during closing,
    asked.trace = before ++ [(time, .terminator c commits)] ∧
    (store.finish c commits).run.run asked = (.ok answer, answered) ∧
    answered.trace = asked.trace ++ during ∧ (∀ e ∈ during, e.2.Plain ∨ ∃ d, e.2 = .opened d) ∧
    s'.trace = answered.trace ++ closing ∧ ∀ e ∈ closing, e.2 = .committed c
  /-- Whoever conducts himself does not reach it any more. -/
  beyond : ∀ {β : Type} (chained : Prop) (inner : RequestContext) (held : List Connection)
    (q : Program H β) (outcome : Except Stop β) (s'' : State H),
    Conduct chained inner held q → c ∉ held → (∀ d ∈ held, d ∈ s'.connections) →
    q.run s' = (outcome, s'') → outcome ≠ .error .dropped →
    ∃ added, s''.trace = s'.trace ++ added ∧ ∀ e ∈ added, e.2.connection? ≠ some c

namespace Takes

variable {store : Store H} {mode : Mode} {work : UnitOfWork H α} {ctx : RequestContext}
  {held : List Connection} {n : Nat} {s s' : State H} {outcome : Except Stop (Except Failure α)}
  {t : Transaction H α}

theorem terminators_eq (takes : store.Takes ctx mode work n s t outcome s') (lawful : store.Lawful)
    (keeps : ∀ inner, (work inner).run.Keeps held) (sound : s.Sound)
    (known : ∀ d ∈ held, d ∈ s.connections) :
    terminators t.connection s'.trace = [.terminator t.connection t.ending.commits] := by
  obtain ⟨opening, hopening, aside⟩ := takes.opening lawful sound
  obtain ⟨middle, hmiddle, interim⟩ := takes.middle lawful keeps sound known
  obtain ⟨finishing, hfinishing, plain⟩ := takes.finishing lawful
  -- The connection was unknown before the attempt, and until its end the events on it are interim.
  have earlier : terminators t.connection s.trace = [] := by
    refine terminators_eq_nil fun e he => Bool.eq_false_iff.mpr ?_
    intro ends
    exact takes.fresh lawful sound (sound.traced e he _ (Event.connection_of_terminates ends))
  have opened : terminators t.connection opening = [] :=
    terminators_eq_nil fun e he => (aside e he).not_terminates _
  have begun : terminators t.connection
      ((t.given.timeline.now, .began t.connection store.channel mode n) :: middle) = [] := by
    refine terminators_eq_nil fun e he => Bool.eq_false_iff.mpr ?_
    intro ends
    rcases List.mem_cons.mp he with rfl | he
    · cases ends
    · have := (interim e he (Event.connection_of_terminates ends)).not_terminates t.connection
      rw [ends] at this
      cases this
  have finished : terminators t.connection finishing = [] := by
    apply terminators_eq_nil
    intro e he
    rcases plain e he with h | ⟨d, h⟩
    · exact h.upkeep.aside.not_terminates _
    · rw [h]
      rfl
  have answered : terminators t.connection t.answered.trace =
      [.terminator t.connection t.ending.commits] := by
    rw [hfinishing, hmiddle, hopening, List.append_cons]
    simp only [terminators_append, earlier, opened, begun, finished, List.nil_append,
      List.append_nil]
    simp [terminators, Event.terminates_terminator]
  rcases takes.closing with ⟨value, -, -, hclosing⟩ | ⟨-, hclosing⟩
  · rw [hclosing, terminators_append, answered]
    simp [terminators, Event.terminates]
  · rw [hclosing, answered]

theorem closing_trace (takes : store.Takes ctx mode work n s t outcome s') : ∃ closing,
    s'.trace = t.answered.trace ++ closing ∧ ∀ e ∈ closing, e.2 = .committed t.connection := by
  rcases takes.closing with ⟨value, -, -, hclosing⟩ | ⟨-, hclosing⟩
  · exact ⟨_, hclosing, by simp⟩
  · exact ⟨[], by simpa using hclosing, by simp⟩

theorem endedOnce (takes : store.Takes ctx mode work n s t outcome s') (lawful : store.Lawful)
    (keeps : ∀ inner, (work inner).run.Keeps held) (sound : s.Sound)
    (known : ∀ d ∈ held, d ∈ s.connections) :
    store.EndedOnce t.connection t.ending.commits s' := by
  refine ⟨takes.terminators_eq lawful keeps sound known, ?_, ?_⟩
  · obtain ⟨finishing, hfinishing, plain⟩ := takes.finishing lawful
    obtain ⟨closing, hclosing, committed⟩ := takes.closing_trace
    exact ⟨t.ended.trace, t.ended.timeline.now, _, t.answer, t.answered, finishing, closing, rfl,
      takes.answered, hfinishing.trans (List.append_cons _ _ _), plain, hclosing, committed⟩
  · intro β chained inner held' q outcome' s'' conduct apart known' ran completed
    obtain ⟨here, free⟩ := takes.out_of_reach lawful keeps sound known
    have sound' := (takes.steady lawful keeps sound known).sound
    obtain ⟨added, htrace, reached⟩ :=
      (conduct.keeps s' outcome' s'' sound' known' ran completed).trace
    refine ⟨added, htrace, ?_⟩
    intro e he hec
    -- Whoever reaches a connection holds it, or there is a lease that leads to it.
    rcases (reached e he _ here hec).2 with mem | ⟨lease, -, hlease⟩
    · exact apart mem
    · exact free lease hlease

theorem lastOn (takes : store.Takes ctx mode work n s t outcome s') (lawful : store.Lawful)
    (keeps : ∀ inner, (work inner).run.Keeps held) (sound : s.Sound)
    (known : ∀ d ∈ held, d ∈ s.connections) {s₁ : State H} {r : WorkRun H α} (mem : r ∈ t.runs)
    (last : store.LastRun mode (handleIn t.given mode n) t.connection work ctx held
      (store.begunIn t.given t.connection mode n) t.ending t.ended s₁ r) :
    store.LastOn ctx mode work n s t.connection (handleIn t.given mode n) r s' := by
  have underway := takes.underway lawful sound known
  obtain ⟨restarts, runs⟩ := last.runs
  have underway₁ := underway.step last.earlier
  obtain ⟨worked, hworked, use⟩ := (runs.worked keeps underway₁).trace
  obtain ⟨rest, hrest, aside⟩ := last.alone.added
  obtain ⟨finishing, hfinishing, plain⟩ := takes.finishing lawful
  obtain ⟨closing, hclosing, committed⟩ := takes.closing_trace
  have after : s'.trace = r.before.trace ++ (worked ++ (rest ++
      ((t.ended.timeline.now, .terminator t.connection t.ending.commits) ::
        (finishing ++ closing)))) := by
    rw [hclosing, hfinishing, hrest, hworked]
    simp only [List.append_assoc, List.cons_append]
  have started : r.before.trace = s₁.trace ++ [(s₁.timeline.now,
      .running t.connection restarts (s₁.timeline.status ctx.signal))] := by
    rw [runs.before]
    rfl
  refine ⟨takes.includes r mem, runs.ran, ⟨_, _, _, _, started⟩, _, after, ?_⟩
  -- No part of what follows records the start of a run on this connection.
  intro e he k reason hrunning
  simp only [List.mem_append, List.mem_cons] at he
  have here := underway₁.step (runs.noted underway₁)
  rcases he with he | he | rfl | he | he
  · have := (use e he _ here.here (by rw [hrunning]; rfl)).1
    rw [hrunning] at this
    exact this
  · have := aside e he
    rw [hrunning] at this
    exact this
  · cases hcommits : t.ending.commits <;> simp [Event.terminator, hcommits] at hrunning
  · rcases plain e he with h | ⟨d, h⟩
    · rw [hrunning] at h
      exact h
    · rw [hrunning] at h
      cases h
  · have := committed e he
    rw [hrunning] at this
    cases this

end Takes

/-- A transaction is committed just when the last run succeeded and the commit could be prepared. -/
theorem LastRun.commits_iff {store : Store H} {mode : Mode} {handle : Handle} {c : Connection}
    {work : UnitOfWork H α} {ctx : RequestContext} {held : List Connection} {s s' s₁ : State H}
    {ending : Ending α} {r : WorkRun H α}
    (last : store.LastRun mode handle c work ctx held s ending s' s₁ r) :
    ending.commits = true ↔ store.Prepared mode c r := by
  constructor
  · intro commits
    cases hending : ending with
    | succeeded value =>
      obtain ⟨hverdict, prepared⟩ := (last.succeeded_iff value).mp hending
      exact ⟨⟨value, hverdict⟩, prepared⟩
    | failed failure => simp [hending, Ending.commits] at commits
    | panicked message => simp [hending, Ending.commits] at commits
  · rintro ⟨⟨value, hverdict⟩, prepared⟩
    rw [(last.succeeded_iff value).mpr ⟨hverdict, prepared⟩]
    rfl

/-- One end for each transaction. An attempt that gets no connection records no run, commit or
rollback. One that gets a connection ends the transaction on it once, with a commit if and only if
the last run of the unit of work succeeded and so did the preparation after it. -/
theorem attempt_ends_once (store : Store H) (ctx : RequestContext) (mode : Mode)
    (work : UnitOfWork H α) (n : Nat) (s s' : State H) (outcome : Except Stop (Except Failure α))
    {chained : Prop} {held : List Connection} (lawful : store.Lawful)
    (conduct : ∀ inner, Conduct chained inner held (work inner).run) (sound : s.Sound)
    (known : ∀ d ∈ held, d ∈ s.connections)
    (ran : (store.attempt ctx mode work n).run.run s = (outcome, s'))
    (completed : outcome ≠ .error .dropped) :
    (∃ failure added, (ctx.guard (store.request mode)).run.run s = (.ok (.error failure), s') ∧
      outcome = .ok (.error failure) ∧ s'.trace = s.trace ++ added ∧ ∀ e ∈ added, e.2.Aside) ∨
    ∃ c given handle r commits,
      (ctx.guard (store.request mode)).run.run s = (.ok (.ok c), given) ∧ c ∉ s.connections ∧
      store.LastOn ctx mode work n s c handle r s' ∧ store.EndedOnce c commits s' ∧
      (commits = true ↔ store.Prepared mode c r) := by
  have keeps := fun inner => (conduct inner).keeps
  rcases attempt_takes lawful keeps sound known ran completed with
    ⟨failure, given, houtcome⟩ | ⟨t, takes⟩
  · obtain ⟨added, htrace, aside⟩ := (request_alone lawful sound given).added
    exact .inl ⟨failure, added, given, houtcome, htrace, aside⟩
  · obtain ⟨s₁, r, mem, last⟩ :=
      takes.rounds.lastRun lawful keeps (takes.underway lawful sound known)
    exact .inr ⟨t.connection, t.given, _, r, t.ending.commits, takes.given,
      takes.fresh lawful sound, takes.lastOn lawful keeps sound known mem last,
      takes.endedOnce lawful keeps sound known, last.commits_iff⟩

open Rehearsal in
/-- A deadlock in the first run makes the store start over, and the second run is committed. -/
theorem attempt_ends_once_restarted :
    let player : Player := {
      name := "ledger", retries := fun _ => false, policy := fun _ => .single, restartLimit := 1 }
    let work : UnitOfWork (host Nat) Nat :=
      invoke "ledger" 0 [fun _ => throw (.conflict "deadlock"), fun _ => pure 7] 0
    let s : State (host Nat) := {
      host := { parts := [(("ledger", .restart), { again := true })], tallies := [0] } }
    ∃ handle r s', player.store.LastOn .background .readWrite work 1 s ⟨"ledger", 1⟩ handle r s' ∧
      player.store.Prepared .readWrite ⟨"ledger", 1⟩ r ∧
      player.store.EndedOnce ⟨"ledger", 1⟩ true s' := by
  intro player work s
  have conduct : ∀ inner, Conduct False inner [] (work inner).run := by
    apply invoke_conduct "ledger" 0 0
    intro run mem inner
    simp only [List.mem_cons, List.not_mem_nil, or_false] at mem
    rcases mem with rfl | rfl <;> exact .confined trivial
  have ran : ((player.store.attempt .background .readWrite work 1).run.run s).1 = .ok (.ok 7) := by
    cbv
  have given : (((.background : RequestContext).guard (player.store.request .readWrite)).run.run
      s).1 = .ok (.ok ⟨"ledger", 1⟩) := by cbv
  have once : terminators ⟨"ledger", 1⟩
      ((player.store.attempt .background .readWrite work 1).run.run s).2.trace =
        [.committing ⟨"ledger", 1⟩] := by cbv
  rcases attempt_ends_once player.store .background .readWrite work 1 s _ (.ok (.ok 7))
    player.store_lawful conduct (State.sound_of_empty rfl rfl rfl) (by simp) (Prod.ext ran rfl)
    (by simp) with ⟨failure, added, -, refused, -⟩ |
      ⟨c, given', handle, r, commits, hgiven, -, last, ended, prepared⟩
  · cases refused
  · rw [hgiven] at given
    cases given
    have terminated := once.symm.trans ended.once
    cases commits with
    | false => cases terminated
    | true => exact ⟨handle, r, _, last, prepared.mp rfl, ended⟩

end Store

end SessionKeeper
