import SessionKeeper.Proofs.Transaction.Terminator

/-!
Transactions nest. Whoever conducts himself leaves a trace in which each transaction ends before the
one within which it began, whatever fails, panics or starts over (`Conduct.encloses`). If calls are
chained, each made under a context derived from the one of the unit of work around it, no two open
transactions share a channel, as a call under an active transaction of its channel joins it: the
open transactions are among the active ones of the context.

`Nests` is read off the trace alone: a beginning opens a bracket, a commit or rollback closes the
last one, and everything else stands between. The conduct is gone through by induction, each
constructor enclosing what its parts enclose.

Assumed are surroundings in order and stores that are lawful. A program that is dropped halfway is
left out: no conduct races its calls against anything, each is awaited to the end.
-/

namespace SessionKeeper

variable {H : Host} {α : Type}

/-- A transaction that has begun and not ended. -/
structure Open where
  connection : Connection
  channel : Channel
  deriving DecidableEq, Repr

namespace Event

variable {N : Type}

/-- The open transactions after an event, the latest first. -/
def follow (transactions : List Open) : Event N → List Open
  | .began c channel _ _ => ⟨c, channel⟩ :: transactions
  | .committing c => transactions.eraseP (·.connection = c)
  | .rollingBack c => transactions.eraseP (·.connection = c)
  | _ => transactions

/-- Beginnings and ends of transactions. -/
def Bracket : Event N → Prop
  | .began _ _ _ _ => True
  | .committing _ => True
  | .rollingBack _ => True
  | _ => False

theorem Use.not_bracket {e : Event N} (h : e.Use) : ¬ e.Bracket := by
  cases e <;> first | exact h.elim | exact id

theorem Aside.not_bracket {e : Event N} (h : e.Aside) : ¬ e.Bracket := by
  cases e <;> first | exact h.elim | exact id

theorem follow_of_not_bracket {e : Event N} (h : ¬ e.Bracket) (transactions : List Open) :
    e.follow transactions = transactions := by
  cases e <;> first | rfl | exact absurd trivial h

theorem follow_terminator (c : Connection) (channel : Channel) (commits : Bool)
    (transactions : List Open) :
    (terminator c commits : Event N).follow (⟨c, channel⟩ :: transactions) = transactions := by
  cases commits <;> simp [terminator, follow]

end Event

variable {N : Type}

/-- The open transactions after a trace. -/
def openAfter (transactions : List Open) (trace : Trace N) : List Open :=
  trace.foldl (fun transactions e => e.2.follow transactions) transactions

/-- A trace takes the open transactions from one list to another, and ends none but the latest. If
calls are `chained`, none begins on a channel on which one is open. -/
inductive Nests (chained : Prop) : List Open → Trace N → List Open → Prop
  | nil {now : List Open} : Nests chained now [] now
  | other {now later : List Open} {e : Instant × Event N} {trace : Trace N} :
      ¬ e.2.Bracket → Nests chained now trace later → Nests chained now (e :: trace) later
  | began {now later : List Open} {time : Instant} {c : Connection} {channel : Channel}
      {mode : Mode} {n : Nat} {trace : Trace N} :
      (chained → ∀ o ∈ now, o.channel ≠ channel) →
      Nests chained (⟨c, channel⟩ :: now) trace later →
      Nests chained now ((time, .began c channel mode n) :: trace) later
  | ended {now later : List Open} {time : Instant} {c : Connection} {channel : Channel}
      {commits : Bool} {trace : Trace N} :
      Nests chained now trace later →
      Nests chained (⟨c, channel⟩ :: now) ((time, .terminator c commits) :: trace) later

namespace Nests

variable {chained : Prop} {now later : List Open} {trace : Trace N}

theorem append {then_ : List Open} {trace' : Trace N} (h : Nests chained now trace later)
    (h' : Nests chained later trace' then_) : Nests chained now (trace ++ trace') then_ := by
  induction h with
  | nil => exact h'
  | other bracket _ ih => exact .other bracket (ih h')
  | began free _ ih => exact .began free (ih h')
  | ended _ ih => exact .ended (ih h')

theorem of_others (h : ∀ e ∈ trace, ¬ e.2.Bracket) : Nests chained now trace now := by
  induction trace with
  | nil => exact .nil
  | cons e trace ih =>
    exact .other (h e List.mem_cons_self) (ih fun e he => h e (List.mem_cons_of_mem _ he))

theorem openAfter_eq (h : Nests chained now trace later) : openAfter now trace = later := by
  induction h with
  | nil => rfl
  | other bracket _ ih =>
    unfold openAfter at ih ⊢
    rw [List.foldl_cons, Event.follow_of_not_bracket bracket, ih]
  | began free _ ih => exact ih
  | ended _ ih =>
    unfold openAfter at ih ⊢
    rw [List.foldl_cons, Event.follow_terminator, ih]

theorem split {before after : Trace N} (h : Nests chained now (before ++ after) later) :
    Nests chained now before (openAfter now before) ∧
      Nests chained (openAfter now before) after later := by
  induction before generalizing now with
  | nil => exact ⟨.nil, h⟩
  | cons e before ih =>
    cases h with
    | other bracket rest =>
      obtain ⟨first, second⟩ := ih rest
      have same : openAfter now (e :: before) = openAfter now before := by
        unfold openAfter
        rw [List.foldl_cons, Event.follow_of_not_bracket bracket]
      rw [same]
      exact ⟨.other bracket first, second⟩
    | began free rest =>
      obtain ⟨first, second⟩ := ih rest
      exact ⟨.began free first, second⟩
    | ended rest =>
      obtain ⟨first, second⟩ := ih rest
      have same : ∀ {c channel commits time now}, openAfter (⟨c, channel⟩ :: now)
          ((time, (Event.terminator c commits : Event N)) :: before) = openAfter now before := by
        intro c channel commits time now
        unfold openAfter
        rw [List.foldl_cons, Event.follow_terminator]
      rw [same]
      exact ⟨.ended first, second⟩

/-- Chained calls have no two transactions open on one channel. -/
theorem nodup (h : Nests chained now trace later) (chain : chained)
    (nodup : (now.map (·.channel)).Nodup) : (later.map (·.channel)).Nodup := by
  induction h with
  | nil => exact nodup
  | other bracket _ ih => exact ih nodup
  | began free _ ih =>
    refine ih (List.nodup_cons.mpr ⟨fun mem => ?_, nodup⟩)
    obtain ⟨o, ho, hchannel⟩ := List.mem_map.mp mem
    exact free chain o ho hchannel
  | ended _ ih => exact ih (List.nodup_cons.mp nodup).2

end Nests

/-! ## What encloses its transactions -/

/-- The transactions that began between `s` and `s'` have ended, each within those open before. -/
def Encloses (chained : Prop) (now : List Open) (s s' : State H) : Prop :=
  ∃ added, s'.trace = s.trace ++ added ∧ Nests chained now added now

namespace Encloses

variable {chained : Prop} {now : List Open} {s s₁ s' : State H}

theorem trans (h : Encloses chained now s s₁) (h' : Encloses chained now s₁ s') :
    Encloses chained now s s' := by
  obtain ⟨first, hfirst, nests⟩ := h
  obtain ⟨rest, hrest, nests'⟩ := h'
  exact ⟨first ++ rest, by rw [hrest, hfirst, List.append_assoc], nests.append nests'⟩

theorem of_others {added : Trace H.Note} (trace : s'.trace = s.trace ++ added)
    (others : ∀ e ∈ added, ¬ e.2.Bracket) : Encloses chained now s s' :=
  ⟨added, trace, .of_others others⟩

theorem of_quiet (quiet : State.Quiet s s') : Encloses chained now s s' :=
  of_others (by rw [quiet.trace, List.append_nil]) (by simp)

theorem of_alone {held : List Connection} (alone : Alone held s s') :
    Encloses chained now s s' := by
  obtain ⟨added, trace, aside⟩ := alone.added
  exact of_others trace fun e he => (aside e he).not_bracket

theorem of_confined {held : List Connection} {p : Program H α} (confined : p.Confined .unit held) :
    p.Ensures held (Encloses chained now) := by
  intro s outcome s' _ _ ran _
  obtain ⟨added, trace, use⟩ := confined.added s
  rw [ran] at trace
  apply of_others trace
  intro e he
  rcases use e he with h | ⟨c, h⟩
  · exact Event.Use.not_bracket h
  · rw [h]
    exact id

end Encloses

namespace Store

variable {store : Store H} {mode : Mode} {ctx : RequestContext} {work : UnitOfWork H α}
  {held : List Connection} {n : Nat} {chained : Prop} {now : List Open}

/-- An attempt encloses its transaction if its unit of work encloses those within. -/
theorem attempt_encloses (lawful : store.Lawful) (keeps : ∀ inner, (work inner).run.Keeps held)
    (free : chained → ∀ o ∈ now, o.channel ≠ store.channel)
    (within : ∀ handle c, (work (ctx.bind store.channel handle)).run.Ensures held
      (Encloses chained (⟨c, store.channel⟩ :: now))) :
    (store.attempt ctx mode work n).run.Ensures held (Encloses chained now) := by
  intro s outcome s' sound known ran completed
  rcases attempt_takes lawful keeps sound known ran completed with ⟨failure, given, -⟩ | ⟨t, takes⟩
  · exact .of_alone (request_alone lawful sound given)
  · have worked : ∀ {s r restarts}, Underway (handleIn t.given mode n) t.connection held s →
        store.Runs (handleIn t.given mode n) t.connection work ctx restarts s r →
        Encloses chained (⟨t.connection, store.channel⟩ :: now) s r.after := by
      intro s r restarts underway runs
      have started := underway.step (runs.noted underway)
      have running : Encloses chained (⟨t.connection, store.channel⟩ :: now) s r.before := by
        rw [runs.before]
        exact .of_others rfl (List.forall_mem_singleton.mpr id)
      exact running.trans (within _ _ _ _ _ started.sound started.known
        (Program.run_of_catchPanic runs.ran) (Program.uncaught_ne_dropped _))
    obtain ⟨-, middle, hmiddle, nests⟩ := takes.rounds.along
      (P := Encloses chained (⟨t.connection, store.channel⟩ :: now)) lawful keeps .trans worked
      (fun _ alone => .of_alone alone) (takes.underway lawful sound known)
    have opened : Encloses chained now s t.given :=
      .of_alone (request_alone lawful sound takes.given)
    obtain ⟨finishing, hfinishing, plain⟩ := takes.finishing lawful
    obtain ⟨closing, hclosing, committed⟩ := takes.closing_trace
    refine opened.trans ⟨(t.given.timeline.now, .began t.connection store.channel mode n) ::
      (middle ++ (t.ended.timeline.now, .terminator t.connection t.ending.commits) ::
        (finishing ++ closing)), ?_,
      .began free (nests.append (.ended (.of_others fun e he => ?_)))⟩
    · rw [hclosing, hfinishing, hmiddle]
      simp only [begunIn, State.logged, State.noted, State.leasing, List.append_assoc,
        List.cons_append, List.nil_append]
    · rcases List.mem_append.mp he with he | he
      · rcases plain e he with h | ⟨d, h⟩
        · exact h.use.not_bracket
        · rw [h]
          exact id
      · rw [committed e he]
        exact id

/-- A call encloses its transactions, if calls are not chained or the open transactions are
active. -/
theorem call_encloses (lawful : store.Lawful) (keeps : ∀ inner, (work inner).run.Keeps held)
    (active : chained → ∀ o ∈ now, ctx.active? o.channel ≠ none)
    (within : ∀ inner now, (chained → ∀ o ∈ now, inner.active? o.channel ≠ none) →
      (work inner).run.Ensures held (Encloses chained now)) :
    (store.call mode ctx work).run.Ensures held (Encloses chained now) := by
  refine call_ensures lawful keeps .trans (fun _ quiet => .of_quiet quiet) (within ctx now active)
    fun inactive n => attempt_encloses lawful keeps (fun chain o ho hchannel => ?_)
      fun handle c => within _ _ fun chain o ho => ?_
  · exact active chain o ho (hchannel ▸ inactive)
  · -- The transaction of the attempt is active on its channel, and the others as they were before.
    by_cases same : store.channel = o.channel
    · rw [← same, RequestContext.active?_bind_self]
      simp
    · rw [RequestContext.active?_bind_of_ne ctx handle same]
      rcases List.mem_cons.mp ho with rfl | ho
      · exact absurd rfl same
      · exact active chain o ho

end Store

theorem Conduct.encloses {chained : Prop} {ctx : RequestContext} {held : List Connection}
    {p : Program H α} (conduct : Conduct chained ctx held p) :
    ∀ now, (chained → ∀ o ∈ now, ctx.active? o.channel ≠ none) →
      p.Ensures held (Encloses chained now) := by
  induction conduct with
  | confined h =>
    intro now _
    exact .of_confined h
  | bind conduct _ ih ihf =>
    intro now active
    exact .bind .trans conduct.keeps (ih now active) fun a => ihf a now active
  | catchPanic _ ih =>
    intro now active
    exact Program.Ensures.catchPanic (ih now active)
  | borrow _ ih =>
    intro now active
    exact .borrow (fun found => ih found now active) fun _ _ h => h
  | derived derives _ ih =>
    refine fun now active => ih now ?_
    intro chain o ho
    rw [(derives chain).active?]
    exact active chain o ho
  | call lawful conduct ih =>
    exact fun now active => Store.call_encloses lawful (fun inner => (conduct inner).keeps) active
      fun inner => ih inner
  | attempt lawful free conduct ih =>
    refine fun now active => Store.attempt_encloses lawful (fun inner => (conduct inner).keeps)
      (fun chain => absurd chain free) fun handle c => ih _ _ fun chain => absurd chain free

theorem Nests.terminator {chained : Prop} {now later : List Open} {e : Instant × Event N}
    {trace : Trace N} {c : Connection} (h : Nests chained now (e :: trace) later)
    (ends : e.2.terminates c = true) :
    ∃ channel rest, now = ⟨c, channel⟩ :: rest ∧ openAfter now [e] = rest := by
  cases h with
  | other bracket _ =>
    obtain ⟨time, e⟩ := e
    cases e <;> first | exact absurd trivial bracket | cases ends
  | began _ _ => cases ends
  | @ended _ _ time d channel commits _ _ =>
    obtain rfl : d = c := by
      cases commits <;> simpa [Event.terminator, Event.terminates] using ends
    exact ⟨channel, _, rfl, Event.follow_terminator d channel commits _⟩

/-- The transactions of a trace are bracketed. -/
structure Bracketed (trace : Trace N) : Prop where
  /-- None is open in the end. -/
  closed : openAfter [] trace = []
  /-- At every moment, at most one is open on each channel. -/
  single : ∀ before after, trace = before ++ after → ((openAfter [] before).map (·.channel)).Nodup
  /-- Each commit or rollback ends the transaction that began last of those open. -/
  last_first : ∀ before e after c, trace = before ++ e :: after → e.2.terminates c = true →
    ∃ channel others, openAfter [] before = ⟨c, channel⟩ :: others ∧
      openAfter [] (before ++ [e]) = others

theorem Nests.bracketed {trace : Trace N} (nests : Nests True [] trace []) : Bracketed trace := by
  refine ⟨nests.openAfter_eq, ?_, ?_⟩
  · rintro before after rfl
    exact nests.split.1.nodup trivial List.nodup_nil
  · rintro before e after c rfl ends
    obtain ⟨channel, others, hbefore, hafter⟩ := nests.split.2.terminator ends
    refine ⟨channel, others, hbefore, ?_⟩
    unfold openAfter at hafter ⊢
    rw [List.foldl_append]
    exact hafter

theorem Encloses.bracketed {s s' : State H} (h : Encloses True [] s s') :
    ∃ added, s'.trace = s.trace ++ added ∧ Bracketed added := by
  obtain ⟨added, trace, nests⟩ := h
  exact ⟨added, trace, nests.bracketed⟩

/-- Chained calls have at most one transaction open on each channel at every moment, so the attempts
of a call do not overlap. Each commit or rollback ends the transaction that began last of those
open, and in the end none is open, whatever failed, panicked or started over. -/
theorem chained_calls_nest (ctx : RequestContext) (held : List Connection) (p : Program H α)
    (s s' : State H) (outcome : Except Stop α) (conduct : Conduct True ctx held p)
    (sound : s.Sound) (known : ∀ c ∈ held, c ∈ s.connections) (ran : p.run s = (outcome, s'))
    (completed : outcome ≠ .error .dropped) :
    ∃ added, s'.trace = s.trace ++ added ∧ Bracketed added := by
  have encloses := conduct.encloses [] (fun _ _ mem => by cases mem)
  exact (encloses s outcome s' sound known ran completed).bracketed

open Rehearsal in
/-- A panic unwinds through two transactions, of which the inner one is rolled back first. -/
theorem chained_calls_nest_panic :
    let ledger : Player := {
      name := "ledger", retries := fun _ => false, policy := fun _ => .single }
    let audit : Player := { ledger with name := "audit", channel := ⟨1⟩ }
    let p : Program (host Nat) (Except Failure Nat) :=
      (ledger.store.call .readWrite .background fun ctx =>
        audit.store.call .readWrite ctx fun _ => ExceptT.mk (.panic "out of paper")).run
    ∃ added, (p.run { host := {} }).2.trace = added ∧ Bracketed added ∧
      added.map (·.2) = [
        .requested "ledger" .readWrite, .opened ⟨"ledger", 1⟩,
        .began ⟨"ledger", 1⟩ ⟨0⟩ .readWrite 1, .running ⟨"ledger", 1⟩ 0 none,
        .requested "audit" .readWrite, .opened ⟨"audit", 1⟩,
        .began ⟨"audit", 1⟩ ⟨1⟩ .readWrite 1, .running ⟨"audit", 1⟩ 0 none,
        .rollingBack ⟨"audit", 1⟩, .rollingBack ⟨"ledger", 1⟩] := by
  intro ledger audit p
  have conduct : Conduct True .background [] p :=
    .call ledger.store_lawful fun ctx => .call audit.store_lawful fun ctx => .confined trivial
  have ran : (p.run { host := {} }).1 = .error (.panic "out of paper") := by
    unfold p
    cbv
  obtain ⟨added, htrace, bracketed⟩ := chained_calls_nest .background [] p { host := {} } _
    (.error (.panic "out of paper")) conduct (State.sound_of_empty rfl rfl rfl) (by simp)
    (Prod.ext ran rfl) (by simp)
  refine ⟨added, htrace, bracketed, ?_⟩
  rw [← List.nil_append added, ← htrace]
  unfold p
  cbv

end SessionKeeper
