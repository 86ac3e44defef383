import SessionKeeper.Proofs.Program.Custody
import SessionKeeper.Proofs.Transaction.Lawful
import SessionKeeper.Transaction.Attempt

/-!
An account of what an attempt does, as a relation between the surroundings before and after it. Each
constructor is one way through the source of the definition it accounts for, with the runs of the
store's primitives and of the unit of work as premises.

`RoundsTo` knows no limit on restarts: the rounds of an attempt are in it for whatever number of
restarts they take (`rounds_account`), so what holds of accounts holds of attempts that start over
any number of times. `attempt_account` and `conclude_account` are for lawful stores, whose
primitives do not panic and keep to the connection that they are given.

Correspondence: `run_tx` ↔ `AttemptTo`; its loop ↔ `RoundsTo`, one turn of which is `RoundTo` and,
where that fails, `StartOverTo`; `prepare_commit` is the last part of `RoundTo`, and `restart` ↔
`RestartTo`.
-/

namespace SessionKeeper

/-- The run of `p` from `s` includes a run of `q` from `s₁`. -/
inductive Program.Includes {H : Host} :
    {α β : Type} → Program H α → State H → Program H β → State H → Prop
  | here {α : Type} {p : Program H α} {s : State H} : Includes p s p s
  | first {α β γ : Type} {p : Program H α} {f : α → Program H β} {q : Program H γ}
      {s s₁ : State H} :
      Includes p s q s₁ → Includes (p.bind f) s q s₁
  | second {α β γ : Type} {p : Program H α} {f : α → Program H β} {a : α} {q : Program H γ}
      {s s₁ s₂ : State H} :
      p.run s = (.ok a, s₁) → Includes (f a) s₁ q s₂ → Includes (p.bind f) s q s₂
  | caught {α γ : Type} {p : Program H α} {q : Program H γ} {s s₁ : State H} :
      Includes p s q s₁ → Includes p.catchPanic s q s₁

variable {H : Host} {α : Type}

/-! ## Requests of an attempt -/

theorem Handle.run_lock (h : Handle) (s : State H) :
    h.lock.run.run s =
      (.ok (match s.connectionOf h.lease with
        | some c => .ok c
        | none => .error escaped), s) := by
  unfold lock
  simp only [ExceptT.run_mk, Program.bind_eq_bind, Program.run_bind, Program.run_borrow]
  cases s.connectionOf h.lease <;> rfl

/-- Whoever waits for the connection of a handle finds it on loan for as long as the transaction
lasts. -/
theorem Handle.guard_lock (ctx : RequestContext) (handle : Handle) :
    (ctx.guard (handle.lock (H := H))).run = Program.bind ctx.status fun
      | some reason => .done (.error (.canceled reason))
      | none => (Program.borrow handle.lease).bind fun
        | some c => .done (.ok c)
        | none => .done (.error Handle.escaped) := by
  rw [Context.guard_run]
  congr 1
  funext status
  cases status with
  | some reason => rfl
  | none =>
    change Program.ask _ _ = Program.ask _ _
    congr 1
    funext found
    cases found <;> rfl

/-! ## Runs of the unit of work -/

/-- One run of a unit of work within an attempt. -/
structure WorkRun (H : Host) (α : Type) where
  /-- How many restarts there were before it. -/
  restarts : Nat
  before : State H
  /-- The message with which it panicked, or what it gave. -/
  verdict : Except String (Except Failure α)
  after : State H

namespace Store

/-- `r` is the run that a round starts in the surroundings `s`. -/
structure Runs (store : Store H) (handle : Handle) (begun : Connection) (work : UnitOfWork H α)
    (ctx : RequestContext) (restarts : Nat) (s : State H) (r : WorkRun H α) : Prop where
  number : r.restarts = restarts
  before : r.before = s.noted (.running begun restarts (s.timeline.status ctx.signal))
  ran : (work (ctx.bind store.channel handle)).run.catchPanic.run r.before =
    (.ok r.verdict, r.after)

variable (store : Store H) (mode : Mode) (handle : Handle) (begun : Connection)
  (work : UnitOfWork H α) (ctx : RequestContext)

/-! ## Rounds -/

/-- What a round comes to. -/
inductive RoundTo (restarts : Nat) (s : State H) : WorkRun H α → Ending α → State H → Prop
  | panicked {r : WorkRun H α} {message : String} :
      store.Runs handle begun work ctx restarts s r → r.verdict = .error message →
      RoundTo restarts s r (.panicked message) r.after
  | failed {r : WorkRun H α} {failure : Failure} :
      store.Runs handle begun work ctx restarts s r → r.verdict = .ok (.error failure) →
      RoundTo restarts s r (.failed failure) r.after
  | escaped {r : WorkRun H α} {value : α} :
      store.Runs handle begun work ctx restarts s r → r.verdict = .ok (.ok value) →
      r.after.connectionOf handle.lease = none →
      RoundTo restarts s r (.failed Handle.escaped) r.after
  | unprepared {r : WorkRun H α} {value : α} {c : Connection} {failure : Failure} {s' : State H} :
      store.Runs handle begun work ctx restarts s r → r.verdict = .ok (.ok value) →
      r.after.connectionOf handle.lease = some c →
      (store.prepare mode c).run.run (r.after.noted (.preparing c)) = (.ok (.error failure), s') →
      RoundTo restarts s r (.failed failure) s'
  | succeeded {r : WorkRun H α} {value : α} {c : Connection} {s' : State H} :
      store.Runs handle begun work ctx restarts s r → r.verdict = .ok (.ok value) →
      r.after.connectionOf handle.lease = some c →
      (store.prepare mode c).run.run (r.after.noted (.preparing c)) = (.ok (.ok ()), s') →
      RoundTo restarts s r (.succeeded value) s'

/-- What asking the store to start over comes to. -/
inductive RestartTo (failure : Failure) (restarts : Nat) (s : State H) :
    Except Failure Bool → State H → Prop
  | escaped : s.connectionOf handle.lease = none →
      RestartTo failure restarts s (.error Handle.escaped) s
  | refused {c : Connection} {cause : Failure} {s' : State H} :
      s.connectionOf handle.lease = some c →
      (store.restart mode c failure restarts).run.run (s.noted (.restarting c restarts failure)) =
        (.ok (.error cause), s') →
      RestartTo failure restarts s
        (.error (.internal ("restart failed after: " ++ failure.text) cause)) s'
  | answered {c : Connection} {again : Bool} {s' : State H} :
      s.connectionOf handle.lease = some c →
      (store.restart mode c failure restarts).run.run (s.noted (.restarting c restarts failure)) =
        (.ok (.ok again), s') →
      RestartTo failure restarts s (.ok again) s'

/-- What readying the transaction for another run comes to. -/
inductive StartOverTo (failure : Failure) (restarts : Nat) (s : State H) :
    Except Failure Unit → State H → Prop
  | interrupted {reason : Cancellation} :
      s.timeline.status ctx.signal = some reason → StartOverTo failure restarts s (.error failure) s
  | unable {cause : Failure} {s' : State H} :
      s.timeline.status ctx.signal = none →
      RestartTo store mode handle failure restarts s (.error cause) s' →
      StartOverTo failure restarts s (.error cause) s'
  | declined {s' : State H} :
      s.timeline.status ctx.signal = none →
      RestartTo store mode handle failure restarts s (.ok false) s' →
      StartOverTo failure restarts s (.error failure) s'
  | cut {reason : Cancellation} {s₁ s' : State H} :
      s.timeline.status ctx.signal = none →
      RestartTo store mode handle failure restarts s (.ok true) s₁ →
      (store.rest handle ctx failure (restarts + 1)).run s₁ = (.ok (some reason), s') →
      StartOverTo failure restarts s (.error (.canceledDuring reason failure)) s'
  | ready {s₁ s' : State H} :
      s.timeline.status ctx.signal = none →
      RestartTo store mode handle failure restarts s (.ok true) s₁ →
      (store.rest handle ctx failure (restarts + 1)).run s₁ = (.ok none, s') →
      StartOverTo failure restarts s (.ok ()) s'

/-- What the rounds of an attempt come to, with the runs of the unit of work in order. -/
inductive RoundsTo : Nat → State H → List (WorkRun H α) → Ending α → State H → Prop
  | succeeded {restarts : Nat} {s s' : State H} {r : WorkRun H α} {value : α} :
      RoundTo store mode handle begun work ctx restarts s r (.succeeded value) s' →
      RoundsTo restarts s [r] (.succeeded value) s'
  | panicked {restarts : Nat} {s s' : State H} {r : WorkRun H α} {message : String} :
      RoundTo store mode handle begun work ctx restarts s r (.panicked message) s' →
      RoundsTo restarts s [r] (.panicked message) s'
  | failed {restarts : Nat} {s s₁ s' : State H} {r : WorkRun H α} {failure final : Failure} :
      RoundTo store mode handle begun work ctx restarts s r (.failed failure) s₁ →
      StartOverTo store mode handle ctx failure restarts s₁ (.error final) s' →
      RoundsTo restarts s [r] (.failed final) s'
  | again {restarts : Nat} {s s₁ s₂ s' : State H} {r : WorkRun H α} {rs : List (WorkRun H α)}
      {failure : Failure} {ending : Ending α} :
      RoundTo store mode handle begun work ctx restarts s r (.failed failure) s₁ →
      StartOverTo store mode handle ctx failure restarts s₁ (.ok ()) s₂ →
      RoundsTo (restarts + 1) s₂ rs ending s' →
      RoundsTo restarts s (r :: rs) ending s'

variable {store mode handle begun work ctx} {restarts left : Nat} {s s' : State H}

theorem round_account {ending : Ending α}
    (ran : (store.round mode handle begun work ctx restarts).run s = (.ok ending, s')) :
    ∃ r, RoundTo store mode handle begun work ctx restarts s r ending s' := by
  unfold round at ran
  simp only [Program.bind_eq_bind, Context.status, Program.run_bind, Program.run_status,
    Program.run_record] at ran
  rcases hwork : (work (ctx.bind store.channel handle)).run.catchPanic.run
    (s.noted (.running begun restarts (s.timeline.status ctx.signal))) with ⟨_ | verdict, s₁⟩
  · rw [hwork] at ran
    cases ran
  · rw [hwork] at ran
    have runs : store.Runs handle begun work ctx restarts s ⟨restarts, _, verdict, s₁⟩ :=
      ⟨rfl, rfl, hwork⟩
    rcases verdict with message | (failure | value)
    · cases ran
      exact ⟨_, .panicked runs rfl⟩
    · cases ran
      exact ⟨_, .failed runs rfl⟩
    · simp only [Program.run_bind, Handle.run_lock] at ran
      cases hlease : s₁.connectionOf handle.lease with
      | none =>
        rw [hlease] at ran
        cases ran
        exact ⟨_, .escaped runs rfl hlease⟩
      | some c =>
        simp only [hlease, Program.run_bind, Program.run_record] at ran
        rcases hprepare : (store.prepare mode c).run.run (s₁.noted (.preparing c)) with
          ⟨_ | (failure | _), s₂⟩
        · rw [hprepare] at ran
          cases ran
        · rw [hprepare] at ran
          cases ran
          exact ⟨_, .unprepared runs rfl hlease hprepare⟩
        · rw [hprepare] at ran
          cases ran
          exact ⟨_, .succeeded runs rfl hlease hprepare⟩

theorem restarted_account {failure : Failure} {answer : Except Failure Bool}
    (ran : (store.restarted mode handle failure restarts).run.run s = (.ok answer, s')) :
    RestartTo store mode handle failure restarts s answer s' := by
  unfold restarted at ran
  simp only [ExceptT.run_mk, Program.bind_eq_bind, Program.run_bind, Handle.run_lock] at ran
  cases hlease : s.connectionOf handle.lease with
  | none =>
    rw [hlease] at ran
    cases ran
    exact .escaped hlease
  | some c =>
    simp only [hlease, Program.run_bind, Program.run_record] at ran
    rcases hrestart : (store.restart mode c failure restarts).run.run
      (s.noted (.restarting c restarts failure)) with ⟨_ | (cause | again), s₁⟩
    · rw [hrestart] at ran
      cases ran
    · rw [hrestart] at ran
      cases ran
      exact .refused hlease hrestart
    · rw [hrestart] at ran
      cases ran
      exact .answered hlease hrestart

theorem startOver_account {failure : Failure} {answer : Except Failure Unit}
    (ran : (store.startOver mode handle ctx failure restarts).run.run s = (.ok answer, s')) :
    StartOverTo store mode handle ctx failure restarts s answer s' := by
  unfold startOver at ran
  simp only [ExceptT.run_mk, Program.bind_eq_bind, Context.status, Program.run_bind,
    Program.run_status] at ran
  cases hstatus : s.timeline.status ctx.signal with
  | some reason =>
    rw [hstatus] at ran
    cases ran
    exact .interrupted hstatus
  | none =>
    simp only [hstatus, Program.run_bind] at ran
    rcases hrestarted : (store.restarted mode handle failure restarts).run.run s with
      ⟨_ | (cause | again), s₁⟩
    · rw [hrestarted] at ran
      cases ran
    · rw [hrestarted] at ran
      cases ran
      exact .unable hstatus (restarted_account hrestarted)
    · cases again with
      | false =>
        rw [hrestarted] at ran
        cases ran
        exact .declined hstatus (restarted_account hrestarted)
      | true =>
        simp only [hrestarted, Program.run_bind] at ran
        rcases hrest : (store.rest handle ctx failure (restarts + 1)).run s₁ with
          ⟨_ | (_ | reason), s₂⟩
        · rw [hrest] at ran
          cases ran
        · rw [hrest] at ran
          cases ran
          exact .ready hstatus (restarted_account hrestarted) hrest
        · rw [hrest] at ran
          cases ran
          exact .cut hstatus (restarted_account hrestarted) hrest

theorem round_includes {r : WorkRun H α} (runs : store.Runs handle begun work ctx restarts s r) :
    (store.round mode handle begun work ctx restarts).Includes s
      (work (ctx.bind store.channel handle)).run r.before := by
  rw [runs.before]
  exact .second rfl (.second rfl (.first (.caught .here)))

theorem RoundTo.runs {r : WorkRun H α} {ending : Ending α}
    (h : RoundTo store mode handle begun work ctx restarts s r ending s') :
    store.Runs handle begun work ctx restarts s r := by
  cases h <;> assumption

theorem RoundsTo.runs {rs : List (WorkRun H α)} {ending : Ending α}
    (h : RoundsTo store mode handle begun work ctx restarts s rs ending s') :
    ∀ r ∈ rs, ∃ restarts s₁, store.Runs handle begun work ctx restarts s₁ r := by
  have only : ∀ {restarts s s' ending} {r : WorkRun H α},
      RoundTo store mode handle begun work ctx restarts s r ending s' →
      ∀ x ∈ [r], ∃ restarts s₁, store.Runs handle begun work ctx restarts s₁ x := by
    intro restarts s s' ending r account x mem
    obtain rfl := List.mem_singleton.mp mem
    exact ⟨_, _, account.runs⟩
  induction h with
  | succeeded account => exact only account
  | panicked account => exact only account
  | failed account anew => exact only account
  | again account anew tos ih =>
    intro x mem
    rcases List.mem_cons.mp mem with rfl | mem
    · exact ⟨_, _, account.runs⟩
    · exact ih x mem

/-- What follows a round, where `next` is what follows a restart. -/
def followUp (store : Store H) (mode : Mode) (handle : Handle) (ctx : RequestContext)
    (restarts : Nat) (next : Program H (Ending α)) : Ending α → Program H (Ending α)
  | .succeeded value => .done (.succeeded value)
  | .panicked message => .done (.panicked message)
  | .failed failure => (store.startOver mode handle ctx failure restarts).run.bind fun
    | .error final => .done (.failed final)
    | .ok () => next

theorem rounds_eq : store.rounds mode handle begun work ctx left restarts =
    (store.round mode handle begun work ctx restarts).bind
      (store.followUp mode handle ctx restarts (match left with
        | 0 => .stop .dropped
        | left + 1 => store.rounds mode handle begun work ctx left (restarts + 1))) := by
  conv => lhs; unfold rounds
  rw [Program.bind_eq_bind]
  rfl

/-- `next` accounts for the rounds from `restarts` restarts on. -/
def Accounts (store : Store H) (mode : Mode) (handle : Handle) (begun : Connection)
    (work : UnitOfWork H α) (ctx : RequestContext) (restarts : Nat)
    (next : Program H (Ending α)) : Prop :=
  ∀ s ending s', next.run s = (.ok ending, s') →
    ∃ rs, RoundsTo store mode handle begun work ctx restarts s rs ending s' ∧
      ∀ r ∈ rs, next.Includes s (work (ctx.bind store.channel handle)).run r.before

theorem followed_account {next : Program H (Ending α)}
    (later : store.Accounts mode handle begun work ctx (restarts + 1) next) :
    store.Accounts mode handle begun work ctx restarts
      ((store.round mode handle begun work ctx restarts).bind
        (store.followUp mode handle ctx restarts next)) := by
  intro s ending s' ran
  rcases Program.run_bind_inv ran with ⟨e, s₁, hround, ran⟩ | ⟨_, _, stopped⟩
  · obtain ⟨r, account⟩ := round_account hround
    have includes : ∀ x ∈ [r], ((store.round mode handle begun work ctx restarts).bind
        (store.followUp mode handle ctx restarts next)).Includes s
          (work (ctx.bind store.channel handle)).run x.before := by
      intro x hx
      rw [List.mem_singleton.mp hx]
      exact .first (round_includes account.runs)
    cases e with
    | succeeded value =>
      cases ran
      exact ⟨[r], .succeeded account, includes⟩
    | panicked message =>
      cases ran
      exact ⟨[r], .panicked account, includes⟩
    | failed failure =>
      rcases Program.run_bind_inv ran with ⟨answer, s₂, hover, ran⟩ | ⟨_, _, stopped⟩
      · cases answer with
        | error final =>
          cases ran
          exact ⟨[r], .failed account (startOver_account hover), includes⟩
        | ok ready =>
          obtain ⟨rs, tos, hrs⟩ := later _ _ _ ran
          -- The later runs are runs of the whole, behind this round and the restart.
          refine ⟨r :: rs, .again account (startOver_account hover) tos, ?_⟩
          intro x hx
          rcases List.mem_cons.mp hx with rfl | hx
          · exact includes x (List.mem_singleton_self x)
          · exact .second hround (.second hover (hrs x hx))
      · cases stopped
  · cases stopped

/-- Every run of the rounds is accounted for, and includes the runs of the unit of work. -/
theorem rounds_account : store.Accounts mode handle begun work ctx restarts
    (store.rounds mode handle begun work ctx left restarts) := by
  induction left generalizing restarts with
  | zero =>
    rw [rounds_eq]
    -- A restart that is not followed leaves the rounds without an ending.
    apply followed_account
    intro s ending s' ran
    cases ran
  | succ left ih =>
    rw [rounds_eq]
    exact followed_account ih

/-! ## The end of an attempt -/

end Store

/-- The event with which a transaction ends: its commit, or its rollback. -/
def Event.terminator {N : Type} (c : Connection) (commits : Bool) : Event N :=
  if commits then .committing c else .rollingBack c

@[simp] theorem Event.connection_terminator {N : Type} (c : Connection) (commits : Bool) :
    (Event.terminator c commits : Event N).connection? = some c := by
  cases commits <;> rfl

namespace Ending

/-- Whether the attempt commits. -/
def commits : Ending α → Bool
  | .succeeded _ => true
  | .failed _ => false
  | .panicked _ => false

/-- What the attempt ends with, given the answer to its commit or rollback. -/
def result : Ending α → Except Failure Unit → Except Stop (Except Failure α)
  | .succeeded value, .ok () => .ok (.ok value)
  | .succeeded _, .error cause =>
    .ok (.error (.wrap (if cause.is .conflict then .conflict else .internal) "commit failed" cause))
  | .failed failure, .ok () => .ok (.error failure)
  | .failed failure, .error cause =>
    .ok (.error (.internal ("rollback failed after: " ++ failure.text) cause))
  | .panicked message, _ => .error (.panic message)

/-- The surroundings once the store has answered to that. -/
def closed (c : Connection) : Ending α → Except Failure Unit → State H → State H
  | .succeeded _, .ok (), s => s.noted (.committed c)
  | _, _, s => s

end Ending

namespace Store

/-- The commit of a transaction, or its rollback. -/
def finish (store : Store H) (c : Connection) (commits : Bool) : Work H Unit :=
  if commits then store.commit c else store.rollback c

theorem Lawful.finish {store : Store H} (lawful : store.Lawful) (c : Connection) (commits : Bool) :
    (store.finish c commits).run.Tame Event.Plain [c] := by
  cases commits with
  | true => exact lawful.commit c
  | false => exact lawful.rollback c

variable {store : Store H} {mode : Mode} {handle : Handle} {begun : Connection}
  {work : UnitOfWork H α} {ctx : RequestContext} {restarts left n : Nat} {s s' : State H}

/-- The connection is taken back, and then there is exactly one commit or rollback of it. -/
theorem conclude_account (lawful : store.Lawful) {ending : Ending α} {c : Connection}
    (leads : s.connectionOf handle.lease = some c) {outcome : Except Stop (Except Failure α)}
    (ran : (store.conclude handle ending).run.run s = (outcome, s'))
    (completed : outcome ≠ .error .dropped) :
    ∃ answer s₁ logs,
      (store.finish c ending.commits).run.run
        ((s.releasing handle.lease).noted (.terminator c ending.commits)) =
        (.ok answer, s₁) ∧
      outcome = ending.result answer ∧ s' = (ending.closed c answer s₁).relogged logs := by
  -- The lease leads to `c`, so taking the connection back yields it in all three cases.
  have calm := (lawful.finish c ending.commits).calm
  cases ending with
  | succeeded value =>
    simp only [conclude, commitAttempt, ExceptT.run_mk, Program.bind_eq_bind,
      Program.bind_assoc] at ran
    rw [Handle.release, Program.run_bind_ok (Program.run_endLease s handle.lease), leads] at ran
    obtain ⟨answer, s₁, hrun, ran⟩ := calm.run_bind ran completed
    rcases answer with cause | done
    · cases ran
      exact ⟨_, s₁, _, hrun, rfl, rfl⟩
    · cases ran
      exact ⟨_, s₁, _, hrun, rfl, rfl⟩
  | failed failure =>
    simp only [conclude, rollbackAttempt, ExceptT.run_mk, Program.bind_eq_bind,
      Program.bind_assoc] at ran
    rw [Handle.release, Program.run_bind_ok (Program.run_endLease s handle.lease), leads] at ran
    obtain ⟨answer, s₁, hrun, ran⟩ := calm.run_bind ran completed
    rcases answer with cause | done
    · cases ran
      exact ⟨_, s₁, _, hrun, rfl, rfl⟩
    · cases ran
      exact ⟨_, s₁, _, hrun, rfl, rfl⟩
  | panicked message =>
    simp only [conclude, abortAttempt, ExceptT.run_mk, Program.bind_eq_bind,
      Program.bind_assoc] at ran
    rw [Handle.release, Program.run_bind_ok (Program.run_endLease s handle.lease), leads] at ran
    obtain ⟨answer, s₁, hrun, ran⟩ := calm.run_bind ran completed
    rcases answer with cause | done
    · cases ran
      exact ⟨_, s₁, _, hrun, rfl, rfl⟩
    · cases ran
      exact ⟨_, s₁, _, hrun, rfl, rfl⟩

/-! ## Attempts -/

theorem round_calm (lawful : store.Lawful) :
    (store.round mode handle begun work ctx restarts).Calm := by
  refine fun status _ => (Program.Calm.catchPanic _).bind ?_
  intro verdict
  rcases verdict with message | (failure | value)
  · trivial
  · trivial
  · refine Program.Calm.bind (fun found => ?_) fun locked => ?_
    · cases found <;> trivial
    · cases locked with
      | error failure => trivial
      | ok c =>
        refine fun _ => (lawful.prepare mode c).calm.bind ?_
        intro answer
        cases answer <;> trivial

theorem restarted_calm (lawful : store.Lawful) (failure : Failure) :
    (store.restarted mode handle failure restarts).run.Calm := by
  refine Program.Calm.bind (fun found => ?_) fun locked => ?_
  · cases found <;> trivial
  · cases locked with
    | error refused => trivial
    | ok c =>
      refine fun _ => (lawful.restart mode c failure restarts).calm.bind ?_
      intro answer
      cases answer <;> trivial

theorem rest_calm (failure : Failure) : (store.rest handle ctx failure n).Calm := by
  intro _
  split
  · trivial
  · intro wake
    cases wake <;> trivial

theorem startOver_calm (lawful : store.Lawful) (failure : Failure) :
    (store.startOver mode handle ctx failure restarts).run.Calm := by
  intro status
  cases status with
  | some reason => trivial
  | none =>
    apply (restarted_calm lawful failure).bind
    intro answer
    rcases answer with cause | (_ | _)
    · trivial
    · trivial
    · apply (rest_calm failure).bind
      intro found
      cases found <;> trivial

theorem followUp_calm (lawful : store.Lawful) {next : Program H (Ending α)} (later : next.Calm)
    (ending : Ending α) : (store.followUp mode handle ctx restarts next ending).Calm := by
  cases ending with
  | succeeded value => trivial
  | panicked message => trivial
  | failed failure =>
    apply (startOver_calm lawful failure).bind
    intro answer
    cases answer with
    | error final => trivial
    | ok ready => exact later

theorem rounds_calm (lawful : store.Lawful) :
    (store.rounds mode handle begun work ctx left restarts).Calm := by
  induction left generalizing restarts with
  | zero =>
    rw [rounds_eq]
    exact (round_calm lawful).bind (followUp_calm lawful rfl)
  | succ left ih =>
    rw [rounds_eq]
    exact (round_calm lawful).bind (followUp_calm lawful ih)

/-- The handle of an attempt that is begun in the surroundings `s`. -/
def handleIn (s : State H) (mode : Mode) (n : Nat) : Handle := ⟨⟨s.holdings.length⟩, mode, n⟩

/-- The surroundings once an attempt was begun on the connection `c`. -/
def begunIn (store : Store H) (s : State H) (c : Connection) (mode : Mode) (n : Nat) : State H :=
  ((s.leasing c).noted (.began c store.channel mode n)).logged .debug
    s!"{store.name}: began {mode.text} transaction, attempt {n}"

/-- What an attempt comes to. -/
inductive AttemptTo (store : Store H) (ctx : RequestContext) (mode : Mode) (work : UnitOfWork H α)
    (n : Nat) (s : State H) : Except Stop (Except Failure α) → State H → Prop
  | refused {failure : Failure} {s' : State H} :
      (ctx.guard (store.request mode)).run.run s = (.ok (.error failure), s') →
      AttemptTo store ctx mode work n s (.ok (.error failure)) s'
  | begun {c : Connection} {rs : List (WorkRun H α)} {ending : Ending α}
      {outcome : Except Stop (Except Failure α)} {s₁ s₂ s' : State H} :
      (ctx.guard (store.request mode)).run.run s = (.ok (.ok c), s₁) →
      RoundsTo store mode (handleIn s₁ mode n) c work ctx 0 (store.begunIn s₁ c mode n) rs ending
        s₂ →
      (∀ r ∈ rs, (store.attempt ctx mode work n).run.Includes s
        (work (ctx.bind store.channel (handleIn s₁ mode n))).run r.before) →
      (store.conclude (handleIn s₁ mode n) ending).run.run s₂ = (outcome, s') →
      AttemptTo store ctx mode work n s outcome s'

theorem request_calm (lawful : store.Lawful) (mode : Mode) : (store.request mode).run.Calm :=
  fun _ => (lawful.start mode).calm

/-- Attempts that are driven to their end are accounted for. -/
theorem attempt_account (lawful : store.Lawful) {outcome : Except Stop (Except Failure α)}
    (ran : (store.attempt ctx mode work n).run.run s = (outcome, s'))
    (completed : outcome ≠ .error .dropped) : AttemptTo store ctx mode work n s outcome s' := by
  -- Neither the beginning nor the rounds panic, so an attempt with an outcome went through both.
  have guarded := ctx.guard_calm (request_calm lawful mode)
  unfold attempt at ran
  simp only [ExceptT.run_mk, Program.bind_eq_bind] at ran
  obtain ⟨answer, s₁, hguard, ran⟩ := guarded.run_bind ran completed
  cases answer with
  | error failure =>
    cases ran
    exact .refused hguard
  | ok c =>
    simp only at ran
    obtain ⟨ending, s₂, hrounds, ran⟩ := (rounds_calm lawful).run_bind ran completed
    obtain ⟨rs, tos, includes⟩ := rounds_account _ _ _ hrounds
    refine .begun hguard tos (fun r hr => ?_) ran
    exact .second hguard (.second rfl (.second rfl (.second rfl (.first (includes r hr)))))

end Store

end SessionKeeper
