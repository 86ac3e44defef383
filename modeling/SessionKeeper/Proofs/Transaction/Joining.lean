import SessionKeeper.Proofs.Rehearsal.Players
import SessionKeeper.Proofs.Transaction.Congruence

/-!
Joining is transparent. A call that joins the active transaction of its context runs its unit of
work on that very context, and does nothing else but log that it joined (`Store.call_joined`): the
policy of its store, what that store takes for a conflict, and whether the context is done by then
do not come into it.

So in any tree of calls each call that joins may be replaced by its unit of work. The two trees
`mirror` one another: from the same surroundings they come to the same outcome and leave the same
surroundings behind, but for the log records of the calls that joined.

Correspondence: `transact` ↔ `Store.transact`, of which `Store.callDirect` leaves the joining out. A
`CallTree` is any program with calls in it, of any stores; nothing is assumed of stores or programs.
-/

namespace SessionKeeper

variable {H : Host} {α β : Type}

namespace Store

/-- The call joins the transaction that is active in its context: that has not ended, is not
read-only if the call wants to write, and the store has transactions of the mode of the call. -/
structure Joins (store : Store H) (mode : Mode) (ctx : RequestContext) (active : Handle)
    (s : State H) : Prop where
  carried : ctx.active? store.channel = some active
  unfinished : active.isFinished.run s = (.ok false, s)
  compatible : active.mode = .readOnly → mode = .readOnly
  supported : mode = .readOnly → store.readOnly = true

/-- What a store logs when a call joins. -/
def joiningText (name : String) (active : Handle) : String :=
  let joined := s!"{active.mode.text} transaction (attempt {active.attempt})"
  s!"{name}: joining active {joined}"

/-- Whether a call would join, for a program to ask. -/
def joins (store : Store H) (mode : Mode) (ctx : RequestContext) : Program H Bool :=
  match ctx.active? store.channel with
  | none => return false
  | some active => do
    let finished ← active.isFinished
    return !finished && (active.mode == .readWrite || mode == .readOnly) &&
      (mode == .readWrite || store.readOnly)

/-- A call, or its unit of work on the same context where the call would join. -/
def callDirect (store : Store H) (mode : Mode) (ctx : RequestContext) (work : UnitOfWork H α) :
    Work H α := ExceptT.mk do
  if ← store.joins mode ctx then (work ctx).run else (store.call mode ctx work).run

variable {store : Store H} {mode : Mode} {ctx : RequestContext} {active : Handle} {s : State H}

theorem Joins.of_relogged {logs : List LogRecord}
    (joins : store.Joins mode ctx active (s.relogged logs)) : store.Joins mode ctx active s where
  carried := joins.carried
  unfinished := by
    have unfinished := joins.unfinished
    simp only [Handle.isFinished, Program.run_leaseEnded, State.relogged, Prod.mk.injEq] at *
    exact ⟨unfinished.1, trivial⟩
  compatible := joins.compatible
  supported := joins.supported

/-- A call that joins is its unit of work, and a log record before it. -/
theorem call_joined (joins : store.Joins mode ctx active s) (work : UnitOfWork H α) :
    (store.call mode ctx work).run.run s =
      (work ctx).run.run (s.logged .debug (joiningText store.name active)) := by
  have transacted : (store.transact ctx mode work).run.run s =
      (work ctx).run.run (s.logged .debug (joiningText store.name active)) := by
    have allowed : ¬ (active.mode = .readOnly ∧ mode = .readWrite) := by
      rintro ⟨reading, rfl⟩
      cases joins.compatible reading
    unfold transact
    simp only [joins.carried, ExceptT.run_mk, Program.bind_eq_bind]
    rw [Program.run_bind_ok joins.unfinished]
    simp only [Bool.false_eq_true, if_false, if_neg allowed]
    rw [Program.run_bind_ok (Program.run_log s _ _)]
    rfl
  cases mode with
  | readWrite => exact transacted
  | readOnly =>
    unfold call readOnlyTransaction
    simp only [joins.supported rfl, if_true]
    exact transacted

/-- Asking whether a call would join changes nothing, and tells it as it is. -/
theorem joins_run (store : Store H) (mode : Mode) (ctx : RequestContext) (s : State H) :
    ((store.joins mode ctx).run s = (.ok true, s) ∧ ∃ active, store.Joins mode ctx active s) ∨
      ((store.joins mode ctx).run s = (.ok false, s) ∧ ¬ ∃ active, store.Joins mode ctx active s) := by
  unfold joins
  cases hactive : ctx.active? store.channel with
  | none =>
    refine .inr ⟨rfl, ?_⟩
    rintro ⟨active, joins⟩
    rw [joins.carried] at hactive
    cases hactive
  | some active =>
    simp only [Program.bind_eq_bind]
    have asked : active.isFinished.run s = (.ok (s.holdings[active.lease.id]?.any (·.ended)), s) :=
      Program.run_leaseEnded s _
    generalize s.holdings[active.lease.id]?.any (·.ended) = finished at asked
    rw [Program.run_bind_ok asked]
    have joins_iff : (!finished && (active.mode == .readWrite || mode == .readOnly) &&
        (mode == .readWrite || store.readOnly)) = true ↔
          ∃ active, store.Joins mode ctx active s := by
      constructor
      · intro would
        simp only [Bool.and_eq_true, Bool.not_eq_true', Bool.or_eq_true, beq_iff_eq] at would
        obtain ⟨⟨unfinished, compatible⟩, supported⟩ := would
        refine ⟨active, hactive, unfinished ▸ asked, fun reading => ?_, fun reading => ?_⟩
        · exact compatible.resolve_left (by simp [reading])
        · exact supported.resolve_left (by simp [reading])
      · rintro ⟨other, joins⟩
        obtain rfl : active = other := Option.some.inj (hactive.symm.trans joins.carried)
        have unfinished : finished = false := by
          have same := asked.symm.trans joins.unfinished
          simpa using same
        have compatible := joins.compatible
        have supported := joins.supported
        cases hmode : active.mode <;> cases mode <;> simp_all
    by_cases would : ∃ active, store.Joins mode ctx active s
    · exact .inl ⟨by rw [joins_iff.mpr would]; rfl, would⟩
    · refine .inr ⟨?_, would⟩
      rw [Bool.eq_false_iff.mpr (mt joins_iff.mp would)]
      rfl

end Store

/-! ## Surroundings that differ in their logs -/

/-- The records `logs`, but for some that tell of calls that joined. -/
inductive LogRecord.JoinsLeftOut : List LogRecord → List LogRecord → Prop
  | same (logs : List LogRecord) : JoinsLeftOut logs logs
  | kept {less logs : List LogRecord} (record : LogRecord) :
      JoinsLeftOut less logs → JoinsLeftOut (less ++ [record]) (logs ++ [record])
  | joined {less logs : List LogRecord} (name : String) (active : Handle) :
      JoinsLeftOut less logs →
      JoinsLeftOut less (logs ++ [⟨.debug, Store.joiningText name active⟩])

/-- `t` is `s`, but that some calls that joined are not in its log. -/
def State.Quieter (s t : State H) : Prop :=
  ∃ logs, LogRecord.JoinsLeftOut logs s.logs ∧ t = s.relogged logs

/-- `q` does what `p` does, but that it logs fewer calls that joined. -/
def Program.Mirrors (p q : Program H α) : Prop :=
  ∀ s t, s.Quieter t → (q.run t).1 = (p.run s).1 ∧ (p.run s).2.Quieter (q.run t).2

namespace Program.Mirrors

theorem refl (p : Program H α) : p.Mirrors p := by
  induction p with
  | done a => exact fun s t quieter => ⟨rfl, quieter⟩
  | stop cause => exact fun s t quieter => ⟨rfl, quieter⟩
  | wait length signals next ih =>
    rintro s _ ⟨logs, less, rfl⟩
    exact ih _ _ _ ⟨logs, less, rfl⟩
  | ask r next ih =>
    rintro s _ ⟨logs, less, rfl⟩
    cases r with
    | log entry => exact ih _ _ _ ⟨_, less.kept entry, rfl⟩
    | _ => exact ih _ _ _ ⟨logs, less, rfl⟩

variable {p q : Program H α}

theorem bind {f g : α → Program H β} (first : p.Mirrors q) (later : ∀ a, (f a).Mirrors (g a)) :
    (p.bind f).Mirrors (q.bind g) := by
  intro s t quieter
  obtain ⟨same, quieter⟩ := first s t quieter
  rw [run_bind, run_bind]
  rcases hp : p.run s with ⟨outcome, s₁⟩
  rcases hq : q.run t with ⟨outcome', t₁⟩
  rw [hp, hq] at same quieter
  obtain rfl : outcome' = outcome := same
  cases outcome' with
  | error cause => exact ⟨rfl, quieter⟩
  | ok a => exact later a _ _ quieter

theorem catchPanic (mirrors : p.Mirrors q) : p.catchPanic.Mirrors q.catchPanic := by
  intro s t quieter
  obtain ⟨same, quieter⟩ := mirrors s t quieter
  rw [run_catchPanic, run_catchPanic]
  rcases hp : p.run s with ⟨outcome, s₁⟩
  rcases hq : q.run t with ⟨outcome', t₁⟩
  rw [hp, hq] at same quieter
  obtain rfl : outcome' = outcome := same
  rcases outcome' with (message | _) | a
  · exact ⟨rfl, quieter⟩
  · exact ⟨rfl, quieter⟩
  · exact ⟨rfl, quieter⟩

/-- Mirroring goes through whatever a transaction is made of. -/
def congruence (H : Host) : Program.Congruence H where
  rel := Mirrors
  own _ := True
  done _ := refl _
  stop _ := refl _
  bind := bind
  catchPanic := catchPanic
  ask _ _ := refl _
  openLease _ _ _ later := (refl _).bind fun lease => later lease trivial
  endLease _ _ := refl _
  pause _ _ := refl _

theorem respects (store : Store H) : store.Respects (congruence H) :=
  ⟨fun _ _ => refl _, fun _ _ => refl _, fun _ _ _ _ => refl _, fun _ => refl _, fun _ => refl _⟩

/-- A call is mirrored by its unit of work where it joins, and by itself where it does not. -/
theorem callDirect {store : Store H} {mode : Mode} {ctx : RequestContext}
    {work work' : UnitOfWork H α} (working : ∀ inner, (work inner).run.Mirrors (work' inner).run) :
    (store.call mode ctx work).run.Mirrors (store.callDirect mode ctx work').run := by
  rintro s _ ⟨logs, less, rfl⟩
  have called : (store.call mode ctx work).run.Mirrors (store.call mode ctx work').run :=
    (congruence H).call (respects store) working
  unfold Store.callDirect
  simp only [ExceptT.run_mk, bind_eq_bind]
  rcases store.joins_run mode ctx (s.relogged logs) with ⟨asked, active, joins⟩ | ⟨asked, -⟩
  · rw [run_bind_ok asked]
    rw [Store.call_joined joins.of_relogged]
    exact working ctx _ _ ⟨logs, less.joined store.name active, rfl⟩
  · rw [run_bind_ok asked]
    exact called _ _ ⟨logs, less, rfl⟩

end Program.Mirrors

/-! ## Trees of calls -/

/-- What callers and units of work are made of, as far as their calls go: each call has a unit of
work that may make further calls, under the context that it is given or any other. -/
inductive CallTree (H : Host) : Type → Type 1 where
  /-- A program that makes no calls. -/
  | own {α : Type} (p : Program H α) : CallTree H α
  | bind {α β : Type} (first : CallTree H α) (next : α → CallTree H β) : CallTree H β
  | catchPanic {α : Type} (tree : CallTree H α) : CallTree H (Except String α)
  | call {α : Type} (store : Store H) (mode : Mode) (ctx : RequestContext)
      (work : RequestContext → CallTree H (Except Failure α)) : CallTree H (Except Failure α)
  /-- One attempt outside any policy, which joins no transaction. -/
  | attempt {α : Type} (store : Store H) (mode : Mode) (ctx : RequestContext) (n : Nat)
      (work : RequestContext → CallTree H (Except Failure α)) : CallTree H (Except Failure α)

namespace CallTree

/-- The program of the tree, given a way to make calls. -/
def program (calling : {α : Type} → Store H → Mode → RequestContext → UnitOfWork H α → Work H α) :
    {α : Type} → CallTree H α → Program H α
  | _, own p => p
  | _, bind first next => (first.program calling).bind fun a => (next a).program calling
  | _, catchPanic tree => (tree.program calling).catchPanic
  | _, call store mode ctx work =>
    (calling store mode ctx fun inner => ExceptT.mk ((work inner).program calling)).run
  | _, attempt store mode ctx n work =>
    (store.attempt ctx mode (fun inner => ExceptT.mk ((work inner).program calling)) n).run

/-- The tree, and a note of what it came to. -/
def noted (note : Except String (Except Failure α) → H.Note) (tree : CallTree H (Except Failure α)) :
    CallTree H (Except Failure α) :=
  .bind tree.catchPanic fun verdict => .own do
    Program.note (note verdict)
    match verdict with
    | .ok answer => return answer
    | .error message => .panic message

/-- The tree, with a note of what every call in it came to, at whatever depth. -/
def noting (note : {α : Type} → Except String (Except Failure α) → H.Note) :
    {α : Type} → CallTree H α → CallTree H α
  | _, own p => own p
  | _, bind first next => bind (first.noting note) fun a => (next a).noting note
  | _, catchPanic tree => catchPanic (tree.noting note)
  | _, call store mode ctx work =>
    (call store mode ctx fun inner => (work inner).noting note).noted note
  | _, attempt store mode ctx n work =>
    (attempt store mode ctx n fun inner => (work inner).noting note).noted note

/-- By induction on the tree, the calls in units of work first. -/
theorem mirrors (tree : CallTree H α) :
    (tree.program Store.call).Mirrors (tree.program Store.callDirect) := by
  induction tree with
  | own p => exact .refl p
  | bind first next ih ihn => exact ih.bind ihn
  | catchPanic tree ih => exact ih.catchPanic
  | call store mode ctx work ih => exact .callDirect ih
  | attempt store mode ctx n work ih =>
    exact Program.Congruence.attempt (Program.Mirrors.respects store) ih

/-- What a tree of calls comes to, it comes to with fewer records in the log where each call that
joins is its unit of work. -/
theorem run_direct (tree : CallTree H α) {s s' : State H} {outcome : Except Stop α}
    (ran : (tree.program Store.call).run s = (outcome, s')) :
    ∃ logs, LogRecord.JoinsLeftOut logs s'.logs ∧
      (tree.program Store.callDirect).run s = (outcome, s'.relogged logs) := by
  obtain ⟨same, logs, less, after⟩ := tree.mirrors s s ⟨s.logs, .same _, rfl⟩
  rw [ran] at same less after
  exact ⟨logs, less, Prod.ext same after⟩

end CallTree

/-- Joining is transparent. In any tree of calls, each call that would join may be replaced by its
unit of work on the same context. The tree comes to the same outcome and leaves the same
surroundings: the same events in the trace at the same instants, the same connections and leases,
and the log but for records of calls that joined. With a note of what every call came to it does so
too, so the calls of every level come to the same. And in whatever surroundings a call joins, all it
does is to log that, and to run its unit of work. -/
theorem joining_transparent (tree : CallTree H α) (s : State H) :
    (∀ outcome s', (tree.program Store.call).run s = (outcome, s') →
      ∃ logs, LogRecord.JoinsLeftOut logs s'.logs ∧
        (tree.program Store.callDirect).run s = (outcome, s'.relogged logs)) ∧
    (∀ (note : {β : Type} → Except String (Except Failure β) → H.Note) outcome s',
      ((tree.noting note).program Store.call).run s = (outcome, s') →
      ∃ logs, LogRecord.JoinsLeftOut logs s'.logs ∧
        ((tree.noting note).program Store.callDirect).run s = (outcome, s'.relogged logs)) ∧
    ∀ (store : Store H) mode ctx active s₁, store.Joins mode ctx active s₁ →
      ∀ {β : Type} (work : UnitOfWork H β), (store.call mode ctx work).run.run s₁ =
        (work ctx).run.run (s₁.logged .debug (Store.joiningText store.name active)) := by
  refine ⟨?_, ?_, ?_⟩
  · intro outcome s' ran
    exact tree.run_direct ran
  · intro note outcome s' ran
    exact (tree.noting note).run_direct ran
  · intro store mode ctx active s₁ joins β work
    exact Store.call_joined joins work

open Rehearsal in
/-- A call inside a transaction of another store joins it, fails with a conflict that its own policy
would allow it to try again, and is not tried again: the trees differ in one record. -/
theorem joining_transparent_conflict :
    let outer : Player := { name := "ledger", retries := fun _ => true, policy := fun _ => .single }
    let nested : Player := { name := "audit", retries := fun _ => true, policy := fun _ => .default }
    let s : State (host Nat) := { host := {} }
    let tree : CallTree (host Nat) (Except Failure Nat) :=
      .call outer.store .readWrite .background fun inner =>
        .call nested.store .readWrite inner fun _ => .own (.done (.error (.conflict "deadlock")))
    ∃ s' logs, (tree.program Store.call).run s = (.ok (.error (.conflict "deadlock")), s') ∧
      (tree.program Store.callDirect).run s =
        (.ok (.error (.conflict "deadlock")), s'.relogged logs) ∧
      logs.length + 1 = s'.logs.length := by
  intro outer nested s tree
  have ran : ((tree.program Store.call).run s).1 = .ok (.error (.conflict "deadlock")) := by cbv
  obtain ⟨logs, -, direct⟩ := (joining_transparent tree s).1 _ _ (Prod.ext ran rfl)
  have logged : ((tree.program Store.callDirect).run s).2.logs.length + 1 =
      ((tree.program Store.call).run s).2.logs.length := by cbv
  rw [direct] at logged
  exact ⟨_, logs, Prod.ext ran rfl, direct, logged⟩

end SessionKeeper
