import SessionKeeper.Proofs.Retry.Account
import SessionKeeper.Proofs.Transaction.Account
import SessionKeeper.Transaction.Entry

/-!
What goes through a call goes through whatever a transaction is made of. A congruence is a relation
between programs that sequence and the requests of the transactional core keep; if the primitives of
a store keep it too, calls under two units of work are related as the units of work are
(`Program.Congruence.call`).

A property of programs that every part of a call hands on is the case in which the relation asks the
same of both sides and their units of work are one.

`Request.Core` lists the requests that the core makes itself. So a new property of calls takes the
laws of its relation for these, and nothing about rounds, attempts or the policy.
-/

namespace SessionKeeper

variable {H : Host} {α : Type}

/-- What the core of transactions asks for, leases apart. -/
def Request.Core : Request H → Prop
  | .status _ => True
  | .log _ => True
  | .borrow _ => True
  | .leaseEnded _ => True
  | .record (.executed _ _ _) => False
  | .record _ => True
  | _ => False

/-- A relation between programs that the parts of a transaction keep. An attempt opens its lease and
ends no other; `own` is what is known of the lease that it ends. -/
structure Program.Congruence (H : Host) where
  rel : {α : Type} → Program H α → Program H α → Prop
  own : Lease → Prop
  done : ∀ {α : Type} (a : α), rel (.done a) (.done a)
  stop : ∀ {α : Type} (cause : Stop), rel (.stop cause : Program H α) (.stop cause)
  bind : ∀ {α β : Type} {p q : Program H α} {f g : α → Program H β},
    rel p q → (∀ a, rel (f a) (g a)) → rel (p.bind f) (q.bind g)
  catchPanic : ∀ {α : Type} {p q : Program H α}, rel p q → rel p.catchPanic q.catchPanic
  ask : ∀ r : Request H, r.Core → rel (.ask r .done) (.ask r .done)
  openLease : ∀ {α : Type} (c : Connection) {f g : Lease → Program H α},
    (∀ lease, own lease → rel (f lease) (g lease)) →
    rel ((Program.openLease c).bind f) ((Program.openLease c).bind g)
  endLease : ∀ lease, own lease → rel (Program.endLease lease) (Program.endLease lease)
  pause : ∀ (ctx : RequestContext) (length : Duration),
    rel (ctx.pause length) (ctx.pause length)

/-- Each primitive of the store is related to itself. -/
structure Store.Respects (R : Program.Congruence H) (store : Store H) : Prop where
  start : ∀ (ctx : RequestContext) (mode : Mode),
    R.rel (ctx.guard (store.request mode)).run (ctx.guard (store.request mode)).run
  prepare : ∀ mode c, R.rel (store.prepare mode c).run (store.prepare mode c).run
  restart : ∀ mode c failure n,
    R.rel (store.restart mode c failure n).run (store.restart mode c failure n).run
  commit : ∀ c, R.rel (store.commit c).run (store.commit c).run
  rollback : ∀ c, R.rel (store.rollback c).run (store.rollback c).run

namespace Program.Congruence

variable {R : Program.Congruence H}

theorem rel.bind {β : Type} {p q : Program H α} {f g : α → Program H β} (first : R.rel p q)
    (later : ∀ a, R.rel (f a) (g a)) : R.rel (p.bind f) (q.bind g) :=
  Congruence.bind R first later

theorem asking {r : Request H} {next next' : r.Answer → Program H α} (core : r.Core)
    (later : ∀ answer, R.rel (next answer) (next' answer)) :
    R.rel (.ask r next) (.ask r next') :=
  R.bind (R.ask r core) later

variable {store : Store H} {mode : Mode} {handle : Handle} {begun : Connection}
  {work work' : UnitOfWork H α} {ctx : RequestContext} {restarts left n : Nat}

theorem round (respects : store.Respects R)
    (working : ∀ inner, R.rel (work inner).run (work' inner).run) :
    R.rel (store.round mode handle begun work ctx restarts)
      (store.round mode handle begun work' ctx restarts) := by
  refine asking trivial fun status => asking trivial fun _ => ?_
  refine (R.catchPanic (working _)).bind fun verdict => ?_
  rcases verdict with message | (failure | value)
  · exact R.done _
  · exact R.done _
  · refine asking trivial fun found => ?_
    cases found with
    | none => exact R.done _
    | some c =>
      refine asking trivial fun _ => (respects.prepare mode c).bind fun r => ?_
      cases r <;> exact R.done _

theorem startOver (respects : store.Respects R) (failure : Failure) :
    R.rel (store.startOver mode handle ctx failure restarts).run
      (store.startOver mode handle ctx failure restarts).run := by
  have restarted : R.rel (store.restarted mode handle failure restarts).run
      (store.restarted mode handle failure restarts).run := by
    refine asking trivial fun found => ?_
    cases found with
    | none => exact R.done _
    | some c =>
      refine asking trivial fun _ => (respects.restart mode c failure restarts).bind fun r => ?_
      cases r <;> exact R.done _
  have rested : R.rel (store.rest handle ctx failure (restarts + 1))
      (store.rest handle ctx failure (restarts + 1)) := by
    refine asking trivial fun _ => ?_
    split
    · exact R.done _
    · exact R.pause ctx _
  refine asking trivial fun status => ?_
  cases status with
  | some reason => exact R.done _
  | none =>
    refine restarted.bind fun r => ?_
    rcases r with cause | again
    · exact R.done _
    · cases again with
      | false => exact R.done _
      | true =>
        refine rested.bind fun found => ?_
        cases found <;> exact R.done _

theorem followUp (respects : store.Respects R) {next next' : Program H (Ending α)}
    (later : R.rel next next') (ending : Ending α) :
    R.rel (store.followUp mode handle ctx restarts next ending)
      (store.followUp mode handle ctx restarts next' ending) := by
  cases ending with
  | succeeded value => exact R.done _
  | panicked message => exact R.done _
  | failed failure =>
    refine (startOver respects failure).bind fun r => ?_
    cases r with
    | error final => exact R.done _
    | ok readied => exact later

theorem rounds (respects : store.Respects R)
    (working : ∀ inner, R.rel (work inner).run (work' inner).run) :
    R.rel (store.rounds mode handle begun work ctx left restarts)
      (store.rounds mode handle begun work' ctx left restarts) := by
  induction left generalizing restarts with
  | zero =>
    rw [Store.rounds_eq, Store.rounds_eq]
    exact (round respects working).bind (followUp respects (R.stop _))
  | succ left ih =>
    rw [Store.rounds_eq, Store.rounds_eq]
    exact (round respects working).bind (followUp respects ih)

theorem conclude (respects : store.Respects R) (own : R.own handle.lease) (ending : Ending α) :
    R.rel (store.conclude handle ending).run (store.conclude handle ending).run := by
  have released := R.endLease handle.lease own
  cases ending with
  | succeeded value =>
    refine released.bind fun found => ?_
    cases found with
    | none => exact R.done _
    | some c =>
      have committed : R.rel (store.commitAttempt handle c).run
          (store.commitAttempt handle c).run := by
        refine asking trivial fun _ => (respects.commit c).bind fun r => ?_
        cases r with
        | error cause => exact asking trivial fun _ => R.done _
        | ok value => exact asking trivial fun _ => asking trivial fun _ => R.done _
      refine committed.bind fun r => ?_
      cases r <;> exact R.done _
  | failed failure =>
    refine released.bind fun found => ?_
    cases found with
    | none => exact R.done _
    | some c =>
      have rolledBack : R.rel (store.rollbackAttempt handle c failure)
          (store.rollbackAttempt handle c failure) := by
        refine asking trivial fun _ => (respects.rollback c).bind fun r => ?_
        cases r <;> exact asking trivial fun _ => R.done _
      exact rolledBack.bind fun _ => R.done _
  | panicked message =>
    have panicking : R.rel (Program.panic message : Program H (Except Failure α))
        (Program.panic message) := R.stop _
    refine released.bind fun found => ?_
    cases found with
    | none => exact asking trivial fun _ => panicking
    | some c =>
      have aborted : R.rel (store.abortAttempt c) (store.abortAttempt c) := by
        refine asking trivial fun _ => (respects.rollback c).bind fun r => ?_
        cases r with
        | error cause => exact asking trivial fun _ => R.done _
        | ok value => exact R.done _
      exact aborted.bind fun _ => asking trivial fun _ => panicking

theorem attempt (respects : store.Respects R)
    (working : ∀ inner, R.rel (work inner).run (work' inner).run) :
    R.rel (store.attempt ctx mode work n).run (store.attempt ctx mode work' n).run := by
  refine (respects.start ctx mode).bind fun given => ?_
  cases given with
  | error failure => exact R.done _
  | ok connection =>
    refine R.openLease connection fun lease own => asking trivial fun _ => asking trivial fun _ => ?_
    exact (rounds respects working).bind fun ending => conclude respects own ending

section Attempts

variable {policy : RetryPolicy} {retries : Failure → Bool} {attempt attempt' : Nat → Work H α}

theorem whileLive {next next' : Program H (Except Failure α)} (later : R.rel next next') :
    R.rel (ctx.status.bind (RetryPolicy.whileLive next))
      (ctx.status.bind (RetryPolicy.whileLive next')) := by
  refine asking trivial fun status => ?_
  cases status with
  | some reason => exact R.done _
  | none => exact later

theorem followedUp {next next' : Option (Program H (Except Failure α))}
    (later : Option.Rel R.rel next next') (r : Except Failure α) :
    R.rel (policy.followUp ctx retries n next r) (policy.followUp ctx retries n next' r) := by
  cases r with
  | ok value => exact R.done _
  | error failure =>
    refine asking trivial fun status => ?_
    cases status with
    | some reason => exact R.done _
    | none =>
      cases retries failure with
      | false => exact R.done _
      | true =>
        cases later with
        | none => exact asking trivial fun _ => R.done _
        | some later =>
          refine asking trivial fun _ => (R.pause ctx _).bind fun found => ?_
          cases found with
          | some reason => exact R.done _
          | none => exact later

theorem runFrom (attempted : ∀ n, R.rel (attempt n).run (attempt' n).run) :
    R.rel (policy.runFrom ctx retries attempt left n).run
      (policy.runFrom ctx retries attempt' left n).run := by
  induction left generalizing n with
  | zero =>
    rw [RetryPolicy.runFrom_zero, RetryPolicy.runFrom_zero]
    exact whileLive ((attempted n).bind (followedUp .none))
  | succ left ih =>
    rw [RetryPolicy.runFrom_succ, RetryPolicy.runFrom_succ]
    exact whileLive ((attempted n).bind (followedUp (.some ih)))

end Attempts

/-- Calls are related as their units of work are. -/
theorem call (respects : store.Respects R)
    (working : ∀ inner, R.rel (work inner).run (work' inner).run) :
    R.rel (store.call mode ctx work).run (store.call mode ctx work').run := by
  have transacted : ∀ mode,
      R.rel (store.transact ctx mode work).run (store.transact ctx mode work').run := by
    intro mode
    unfold Store.transact
    cases ctx.active? store.channel with
    | none => exact runFrom fun n => attempt respects working
    | some active =>
      refine asking trivial fun ended => ?_
      cases ended with
      | true => exact R.done _
      | false =>
        by_cases refused : active.mode = .readOnly ∧ mode = .readWrite
        · simp only [refused]
          exact R.done _
        · simp only [refused]
          exact asking trivial fun _ => working ctx
  cases mode with
  | readWrite => exact transacted .readWrite
  | readOnly =>
    unfold Store.call Store.readOnlyTransaction
    simp only
    split
    · exact transacted .readOnly
    · exact R.done _

end Program.Congruence

end SessionKeeper
