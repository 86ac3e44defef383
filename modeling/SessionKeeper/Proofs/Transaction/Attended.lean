import SessionKeeper.Proofs.Program.Attended
import SessionKeeper.Proofs.Retry.Account
import SessionKeeper.Proofs.Transaction.Account
import SessionKeeper.Transaction.Entry

/-!
Calls that come to an end of their own. What transactions are made of is attended if the primitives
of the store are and the store declines to start over where an attempt is followed no further
(`Store.Attends`). So every call of a unit of work that is attended itself comes to an answer, and
panics only if the unit of work does (`Store.call_attended`).

There is one lemma for each definition that a call is made of, from the round up to the policy, each
by the laws of `Program.Attended`. The rounds are gone through by induction on the number of
restarts for which the attempt is followed.
-/

namespace SessionKeeper

variable {H : Host} {α : Type} {panics : Prop}

/-- The primitives of the store always give a value, and there is no restart that an attempt is not
followed for. -/
structure Store.Attends (store : Store H) : Prop where
  start : ∀ mode, (store.start mode).run.Answers
  prepare : ∀ mode c, (store.prepare mode c).run.Answers
  restart : ∀ mode c failure n, (store.restart mode c failure n).run.Answers
  commit : ∀ c, (store.commit c).run.Answers
  rollback : ∀ c, (store.rollback c).run.Answers
  limited : ∀ mode c failure,
    (store.restart mode c failure store.restartLimit).run.Attended False fun r => r ≠ .ok true

namespace Store

variable {store : Store H} {mode : Mode} {handle : Handle} {begun : Connection}
  {work : UnitOfWork H α} {ctx : RequestContext} {restarts left n : Nat}

theorem round_attended (attends : store.Attends)
    (working : ∀ inner, (work inner).run.Attended panics fun _ => True) :
    (store.round mode handle begun work ctx restarts).Attended False
      fun ending => ∀ message, ending = .panicked message → panics := by
  intro status _
  refine (working _).catchPanic.bind fun verdict granted => ?_
  rcases verdict with message | (failure | value)
  · exact fun _ _ => granted message rfl
  · simp [Program.Attended]
  · intro found
    cases found with
    | none => simp [Program.Attended]
    | some c =>
      intro _
      refine (attends.prepare mode c).bind fun r _ => ?_
      cases r <;> simp [Program.Attended]

/-- Whatever is true where the store agrees to start over is true where the attempt does. -/
theorem startOver_attended {P : Prop} {failure : Failure}
    (asked : ∀ c, (store.restart mode c failure restarts).run.Attended False
      fun r => r = .ok true → P) :
    (store.startOver mode handle ctx failure restarts).run.Attended False
      fun r => r = .ok () → P := by
  have restarted : (store.restarted mode handle failure restarts).run.Attended False
      fun r => r = .ok true → P := by
    intro found
    cases found with
    | none => simp [Program.Attended]
    | some c =>
      intro _
      refine (asked c).bind fun r agreed => ?_
      cases r with
      | error cause => simp [Program.Attended]
      | ok again => exact agreed
  have rested : (store.rest handle ctx failure (restarts + 1)).Answers (H := H) := by
    intro _
    split
    · trivial
    · exact ctx.pause_answers _
  intro status
  cases status with
  | some reason => simp [Program.Attended]
  | none =>
    refine restarted.bind fun r agreed => ?_
    rcases r with cause | again
    · simp [Program.Attended]
    · cases again with
      | false => simp [Program.Attended]
      | true =>
        refine rested.bind fun found _ => ?_
        cases found with
        | some reason => simp [Program.Attended]
        | none => exact fun _ => agreed rfl

/-- The rounds of an attempt are over before it is followed no further. -/
theorem rounds_attended (attends : store.Attends)
    (working : ∀ inner, (work inner).run.Attended panics fun _ => True)
    (bound : restarts + left = store.restartLimit) :
    (store.rounds mode handle begun work ctx left restarts).Attended False
      fun ending => ∀ message, ending = .panicked message → panics := by
  induction left generalizing restarts with
  | zero =>
    unfold rounds
    refine (round_attended attends working).bind fun ending granted => ?_
    cases ending with
    | succeeded value => simp [Program.Attended]
    | panicked message => exact granted
    | failed failure =>
      obtain rfl : restarts = store.restartLimit := bound
      have declined : (store.startOver mode handle ctx failure store.restartLimit).run.Attended
          False fun r => r = .ok () → False :=
        startOver_attended fun c => attends.limited mode c failure
      refine declined.bind fun r never => ?_
      cases r with
      | error final => simp [Program.Attended]
      | ok done => exact (never rfl).elim
  | succ left ih =>
    unfold rounds
    refine (round_attended attends working).bind fun ending granted => ?_
    cases ending with
    | succeeded value => simp [Program.Attended]
    | panicked message => exact granted
    | failed failure =>
      have readied : (store.startOver mode handle ctx failure restarts).run.Attended False
          fun r => r = .ok () → True :=
        startOver_attended fun c => (attends.restart mode c failure restarts).mono id
          fun _ _ _ => trivial
      refine readied.bind fun r _ => ?_
      cases r with
      | error final => simp [Program.Attended]
      | ok done => exact ih (by omega)

theorem conclude_attended (attends : store.Attends) {ending : Ending α}
    (granted : ∀ message, ending = .panicked message → panics) :
    (store.conclude handle ending).run.Attended panics fun _ => True := by
  cases ending with
  | succeeded value =>
    intro found
    cases found with
    | none => trivial
    | some c =>
      have committed : (store.commitAttempt handle c).run.Answers := by
        intro _
        refine (attends.commit c).bind fun r _ => ?_
        cases r with
        | error cause => exact fun _ => trivial
        | ok done => exact fun _ _ => trivial
      refine (Program.Attended.of_answers committed).bind fun r _ => ?_
      cases r <;> trivial
  | failed failure =>
    intro found
    cases found with
    | none => trivial
    | some c =>
      have rolledBack : (store.rollbackAttempt handle c failure).Answers := by
        intro _
        refine (attends.rollback c).bind fun r _ => ?_
        cases r <;> exact fun _ => trivial
      exact (Program.Attended.of_answers rolledBack).bind fun _ _ => trivial
  | panicked message =>
    have panicking : (Program.panic message : Program H (Except Failure α)).Attended panics
        fun _ => True := granted message rfl
    intro found
    cases found with
    | none => exact fun _ => panicking
    | some c =>
      have aborted : (store.abortAttempt c).Answers := by
        intro _
        refine (attends.rollback c).bind fun r _ => ?_
        cases r with
        | error cause => exact fun _ => trivial
        | ok done => trivial
      exact (Program.Attended.of_answers aborted).bind fun _ _ _ => panicking

theorem attempt_attended (lawful : store.Lawful) (attends : store.Attends)
    (working : ∀ inner, (work inner).run.Attended panics fun _ => True) :
    (store.attempt ctx mode work n).run.Attended panics fun _ => True := by
  have requested : (store.request mode).run.Answers := fun _ => attends.start mode
  have calm : (store.request mode).run.Calm := request_calm lawful mode
  refine (Program.Attended.of_answers (ctx.guard_answers requested calm)).bind fun given _ => ?_
  cases given with
  | error failure => trivial
  | ok connection =>
    intro lease _ _
    exact ((rounds_attended attends working (Nat.zero_add _)).mono False.elim
      fun _ granted => granted).bind fun ending granted => conclude_attended attends granted

end Store

namespace RetryPolicy

variable {policy : RetryPolicy} {κ : Type} {V : κ → Type} {ctx : Context V}
  {retries : Failure → Bool} {attempt : Nat → Work H α} {left n : Nat}

theorem whileLive_attended {next : Program H (Except Failure α)}
    (later : next.Attended panics fun _ => True) :
    (ctx.status.bind (whileLive next)).Attended panics fun _ => True := by
  intro status
  cases status with
  | some reason => trivial
  | none => exact later

theorem followUp_attended {next : Option (Program H (Except Failure α))}
    (later : ∀ p ∈ next, p.Attended panics fun _ => True) (r : Except Failure α) :
    (policy.followUp ctx retries n next r).Attended panics fun _ => True := by
  cases r with
  | ok value => trivial
  | error failure =>
    intro status
    cases status with
    | some reason => trivial
    | none =>
      cases retries failure with
      | false => trivial
      | true =>
        cases next with
        | none => exact fun _ => trivial
        | some next =>
          intro _
          refine (Program.Attended.of_answers (ctx.pause_answers _)).bind fun found _ => ?_
          cases found with
          | some reason => trivial
          | none => exact later next rfl

theorem runFrom_attended (attempted : ∀ n, (attempt n).run.Attended panics fun _ => True) :
    (policy.runFrom ctx retries attempt left n).run.Attended panics fun _ => True := by
  induction left generalizing n with
  | zero =>
    rw [runFrom_zero]
    exact whileLive_attended ((attempted n).bind fun r _ => followUp_attended (by simp) r)
  | succ left ih =>
    rw [runFrom_succ]
    exact whileLive_attended ((attempted n).bind fun r _ => followUp_attended (by simpa using ih) r)

end RetryPolicy

/-- A call comes to an end of its own if its unit of work does. -/
theorem Store.call_attended {store : Store H} {mode : Mode} {ctx : RequestContext}
    {work : UnitOfWork H α} (lawful : store.Lawful) (attends : store.Attends)
    (working : ∀ inner, (work inner).run.Attended panics fun _ => True) :
    (store.call mode ctx work).run.Attended panics fun _ => True := by
  have transacted : ∀ mode, (store.transact ctx mode work).run.Attended panics fun _ => True := by
    intro mode
    unfold transact
    cases ctx.active? store.channel with
    | none =>
      exact RetryPolicy.runFrom_attended fun n => attempt_attended lawful attends working
    | some active =>
      intro ended
      cases ended with
      | true => trivial
      | false =>
        by_cases refused : active.mode = .readOnly ∧ mode = .readWrite
        · simp only [refused]
          trivial
        · simp only [refused]
          exact fun _ => working ctx
  cases mode with
  | readWrite => exact transacted .readWrite
  | readOnly =>
    unfold call readOnlyTransaction
    simp only
    split
    · exact transacted .readOnly
    · trivial

end SessionKeeper
