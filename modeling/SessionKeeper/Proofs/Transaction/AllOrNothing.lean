import SessionKeeper.Proofs.Retry.Cancellation
import SessionKeeper.Proofs.Transaction.Statements
import SessionKeeper.Proofs.Transaction.Terminator

/-!
All or nothing. A call that opens its own transactions commits one of them if it gives a value, and
none if it does not. What is committed is what the last run of the unit of work has put on the list
of its connection, and the value is the value of that run: earlier attempts leave nothing, as they
ran on connections of their own, and neither do earlier runs in the same transaction, as a tidy
store empties the list before it starts over.

Correspondence: a call is `rw_tx` or `ro_tx`, its attempts are those of `with_retry`, each a
`run_tx`.

Assumed of the store are the two properties `Store.Lawful` and `Store.Tidy`, of the unit of work
that it conducts itself, and of the surroundings that they are in order. The commit of a database
that replies with an error counts as none; whether it was one all the same is not for the client to
tell.
-/

namespace SessionKeeper

variable {H : Host} {α : Type}

namespace Store

variable {store : Store H} {mode : Mode} {handle : Handle} {c : Connection}
  {work : UnitOfWork H α} {ctx : RequestContext} {held : List Connection} {restarts n : Nat}
  {s s' : State H} {outcome : Except Stop (Except Failure α)} {t : Transaction H α}

theorem rest_quiet {failure : Failure} {answer : Except Stop (Option Cancellation)}
    (ran : (store.rest handle ctx failure n).run s = (answer, s')) : State.Quiet s s' := by
  unfold rest at ran
  simp only [Program.bind_eq_bind] at ran
  rw [Program.run_bind_ok (Program.run_log s _ _)] at ran
  split at ran
  · cases ran
    exact .logged _ _ _
  · have paused := Context.pause_quiet ran
    exact ⟨paused.connections, paused.holdings, paused.trace⟩

/-- The attempt `m` got the connection `c` to run its transaction on. -/
def Obtains (store : Store H) (ctx : RequestContext) (mode : Mode) (m : Made H α)
    (c : Connection) : Prop :=
  ∃ given, (ctx.guard (store.request mode)).run.run m.before = (.ok (.ok c), given)

theorem Obtains.unique {m : Made H α} {d : Connection} (obtains : store.Obtains ctx mode m c)
    (again : store.Obtains ctx mode m d) : c = d := by
  obtain ⟨given, hgiven⟩ := obtains
  obtain ⟨given', hgiven'⟩ := again
  rw [hgiven] at hgiven'
  cases hgiven'
  rfl

theorem Obtains.fresh {m : Made H α} (obtains : store.Obtains ctx mode m c)
    (lawful : store.Lawful) (sound : m.before.Sound) : c ∉ m.before.connections := by
  obtain ⟨given, ran⟩ := obtains
  exact (request_fresh lawful sound ran).1

theorem Obtains.takes {m : Made H α} (obtains : store.Obtains ctx mode m c)
    (lawful : store.Lawful) (keeps : ∀ inner, (work inner).run.Keeps held)
    (sound : m.before.Sound) (known : ∀ d ∈ held, d ∈ m.before.connections)
    (ran : (store.attempt ctx mode work m.number).run.run m.before = (m.outcome, m.after))
    (completed : m.outcome ≠ .error .dropped) :
    ∃ t, store.Takes ctx mode work m.number m.before t m.outcome m.after ∧ t.connection = c := by
  rcases attempt_takes lawful keeps sound known ran completed with
    ⟨failure, refused, -⟩ | ⟨t, takes⟩
  · obtain ⟨given, hgiven⟩ := obtains
    rw [hgiven] at refused
    cases refused
  · have taken : store.Obtains ctx mode m t.connection := ⟨t.given, takes.given⟩
    exact ⟨t, takes, taken.unique obtains⟩

end Store

end SessionKeeper
