import SessionKeeper.Proofs.Program.Along
import SessionKeeper.Proofs.Transaction.Congruence

/-!
What becomes of the state of a host in the course of a transaction. The core of transactions does
not touch that state itself: in a call the states succeed one another as they do in the primitives
of its store and in its unit of work (`Store.call_follows`), whatever the store replies and however
the call turns out.

To follow a succession is a congruence (`Succession.congruence`), so there is nothing to prove here
but that the requests of the core are silent.
-/

namespace SessionKeeper

variable {H : Host} {α : Type} {R : Succession H}

/-- In each primitive of the store the states succeed one another so. -/
structure Store.Follows (R : Succession H) (store : Store H) : Prop where
  start : ∀ mode, (store.start mode).run.Follows R
  prepare : ∀ mode c, (store.prepare mode c).run.Follows R
  restart : ∀ mode c failure n, (store.restart mode c failure n).run.Follows R
  commit : ∀ c, (store.commit c).run.Follows R
  rollback : ∀ c, (store.rollback c).run.Follows R

theorem Request.Core.silent {r : Request H} (core : r.Core) : r.Silent := by
  cases r with
  | record e => cases e <;> first | exact core.elim | trivial
  | get => exact core.elim
  | set state => exact core.elim
  | _ => trivial

namespace Succession

open Program.Follows (ask done)

/-- Following a succession goes through sequence, and through what the core asks for. -/
def congruence (R : Succession H) : Program.Congruence H where
  rel p _ := p.Follows R
  own _ := True
  done := done
  stop _ := R.still
  bind first later := first.bind later
  catchPanic follows := follows.catchPanic
  ask _ core := ask core.silent done
  openLease _ _ _ later := ask trivial fun lease => later lease trivial
  endLease _ _ := ask trivial done
  pause ctx length := .pause ctx length

theorem respects {store : Store H} (follows : store.Follows R) : store.Respects R.congruence where
  start ctx mode := by
    have requested : (store.request mode).run.Follows R := ask trivial fun _ => follows.start mode
    exact requested.guard ctx
  prepare := follows.prepare
  restart := follows.restart
  commit := follows.commit
  rollback := follows.rollback

end Succession

theorem Store.call_follows {store : Store H} {mode : Mode} {ctx : RequestContext}
    {work : UnitOfWork H α} (follows : store.Follows R)
    (working : ∀ inner, (work inner).run.Follows R) :
    (store.call mode ctx work).run.Follows R := by
  have called : R.congruence.rel (store.call mode ctx work).run (store.call mode ctx work).run :=
    Program.Congruence.call (Succession.respects follows) working
  exact called

end SessionKeeper
