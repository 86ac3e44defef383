import SessionKeeper.Proofs.Sql.Executor
import SessionKeeper.Proofs.Transaction.Conduct
import SessionKeeper.Session.Service

/-!
The session service keeps the rules. A statement is sent on the connection of the transaction that
it is part of or on one of the pool, and what the service asks of its tables is made of statements
and of calls that it awaits, so what is proved of units of work and of chained calls holds of it.

Where an operation is a transaction, its unit of work has a name here (`Session.rotation`), and the
operation is a call of that (`Session.rotate_eq`).
-/

namespace SessionKeeper

variable {H : Host} {α : Type} {chained : Prop} {ctx : RequestContext} {held : List Connection}

theorem Executor.query_conduct (e : Executor H) (statement : Statement)
    (read : Answer → Except DriverFailure α) :
    Conduct chained ctx held (e.query statement read).run :=
  .confined (e.query_confined (fun _ _ _ _ => trivial) read)

namespace Session

section Confined

variable {may : Event H.Note → Prop}

theorem wallClock_confined : (Work.lift (H := H) .wallClock).run.Confined ⟨may, fun _ => True⟩ held :=
  ⟨trivial, fun _ => trivial⟩

theorem entropy_confined : (Work.lift (H := H) .entropy).run.Confined ⟨may, fun _ => True⟩ held :=
  ⟨trivial, fun _ => trivial⟩

theorem createRefreshToken_confined (allowed : ∀ q : TokenQuery, Server.Allows may [q.statement])
    (db : Database H) (inner : RequestContext) (user : Int) :
    (createRefreshToken db inner user).run.Confined ⟨may, fun _ => True⟩ held := by
  unfold createRefreshToken
  apply entropy_confined.step
  intro bytes
  apply wallClock_confined.step
  intro now
  have inserting : (RefreshTokens.insert (db.executor inner) (hex bytes) user
      (now.after refreshLifetime)).run.Confined ⟨may, fun _ => True⟩ held :=
    .step ((db.executor inner).query_confined (allowed _) _) fun _ => trivial
  exact inserting.step fun _ => trivial

/-- The unit of work of a rotation. -/
def rotation (db : Database H) (token : String) : UnitOfWork H (Int × String) := fun ctx => do
  let now ← Work.lift .wallClock
  match ← RefreshTokens.take (db.executor ctx) token now with
  | none => throw unknownToken
  | some user => return (user, ← createRefreshToken db ctx user)

theorem rotate_eq (db : Database H) (token : String) :
    rotate db ctx token = db.store.readWrite ctx (rotation db token) := rfl

/-- A rotation sends statements about refresh tokens, and nothing else. -/
theorem rotation_confined (allowed : ∀ q : TokenQuery, Server.Allows may [q.statement])
    (db : Database H) (token : String) (inner : RequestContext) :
    (rotation db token inner).run.Confined ⟨may, fun _ => True⟩ held := by
  apply wallClock_confined.step
  intro now
  apply Program.Confined.step ((db.executor inner).query_confined (allowed (.take token now)) _)
  intro taken
  cases taken with
  | none => trivial
  | some user =>
    exact (createRefreshToken_confined allowed db inner user).step fun _ => trivial

end Confined

theorem rotation_conduct (db : Database H) (token : String) (inner : RequestContext) :
    Conduct chained ctx held (rotation db token inner).run :=
  .confined (rotation_confined (fun _ _ _ _ _ => trivial) db token inner)

theorem rotate_conduct {db : Database H} (lawful : db.store.Lawful) (token : String) :
    Conduct chained ctx held (rotate db ctx token).run := by
  rw [rotate_eq]
  exact .readWrite lawful fun inner => rotation_conduct db token inner

theorem revokeAllOf_conduct {db : Database H} (lawful : db.store.Lawful) (token : String) :
    Conduct chained ctx held (revokeAllOf db ctx token).run := by
  refine .readWrite lawful fun inner => ?_
  apply Conduct.step ((db.executor inner).query_conduct _ _)
  intro owner
  cases owner with
  | none => exact .confined trivial
  | some user => exact .step ((db.executor inner).query_conduct _ _) fun _ => .confined trivial

theorem revoke_conduct (db : Database H) (inner : RequestContext) (token : String) :
    Conduct chained ctx held (revoke db inner token).run :=
  .step ((db.executor inner).query_conduct _ _) fun _ => .confined trivial

end Session

end SessionKeeper
