import SessionKeeper.Proofs.Session.Conduct
import SessionKeeper.Proofs.Sql.Attended

/-!
The session service always answers. Whatever the server replies and however the context of a request
turns out, a question to the service comes to an answer: a value or a failure, and never a panic.

The unit of work of a rotation is attended (`Session.rotation_answers`), as every query is, and so
the call of it is (`Session.rotate_answers`).
-/

namespace SessionKeeper.Session

open Program (Attended)

variable {H : Host} {db : Database H} {ctx : RequestContext}

theorem createRefreshToken_answers (db : Database H) (inner : RequestContext) (user : Int) :
    (createRefreshToken db inner user).run.Answers := by
  refine Attended.step (Attended.lift fun _ => trivial) fun bytes => ?_
  refine Attended.step (Attended.lift fun _ => trivial) fun now => ?_
  refine Attended.step ?_ fun _ => trivial
  exact Attended.step ((db.executor inner).query_answers _ _) fun _ => trivial

theorem rotation_answers (db : Database H) (token : String) (inner : RequestContext) :
    (rotation db token inner).run.Answers := by
  refine Attended.step (Attended.lift fun _ => trivial) fun now => ?_
  refine Attended.step ((db.executor inner).query_answers _ _) fun taken => ?_
  cases taken with
  | none => trivial
  | some user => exact Attended.step (createRefreshToken_answers db inner user) fun _ => trivial

theorem rotate_answers (lawful : db.store.Lawful) (attends : db.store.Attends) (token : String) :
    (rotate db ctx token).run.Answers := by
  have called : (db.store.call .readWrite ctx (rotation db token)).run.Answers :=
    Store.call_attended lawful attends (rotation_answers db token)
  exact called

end SessionKeeper.Session
