import SessionKeeper.Proofs.Session.Conduct
import SessionKeeper.Proofs.Transaction.Nesting
import SessionKeeper.Startup

/-!
What happens behind a request. Each route makes its calls one after the other, under a context that
it derived from the empty one, so the transactions of a request are bracketed whatever was
configured, whatever the request says and whatever the server replies.

Each route conducts itself (`Service.answer_conduct`), by the laws of `Conduct` and one lemma a
route, and so does whoever sends the request on to it (`Service.handle_conduct`). Every store that a
configuration can ask for is lawful (`Config.database_lawful`), which is all that the result on
chained calls asks for.

Correspondence: `request_context` ↔ `Http.requestContext`; `refresh_session`, `logout`, `revoke`,
`get_me` and `health` are the routes.
-/

namespace SessionKeeper

variable {H : Host} {held : List Connection}

theorem Config.database_lawful (config : Config) (server : Dialect → Server H) :
    (config.database server).store.Lawful := by
  unfold database
  cases config.backend with
  | postgres => exact Postgres.store_lawful _ _ _
  | cockroach => exact Cockroach.store_lawful _ _
  | mysql => exact MySql.store_lawful _ _

namespace Http

variable {α : Type} {chained : Prop} {ctx : RequestContext}

theorem log_conduct (level : LogLevel) (text : String) :
    Conduct chained ctx held (Program.log level text : Program H Unit) :=
  .confined ⟨trivial, fun _ => trivial⟩

/-- What a request has to do under its context, which ends when the request has taken too long. -/
theorem requestContext_conduct {f : RequestContext → Program H α}
    (h : ∀ inner, Conduct chained inner held (f inner)) :
    Conduct chained .background held (requestContext.bind f) := by
  unfold requestContext Context.withTimeout
  simp only [Program.bind_eq_bind, Program.pure_eq_done, Program.bind_assoc]
  refine .bind (.confined ⟨trivial, fun _ => trivial⟩) fun now => ?_
  exact .derived (fun _ => .deadline _ .refl) (h _)

namespace Service

theorem answerWith_conduct (report : Report) :
    Conduct chained ctx held (answerWith report : Program H Response) :=
  .bind (log_conduct _ _) fun _ => .confined trivial

variable {s : Service H}

theorem refresh_conduct (lawful : s.database.store.Lawful) (form : Form) :
    Conduct chained .background held (s.refresh form) := by
  refine requestContext_conduct fun inner => .bind (Session.rotate_conduct lawful _) ?_
  intro rotated
  cases rotated with
  | error failure =>
    by_cases unknown : failure.kind = .notFound
    · simp only [unknown, if_true]
      exact .confined trivial
    · simp only [unknown, if_false]
      exact answerWith_conduct _
  | ok issued => exact .confined ⟨trivial, fun _ => trivial⟩

theorem revoke_conduct (lawful : s.database.store.Lawful) (form : Form) :
    Conduct chained ctx held (s.revoke ctx form).run := by
  unfold revoke
  by_cases everywhere : form.everywhere = true
  · simp only [everywhere, if_true]
    exact .step (Session.revokeAllOf_conduct lawful _) fun _ => .confined trivial
  · simp only [everywhere]
    exact Session.revoke_conduct _ _ _

theorem logout_conduct (lawful : s.database.store.Lawful) (form : Form) :
    Conduct chained .background held (s.logout form) := by
  refine requestContext_conduct fun inner => .bind (revoke_conduct lawful form) ?_
  intro revoked
  cases revoked with
  | error failure =>
    by_cases unknown : failure.kind = .notFound
    · simp only [unknown, ne_eq, not_true_eq_false, if_false]
      exact .confined trivial
    · simp only [unknown, ne_eq, not_false_eq_true, if_true]
      exact .bind (log_conduct _ _) fun _ => .confined trivial
  | ok done => exact .confined trivial

theorem me_conduct (lawful : s.database.store.Lawful) (r : Request) :
    Conduct chained .background held (s.me r) := by
  unfold me
  cases bearerToken? r with
  | none => exact .confined trivial
  | some token =>
    refine .bind (.confined ⟨trivial, fun _ => trivial⟩) fun now => ?_
    cases AccessToken.validate token s.secret now with
    | error fault => exact answerWith_conduct _
    | ok user =>
      refine requestContext_conduct fun inner => .bind (.readOnlyTransaction lawful fun ctx =>
        (s.database.executor ctx).query_conduct _ _) fun found => ?_
      cases found with
      | error failure => exact answerWith_conduct _
      | ok found => cases found <;> exact .confined trivial

theorem health_conduct (lawful : s.database.store.Lawful) :
    Conduct chained .background held s.health := by
  refine requestContext_conduct fun inner => .bind ?_ fun pinged => ?_
  · by_cases readOnly : s.database.store.readOnly = true
    · simp only [readOnly, if_true]
      exact .readOnlyTransaction lawful fun ctx =>
        (s.database.executor ctx).query_conduct _ _
    · simp only [readOnly]
      exact (s.database.executor inner).query_conduct _ _
  · cases pinged with
    | error failure => exact answerWith_conduct _
    | ok done => exact .confined trivial

theorem answer_conduct (lawful : s.database.store.Lawful) (r : Request) (route : Route) :
    Conduct chained .background held (s.answer r route) := by
  cases route with
  | refresh =>
    unfold answer
    cases readForm [.refreshToken] r with
    | error status => exact .confined trivial
    | ok form => exact refresh_conduct lawful form
  | logout =>
    unfold answer
    cases readForm [.refreshToken, .everywhere] r with
    | error status => exact .confined trivial
    | ok form => exact logout_conduct lawful form
  | me => exact me_conduct lawful r
  | health => exact health_conduct lawful

theorem handle_conduct (lawful : s.database.store.Lawful) (r : Request) :
    Conduct chained .background held (s.handle r) := by
  unfold handle
  cases s.routes.find? (·.path == r.path) with
  | none => exact .confined trivial
  | some route =>
    by_cases answers : route.answers r.method = true
    · simp only [answers, if_true]
      exact .bind (answer_conduct lawful r route) fun _ => .confined trivial
    · simp only [answers]
      exact .confined trivial

end Service

end Http

/-- The transactions behind a request are bracketed: they are over when it is answered, and at no
moment were two of them open on one channel. -/
theorem Config.handle_bracketed (config : Config) (server : Dialect → Server H) (r : Http.Request)
    {s s' : State H} {outcome : Except Stop Http.Response} (sound : s.Sound)
    (ran : ((config.service server).handle r).run s = (outcome, s'))
    (completed : outcome ≠ .error .dropped) :
    ∃ added, s'.trace = s.trace ++ added ∧ Bracketed added :=
  have conduct : Conduct True .background [] ((config.service server).handle r) :=
    Http.Service.handle_conduct (config.database_lawful server) r
  (conduct.encloses [] (fun _ _ => nofun) s outcome s' sound nofun ran completed).bracketed

end SessionKeeper
