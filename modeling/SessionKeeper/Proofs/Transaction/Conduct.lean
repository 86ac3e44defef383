import SessionKeeper.Proofs.Retry.Account
import SessionKeeper.Proofs.Transaction.Course
import SessionKeeper.Transaction.Entry

/-!
Conduct: what callers and units of work may do. They run programs of their own, borrow the
connection of a handle and use it, make calls of any lawful store and await them, and catch panics.
The contexts of their calls are theirs to choose, unless calls are `chained`: then they derive them
from the one that they were given.

Whoever conducts himself so keeps to what is his (`Conduct.keeps`), whatever stores answer and
however calls turn out. The proof is by induction on the conduct; a call of a store is an induction
on its attempts, with the conduct of its unit of work as the hypothesis for each run.

A panic may be caught and gone on from. What no conduct has is a way to end a lease, or to use a
connection that it neither holds nor borrows.
-/

namespace SessionKeeper

variable {H : Host} {α β : Type}

namespace RequestContext

/-- `inner` was derived from `ctx` by cancellation scopes, deadlines, texts and numbers. -/
inductive Derives (ctx : RequestContext) : RequestContext → Prop
  | refl : Derives ctx ctx
  | within {inner : RequestContext} (scope : Scope) :
      Derives ctx inner → Derives ctx (inner.within scope)
  | deadline {inner : RequestContext} (time : Instant) :
      Derives ctx inner → Derives ctx (inner.withDeadline time)
  | text {inner : RequestContext} (name value : String) :
      Derives ctx inner → Derives ctx (inner.withValue (.text name) value)
  | number {inner : RequestContext} (name : String) (value : Int) :
      Derives ctx inner → Derives ctx (inner.withValue (.number name) value)

/-- The active transactions of a context are those of every context derived from it. -/
theorem Derives.active? {ctx inner : RequestContext} (h : ctx.Derives inner) (channel : Channel) :
    inner.active? channel = ctx.active? channel := by
  induction h with
  | refl => rfl
  | within scope _ ih => exact (Context.value?_within _ _ _).trans ih
  | deadline time _ ih => exact (Context.value?_withDeadline _ _ _).trans ih
  | text name value _ ih =>
    exact (Context.value?_withValue_of_ne _ _ (by simp)).trans ih
  | number name value _ ih =>
    exact (Context.value?_withValue_of_ne _ _ (by simp)).trans ih

end RequestContext

/-- `p` conducts itself as a unit of work has to that was given `ctx` and holds `held`. -/
inductive Conduct (chained : Prop) : RequestContext → List Connection → {α : Type} →
    Program H α → Prop
  /-- A program of its own. -/
  | confined {ctx : RequestContext} {held : List Connection} {α : Type} {p : Program H α} :
      p.Confined .unit held → Conduct chained ctx held p
  | bind {ctx : RequestContext} {held : List Connection} {α β : Type} {p : Program H α}
      {f : α → Program H β} :
      Conduct chained ctx held p → (∀ a, Conduct chained ctx held (f a)) →
      Conduct chained ctx held (p.bind f)
  | catchPanic {ctx : RequestContext} {held : List Connection} {α : Type} {p : Program H α} :
      Conduct chained ctx held p → Conduct chained ctx held p.catchPanic
  /-- Going on with the connection of a handle. -/
  | borrow {ctx : RequestContext} {held : List Connection} {α : Type} {lease : Lease}
      {f : Option Connection → Program H α} :
      (∀ found, Conduct chained ctx (found.toList ++ held) (f found)) →
      Conduct chained ctx held ((Program.borrow lease).bind f)
  /-- Choosing the context for a part. -/
  | derived {ctx inner : RequestContext} {held : List Connection} {α : Type} {p : Program H α} :
      (chained → ctx.Derives inner) → Conduct chained inner held p → Conduct chained ctx held p
  | call {ctx : RequestContext} {held : List Connection} {α : Type} {store : Store H} {mode : Mode}
      {work : UnitOfWork H α} :
      store.Lawful → (∀ inner, Conduct chained inner held (work inner).run) →
      Conduct chained ctx held (store.call mode ctx work).run
  /-- One attempt outside any policy, which joins no transaction. -/
  | attempt {ctx : RequestContext} {held : List Connection} {α : Type} {store : Store H}
      {mode : Mode} {work : UnitOfWork H α} {n : Nat} :
      store.Lawful → ¬chained → (∀ inner, Conduct chained inner held (work inner).run) →
      Conduct chained ctx held (store.attempt ctx mode work n).run

namespace Conduct

variable {chained : Prop} {ctx : RequestContext} {held : List Connection}

theorem step {w : Work H α} {f : α → Work H β} (hw : Conduct chained ctx held w.run)
    (hf : ∀ a, Conduct chained ctx held (f a).run) : Conduct chained ctx held (w >>= f).run := by
  rw [ExceptT.run_bind]
  apply hw.bind
  intro r
  cases r with
  | error failure => exact .confined trivial
  | ok a => exact hf a

variable {store : Store H} {work : UnitOfWork H α}

theorem readWrite (lawful : store.Lawful)
    (h : ∀ inner, Conduct chained inner held (work inner).run) :
    Conduct chained ctx held (store.readWrite ctx work).run := by
  have called : Conduct chained ctx held (store.call .readWrite ctx work).run := .call lawful h
  exact called

theorem readOnlyTransaction (lawful : store.Lawful)
    (h : ∀ inner, Conduct chained inner held (work inner).run) :
    Conduct chained ctx held (store.readOnlyTransaction ctx work).run := by
  have called : Conduct chained ctx held (store.call .readOnly ctx work).run := .call lawful h
  exact called

end Conduct

namespace Store

variable {store : Store H} {mode : Mode} {ctx : RequestContext} {work : UnitOfWork H α}
  {held : List Connection} {n : Nat}

theorem attempt_keeps (lawful : store.Lawful) (keeps : ∀ inner, (work inner).run.Keeps held) :
    (store.attempt ctx mode work n).run.Keeps held := by
  intro s outcome s' sound known ran completed
  rcases attempt_takes lawful keeps sound known ran completed with ⟨failure, given, -⟩ | ⟨t, takes⟩
  · exact (request_alone lawful sound given).steady.mono fun _ _ _ _ h => by cases h.1
  · exact takes.steady lawful keeps sound known

/-- What a call comes to: it is refused, joins the active transaction, or makes attempts under the
policy of the store. -/
inductive CallTo (store : Store H) (ctx : RequestContext) (mode : Mode) (work : UnitOfWork H α)
    (s : State H) : Except Stop (Except Failure α) → State H → Prop
  | refused {failure : Failure} : CallTo store ctx mode work s (.ok (.error failure)) s
  | joined {active : Handle} {outcome : Except Stop (Except Failure α)} {s₁ s' : State H} :
      ctx.active? store.channel = some active → State.Quiet s s₁ →
      (work ctx).run.run s₁ = (outcome, s') → CallTo store ctx mode work s outcome s'
  | own {ms : List (Made H α)} {outcome : Except Stop (Except Failure α)} {s' : State H} :
      ctx.active? store.channel = none →
      (store.policy mode).RunTo ctx store.retries (store.attempt ctx mode work)
        ((store.policy mode).maxAttempts - 1) 1 s ms outcome s' →
      CallTo store ctx mode work s outcome s'

theorem call_account {s s' : State H} {outcome : Except Stop (Except Failure α)}
    (ran : (store.call mode ctx work).run.run s = (outcome, s')) :
    CallTo store ctx mode work s outcome s' := by
  have transacted : ∀ {mode}, (store.transact ctx mode work).run.run s = (outcome, s') →
      CallTo store ctx mode work s outcome s' := by
    intro mode ran
    unfold transact at ran
    cases hactive : ctx.active? store.channel with
    | none =>
      simp only [hactive] at ran
      obtain ⟨ms, account⟩ := RetryPolicy.runFrom_account ran
      exact .own hactive account
    | some active =>
      simp only [hactive, ExceptT.run_mk, Program.bind_eq_bind, Handle.isFinished,
        Program.run_bind, Program.run_leaseEnded] at ran
      split at ran
      · cases ran
        exact .refused
      · split at ran
        · cases ran
          exact .refused
        · rw [Program.run_bind_ok (Program.run_log s _ _)] at ran
          exact .joined hactive (.logged _ _ _) ran
  cases mode with
  | readWrite => exact transacted ran
  | readOnly =>
    unfold call readOnlyTransaction at ran
    by_cases supported : store.readOnly = true
    · simp only [supported, if_true] at ran
      exact transacted ran
    · simp only [supported] at ran
      cases ran
      exact .refused

/-- The attempts of a call, up to each of them and from there on. -/
theorem attempts_keep (lawful : store.Lawful) (keeps : ∀ inner, (work inner).run.Keeps held)
    {policy : RetryPolicy} {retries : Failure → Bool} {left : Nat} {s s' : State H}
    {ms : List (Made H α)} {outcome : Except Stop (Except Failure α)}
    (account : policy.RunTo ctx retries (store.attempt ctx mode work) left n s ms outcome s')
    (completed : outcome ≠ .error .dropped) (sound : s.Sound)
    (known : ∀ c ∈ held, c ∈ s.connections) : Steady (Footprint.unit.reach held s) s s' ∧
      ∀ m ∈ ms, Steady (Footprint.unit.reach held s) s m.before ∧
        (store.attempt ctx mode work m.number).run.run m.before = (m.outcome, m.after) ∧
        m.outcome ≠ .error .dropped ∧ Steady (Footprint.unit.reach held m.after) m.after s' := by
  let P (s s' : State H) : Prop := s.Sound → (∀ c ∈ held, c ∈ s.connections) →
    Steady (Footprint.unit.reach held s) s s'
  have trans : ∀ {s₁ s₂ s₃}, P s₁ s₂ → P s₂ s₃ → P s₁ s₃ := by
    intro s₁ s₂ s₃ first second sound known
    have steady := first sound known
    exact steady.reach_trans (second steady.sound fun c hc => steady.known (known c hc))
  have quiet : ∀ {s s'}, State.Quiet s s' → P s s' := fun quiet sound _ => .of_quiet sound quiet
  have made : ∀ {n s m}, RetryPolicy.Makes ctx (store.attempt ctx mode work) n s m →
      m.outcome ≠ .error .dropped → P s m.after := fun makes completed sound known =>
    attempt_keeps lawful keeps _ _ _ sound known makes.ran completed
  refine ⟨account.along (P := P) trans quiet made completed sound known, ?_⟩
  intro m mem
  obtain ⟨makes, completed'⟩ := account.makes m mem
  obtain ⟨before, after⟩ := account.around (P := P) trans quiet made completed m mem
  have before := before sound known
  have during := made makes (completed' completed) before.sound fun c hc =>
    before.known (known c hc)
  exact ⟨before, makes.ran, completed' completed, after during.sound
    fun c hc => during.known (before.known (known c hc))⟩

/-- Each attempt of a call got no connection, and fails with what stood in the way, or it took a
transaction. -/
theorem attempts_take (lawful : store.Lawful) (keeps : ∀ inner, (work inner).run.Keeps held)
    {policy : RetryPolicy} {retries : Failure → Bool} {left : Nat} {s s' : State H}
    {ms : List (Made H α)} {outcome : Except Stop (Except Failure α)}
    (account : policy.RunTo ctx retries (store.attempt ctx mode work) left n s ms outcome s')
    (completed : outcome ≠ .error .dropped) (sound : s.Sound)
    (known : ∀ c ∈ held, c ∈ s.connections) {m : Made H α} (mem : m ∈ ms) :
    Steady (Footprint.unit.reach held s) s m.before ∧
      ((∃ failure, (ctx.guard (store.request mode)).run.run m.before =
          (.ok (.error failure), m.after) ∧ m.outcome = .ok (.error failure)) ∨
        ∃ t, store.Takes ctx mode work m.number m.before t m.outcome m.after) := by
  obtain ⟨before, ran, completed', -⟩ :=
    (attempts_keep lawful keeps account completed sound known).2 m mem
  exact ⟨before, attempt_takes lawful keeps before.sound
    (fun c hc => before.known (known c hc)) ran completed'⟩

/-- What its attempts ensure, or the unit of work where the call joins, the call ensures. -/
theorem call_ensures {P : State H → State H → Prop} (lawful : store.Lawful)
    (keeps : ∀ inner, (work inner).run.Keeps held)
    (trans : ∀ {s₁ s₂ s₃}, P s₁ s₂ → P s₂ s₃ → P s₁ s₃)
    (quiet : ∀ {s s'}, s.Sound → State.Quiet s s' → P s s')
    (joined : (work ctx).run.Ensures held P)
    (attempted : ctx.active? store.channel = none →
      ∀ n, (store.attempt ctx mode work n).run.Ensures held P) :
    (store.call mode ctx work).run.Ensures held P := by
  intro s outcome s' sound known ran completed
  cases call_account ran with
  | refused => exact quiet sound ⟨rfl, rfl, rfl⟩
  | joined _ still ran =>
    have waited : Steady (fun _ _ => False) s _ := .of_quiet sound still
    exact trans (quiet sound still)
      (joined _ _ _ waited.sound (fun c hc => waited.known (known c hc)) ran completed)
  | own inactive account =>
    -- Attempts are steady only in surroundings in order, so that is carried along.
    let Q (s s' : State H) : Prop := s.Sound → (∀ c ∈ held, c ∈ s.connections) →
      Steady (Footprint.unit.reach held s) s s' ∧ P s s'
    refine (account.along (P := Q) ?_ ?_ ?_ completed sound known).2
    · intro s₁ s₂ s₃ first second sound known
      obtain ⟨steady, ensured⟩ := first sound known
      obtain ⟨steady', ensured'⟩ := second steady.sound fun c hc => steady.known (known c hc)
      exact ⟨steady.reach_trans steady', trans ensured ensured'⟩
    · exact fun still sound _ => ⟨.of_quiet sound still, quiet sound still⟩
    · intro n s m makes completed sound known
      exact ⟨attempt_keeps lawful keeps _ _ _ sound known makes.ran completed,
        attempted inactive n _ _ _ sound known makes.ran completed⟩

theorem call_keeps (lawful : store.Lawful) (keeps : ∀ inner, (work inner).run.Keeps held) :
    (store.call mode ctx work).run.Keeps held :=
  call_ensures lawful keeps Steady.reach_trans (fun sound still => .of_quiet sound still)
    (keeps ctx) fun _ _ => attempt_keeps lawful keeps

end Store

theorem Conduct.keeps {chained : Prop} {ctx : RequestContext} {held : List Connection}
    {p : Program H α} (conduct : Conduct chained ctx held p) : p.Keeps held := by
  induction conduct with
  | confined h => exact .of_confined h
  | bind _ _ ih ihf => exact ih.bind ihf
  | catchPanic _ ih => exact Program.Ensures.catchPanic ih
  | borrow _ ih => exact .borrow ih
  | derived _ _ ih => exact ih
  | call lawful _ ih => exact Store.call_keeps lawful ih
  | attempt lawful _ _ ih => exact Store.attempt_keeps lawful ih

end SessionKeeper
