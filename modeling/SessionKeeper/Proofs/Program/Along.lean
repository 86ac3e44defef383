import SessionKeeper.Proofs.Program.Race

/-!
What programs record on any way through them. A program may be woken in any manner where it waits,
and dropped as well; `p.Along h Q` says that on every way through `p`, begun while its host is in
the state `h`, `Q` holds of the events that were recorded and of the state in the end. So it holds
of every run (`Along.run`), and a race or a guard takes nothing away from it, as what becomes of a
program that is dropped halfway is one of the ways through it (`Along.race`).

A `Succession` is a relation between states of the host that is reflexive and transitive and that
holds where the host is asked for something. `p.Follows` says that the states of `p` succeed one
another in it; each combinator of programs keeps that, so the core of transactions is gone through
once for all such relations.
-/

namespace SessionKeeper

variable {H : Host} {α β : Type}

/-- What a request adds to the trace, given its answer. -/
def Request.told : (r : Request H) → r.Answer → List (Event H.Note)
  | .record e, _ => [e]
  | .connect _, c => [.opened c]
  | _, _ => []

theorem Request.trace_perform (r : Request H) (s : State H) :
    ∃ added, (r.perform s).2.trace = s.trace ++ added ∧
      added.map (·.2) = r.told (r.perform s).1 := by
  cases r with
  | record e => exact ⟨[_], rfl, rfl⟩
  | connect store => exact ⟨[_], rfl, rfl⟩
  | _ => exact ⟨[], (List.append_nil _).symm, rfl⟩

namespace Program

/-- On every way through the program, `Q` holds of the events recorded and the state in the end. -/
def Along : Program H α → H.State → (List (Event H.Note) → H.State → Prop) → Prop
  | .done _, h, Q => Q [] h
  | .stop _, h, Q => Q [] h
  | .wait _ _ next, h, Q => ∀ wake, (next wake).Along h Q
  | .ask .get next, h, Q => (next h).Along h Q
  | .ask (.set h) next, _, Q => (next ()).Along h Q
  | .ask r next, h, Q => ∀ answer, (next answer).Along h fun es h' => Q (r.told answer ++ es) h'

namespace Along

variable {p : Program H α} {h : H.State} {Q T : List (Event H.Note) → H.State → Prop}

theorem mono (along : p.Along h Q) (le : ∀ es h', Q es h' → T es h') : p.Along h T := by
  induction p generalizing h Q T with
  | done a => exact le _ _ along
  | stop cause => exact le _ _ along
  | wait length signals next ih => exact fun wake => ih wake (along wake) le
  | ask r next ih =>
    cases r with
    | get => exact ih _ along le
    | set state => exact ih _ along le
    | _ => exact fun answer => ih answer (along answer) fun es h' => le _ _

/-- What holds on every way holds of the run. -/
theorem run {s : State H} (along : p.Along s.host Q) :
    ∃ added, (p.run s).2.trace = s.trace ++ added ∧ Q (added.map (·.2)) (p.run s).2.host := by
  induction p generalizing s Q with
  | done a => exact ⟨[], (List.append_nil _).symm, along⟩
  | stop cause => exact ⟨[], (List.append_nil _).symm, along⟩
  | wait length signals next ih => exact ih _ (along _)
  | ask r next ih =>
    have unset : r ≠ .get → (∀ h, r ≠ .set h) → (r.perform s).2.host = s.host →
        (∀ answer, (next answer).Along s.host fun es h' => Q (r.told answer ++ es) h') →
        ∃ added, ((next (r.perform s).1).run (r.perform s).2).2.trace = s.trace ++ added ∧
          Q (added.map (·.2)) ((next (r.perform s).1).run (r.perform s).2).2.host := by
      intro _ _ same along
      obtain ⟨first, hfirst, told⟩ := r.trace_perform s
      obtain ⟨rest, hrest, holds⟩ := ih (r.perform s).1 (s := (r.perform s).2)
        (by rw [same]; exact along _)
      refine ⟨first ++ rest, by rw [hrest, hfirst, List.append_assoc], ?_⟩
      rw [List.map_append, told]
      exact holds
    cases r with
    | get => exact ih _ along
    | set state => exact ih _ (s := { s with host := state }) along
    | _ => exact unset (by simp) (by simp) rfl along

theorem bind {f : α → Program H β} (along : p.Along h Q) (stops : ∀ es h', Q es h' → T es h')
    (later : ∀ a es h₁, Q es h₁ → (f a).Along h₁ fun more h' => T (es ++ more) h') :
    (p.bind f).Along h T := by
  induction p generalizing h Q T with
  | done a => exact later a [] h along
  | stop cause => exact stops _ _ along
  | wait length signals next ih => exact fun wake => ih wake (along wake) stops later
  | ask r next ih =>
    cases r with
    | get => exact ih _ along stops later
    | set state => exact ih _ along stops later
    | _ =>
      refine fun answer => ih answer (along answer) (fun es h' => stops _ _) fun a es h₁ holds => ?_
      refine (later a _ h₁ holds).mono fun more h' => ?_
      rw [List.append_assoc]
      exact id

theorem bind_silent {f : α → Program H β} (along : p.Along h Q)
    (silent : ∀ a h, (f a).Along h fun es h' => es = [] ∧ h' = h) : (p.bind f).Along h Q := by
  refine along.bind (fun _ _ => id) fun a es h₁ holds => (silent a h₁).mono ?_
  rintro _ _ ⟨rfl, rfl⟩
  rwa [List.append_nil]

theorem settle (along : p.Along h Q) : p.settle.Along h Q := by
  induction p generalizing h Q with
  | done a => exact along
  | stop cause => cases cause <;> exact along
  | wait length signals next ih => exact fun wake => ih wake (along wake)
  | ask r next ih =>
    cases r with
    | get => exact ih _ along
    | set state => exact ih _ along
    | _ => exact fun answer => ih answer (along answer)

/-- A race ends with the program, or on a way through it on which it is dropped. -/
theorem race (signal : Signal) (along : p.Along h Q) : (p.race signal).Along h Q := by
  induction p generalizing h Q with
  | done a => exact along
  | stop cause => exact along
  | wait length signals next ih =>
    simp only [Program.race, Along]
    intro wake
    cases wake with
    | elapsed => exact ih _ (along _)
    | dropped => exact ih _ (along _)
    | fired place reason =>
      cases place with
      | zero => exact (settle (along .dropped)).bind_silent fun _ _ => ⟨rfl, rfl⟩
      | succ place => exact ih _ (along _)
  | ask r next ih =>
    cases r with
    | get => exact ih _ along
    | set state => exact ih _ along
    | _ => exact fun answer => ih answer (along answer)

theorem catchPanic (along : p.Along h Q) : p.catchPanic.Along h Q := by
  induction p generalizing h Q with
  | done a => exact along
  | stop cause => cases cause <;> exact along
  | wait length signals next ih => exact fun wake => ih wake (along wake)
  | ask r next ih =>
    cases r with
    | get => exact ih _ along
    | set state => exact ih _ along
    | _ => exact fun answer => ih answer (along answer)

theorem onDrop {tidy : Program H Unit} (along : p.Along h Q)
    (tidied : ∀ es h₁, Q es h₁ → tidy.Along h₁ fun more h' => Q (es ++ more) h') :
    (p.onDrop tidy).Along h Q := by
  induction p generalizing h Q with
  | done a => exact along
  | stop cause =>
    cases cause with
    | panic message => exact along
    | dropped =>
      refine (tidied [] h along).bind_silent fun _ _ => ⟨rfl, rfl⟩
  | wait length signals next ih => exact fun wake => ih wake (along wake) tidied
  | ask r next ih =>
    cases r with
    | get => exact ih _ along tidied
    | set state => exact ih _ along tidied
    | _ =>
      refine fun answer => ih answer (along answer) fun es h₁ holds => ?_
      refine (tidied _ h₁ holds).mono fun more h' => ?_
      rw [List.append_assoc]
      exact id

end Along

end Program

namespace Context

variable {κ : Type} {V : κ → Type} {Q : List (Event H.Note) → H.State → Prop} {h : H.State}

/-- What a context guards is not begun, or goes some way. -/
theorem guard_along (ctx : Context V) {w : Work H α} (along : w.run.Along h Q)
    (nothing : Q [] h) : (ctx.guard w).run.Along h Q := by
  rw [guard_run]
  intro status
  cases status with
  | some reason => exact nothing
  | none =>
    refine (along.race ctx.signal).bind_silent fun raced h => ?_
    cases raced <;> exact ⟨rfl, rfl⟩

end Context

/-! ## What the state of a host follows -/

/-- How the states of a host may succeed one another, by what is recorded on the way. Where no
statement is executed, the state stays. -/
structure Succession (H : Host) where
  leads : H.State → List (Event H.Note) → H.State → Prop
  still : ∀ h, leads h [] h
  trans : ∀ {h h₁ h' es more}, leads h es h₁ → leads h₁ more h' → leads h (es ++ more) h'
  silent : ∀ h e, (∀ connection statement reply, e ≠ .executed connection statement reply) →
    leads h [e] h

/-- The request leaves the state of the host alone, and no statement is recorded with it. -/
def Request.Silent : Request H → Prop
  | .get => False
  | .set _ => False
  | .record (.executed _ _ _) => False
  | _ => True

/-- On every way through the program the states of the host succeed one another so. -/
def Program.Follows (R : Succession H) (p : Program H α) : Prop := ∀ h, p.Along h (R.leads h)

namespace Program.Follows

variable {R : Succession H} {p : Program H α}

theorem done (a : α) : (Program.done a : Program H α).Follows R := fun h => R.still h

theorem ask {r : Request H} {next : r.Answer → Program H α} (silent : r.Silent)
    (later : ∀ answer, (next answer).Follows R) : (Program.ask r next).Follows R := by
  intro h
  have told : ∀ answer, R.leads h (r.told answer) h → (next answer).Along h fun es h' =>
      R.leads h (r.told answer ++ es) h' := fun answer told =>
    (later answer h).mono fun es h' led => R.trans told led
  cases r with
  | get => exact silent.elim
  | set state => exact silent.elim
  | record e =>
    refine fun answer => told answer (R.silent h e ?_)
    rintro _ _ _ rfl
    exact silent
  | connect store => exact fun c => told c (R.silent h _ (by simp))
  | _ => exact fun answer => told answer (R.still h)

theorem bind {f : α → Program H β} (hp : p.Follows R) (hf : ∀ a, (f a).Follows R) :
    (p.bind f).Follows R := fun h =>
  (hp h).bind (fun _ _ => id) fun a _ h₁ led => (hf a h₁).mono fun _ _ => R.trans led

theorem step {w : Work H α} {f : α → Work H β} (hw : w.run.Follows R)
    (hf : ∀ a, (f a).run.Follows R) : (w >>= f).run.Follows R := by
  rw [ExceptT.run_bind]
  refine hw.bind fun r => ?_
  cases r with
  | error failure => exact done _
  | ok a => exact hf a

theorem lift (follows : p.Follows R) : (Work.lift p).run.Follows R :=
  follows.bind fun _ => done _

theorem catchPanic (follows : p.Follows R) : p.catchPanic.Follows R := fun h =>
  (follows h).catchPanic

theorem onDrop {tidy : Program H Unit} (follows : p.Follows R) (tidied : tidy.Follows R) :
    (p.onDrop tidy).Follows R := fun h =>
  (follows h).onDrop fun _ h₁ led => (tidied h₁).mono fun _ _ => R.trans led

theorem guard {κ : Type} {V : κ → Type} (ctx : Context V) {w : Work H α} (follows : w.run.Follows R) :
    (ctx.guard w).run.Follows R := fun h => ctx.guard_along (follows h) (R.still h)

theorem pause {κ : Type} {V : κ → Type} (ctx : Context V) (length : Duration) :
    (ctx.pause length : Program H (Option Cancellation)).Follows R := by
  intro h wake
  cases wake <;> exact R.still h

/-- In the course of a run the state of the host follows what is recorded. -/
theorem run (follows : p.Follows R) {s s' : State H} {outcome : Except Stop α}
    (ran : p.run s = (outcome, s')) :
    ∃ added, s'.trace = s.trace ++ added ∧ R.leads s.host (added.map (·.2)) s'.host := by
  have led := (follows s.host).run
  rwa [ran] at led

end Program.Follows

end SessionKeeper
