import SessionKeeper.Proofs.Program.Footprint
import SessionKeeper.Proofs.Retry.Account

/-!
Programs that come to an end of their own. No wait is dropped by time itself, so a program that
gives up only where it is told that it was dropped ends with a value whenever it is run, or panics
(`Attended.ran`); one that does not panic either always gives a value (`Attended.gives`).

`p.Attended panics Q` is by recursion on `p`: where it waits, it need only go on if it was not
dropped; where it stops, it must be with a panic, and only if `panics`; where it ends, `Q` holds of
the value. Sequence, races, guards and the catching of panics keep it. It is what a result has to be
proved with that says that a call returns, and not only what it returns if it does.
-/

namespace SessionKeeper

variable {H : Host} {α β : Type} {panics : Prop}

namespace Program

/-- The program drops itself nowhere, panics only if it is granted, and `Q` holds of its value. -/
def Attended (panics : Prop) (Q : α → Prop) : Program H α → Prop
  | .done a => Q a
  | .stop (.panic _) => panics
  | .stop .dropped => False
  | .wait _ _ next => ∀ wake, wake ≠ .dropped → (next wake).Attended panics Q
  | .ask _ next => ∀ answer, (next answer).Attended panics Q

/-- The program always gives a value. -/
abbrev Answers (p : Program H α) : Prop := p.Attended False fun _ => True

namespace Attended

variable {Q R : α → Prop} {p : Program H α}

theorem mono {panics' : Prop} (h : p.Attended panics Q) (may : panics → panics')
    (le : ∀ a, Q a → R a) : p.Attended panics' R := by
  induction p with
  | done a => exact le a h
  | stop cause =>
    cases cause with
    | panic message => exact may h
    | dropped => exact h
  | wait length signals next ih => exact fun wake kept => ih wake (h wake kept)
  | ask r next ih => exact fun answer => ih answer (h answer)

/-- What always gives a value may stand where panics are granted. -/
theorem of_answers (h : p.Answers) : p.Attended panics fun _ => True :=
  h.mono False.elim fun _ _ => trivial

theorem bind {R : β → Prop} {f : α → Program H β} (hp : p.Attended panics Q)
    (hf : ∀ a, Q a → (f a).Attended panics R) : (p.bind f).Attended panics R := by
  induction p with
  | done a => exact hf a hp
  | stop cause => cases cause <;> exact hp
  | wait length signals next ih => exact fun wake kept => ih wake (hp wake kept)
  | ask r next ih => exact fun answer => ih answer (hp answer)

theorem step {w : Work H α} {f : α → Work H β} (hw : w.run.Attended panics fun _ => True)
    (hf : ∀ a, (f a).run.Attended panics fun _ => True) :
    (w >>= f).run.Attended panics fun _ => True := by
  rw [ExceptT.run_bind]
  refine hw.bind fun r _ => ?_
  cases r with
  | error failure => trivial
  | ok a => exact hf a

theorem lift (h : p.Attended panics Q) : (Work.lift p).run.Attended panics fun _ => True :=
  h.bind fun _ _ => trivial

/-- Caught, a panic is a value, and there is none unless panics are granted. -/
theorem catchPanic (h : p.Attended panics Q) :
    p.catchPanic.Attended False fun verdict => ∀ message, verdict = .error message → panics := by
  induction p with
  | done a => simp [Program.catchPanic, Attended]
  | stop cause =>
    cases cause with
    | panic message => exact fun _ _ => h
    | dropped => exact h
  | wait length signals next ih => exact fun wake kept => ih wake (h wake kept)
  | ask r next ih => exact fun answer => ih answer (h answer)

/-- What is left to do of a dropped program comes to its end, if the program does not panic. -/
theorem settle (calm : p.Calm) : p.settle.Answers := by
  induction p with
  | done a => trivial
  | stop cause =>
    cases calm
    trivial
  | wait length signals next ih => exact fun wake _ => ih wake (calm wake)
  | ask r next ih => exact fun answer => ih answer (calm answer)

theorem race (signal : Signal) (h : p.Attended False Q) (calm : p.Calm) :
    (p.race signal).Answers := by
  induction p with
  | done a => trivial
  | stop cause => cases cause <;> exact h.elim
  | wait length signals next ih =>
    simp only [Program.race, Attended]
    intro wake kept
    cases wake with
    | elapsed => exact ih _ (h _ kept) (calm _)
    | dropped => exact absurd rfl kept
    | fired place reason =>
      cases place with
      | zero => exact (settle (calm .dropped)).bind fun _ _ => trivial
      | succ place => exact ih _ (h _ (by simp)) (calm _)
  | ask r next ih => exact fun answer => ih answer (h answer) (calm answer)

theorem onDrop {tidy : Program H Unit} (h : p.Attended panics Q) :
    (p.onDrop tidy).Attended panics Q := by
  induction p with
  | done a => exact h
  | stop cause =>
    cases cause with
    | panic message => exact h
    | dropped => exact h.elim
  | wait length signals next ih => exact fun wake kept => ih wake (h wake kept)
  | ask r next ih => exact fun answer => ih answer (h answer)

theorem forM {γ : Type} {f : γ → Program H Unit} (h : ∀ x, (f x).Answers) (xs : List γ) :
    (xs.forM f).Answers := by
  induction xs with
  | nil => trivial
  | cons x xs ih => exact (h x).bind fun _ _ => ih

theorem ran (h : p.Attended panics Q) {s s' : State H} {outcome : Except Stop α}
    (ran : p.run s = (outcome, s')) : outcome ≠ .error .dropped := by
  induction p generalizing s with
  | done a =>
    cases ran
    simp
  | stop cause =>
    cases ran
    rintro ⟨⟩
    exact h
  | wait length signals next ih => exact ih _ (h _ (Timeline.wait_ne_dropped _ _ _)) ran
  | ask r next ih => exact ih _ (h _) ran

theorem gives (h : p.Attended False Q) (s : State H) : ∃ a s', p.run s = (.ok a, s') ∧ Q a := by
  induction p generalizing s with
  | done a => exact ⟨a, s, rfl, h⟩
  | stop cause => cases cause <;> exact h.elim
  | wait length signals next ih => exact ih _ (h _ (Timeline.wait_ne_dropped _ _ _)) _
  | ask r next ih => exact ih _ (h _) _

end Attended

end Program

namespace Context

variable {κ : Type} {V : κ → Type}

theorem guard_answers (ctx : Context V) {w : Work H α} (h : w.run.Answers) (calm : w.run.Calm) :
    (ctx.guard w).run.Answers := by
  rw [guard_run]
  intro status
  cases status with
  | some reason => trivial
  | none =>
    refine (h.race ctx.signal calm).bind fun r _ => ?_
    cases r <;> trivial

theorem pause_answers (ctx : Context V) (length : Duration) :
    (ctx.pause length : Program H (Option Cancellation)).Answers := by
  intro wake kept
  cases wake with
  | elapsed => trivial
  | fired place reason => trivial
  | dropped => exact absurd rfl kept

end Context

end SessionKeeper
