import SessionKeeper.Proofs.Program.Attended

/-!
Races of programs that are made of parts. A program that gives no value once it was dropped
(`Program.Relents`) can be raced part by part: what follows it is raced where it has won, and left
out where the signal has (`Relents.race_bind`). What is to be tidied up after a program is tidied up
in the second case and in no other (`Relents.race_onDrop`).

Programs that are dropped are still run for what they do before they notice (`Program.settle`); one
that does nothing then and gives nothing is `Barren`. What waits for nothing is no part of the race
(`Prompt.race_bind`). With these three a beginning that is dropped halfway is taken apart statement
by statement.
-/

namespace SessionKeeper

variable {H : Host} {α β : Type}

namespace Program

/-- The program gives no value, however it goes on. -/
def Barren : Program H α → Prop
  | .done _ => False
  | .stop _ => True
  | .wait _ _ next => ∀ wake, (next wake).Barren
  | .ask _ next => ∀ answer, (next answer).Barren

/-- Dropped at a wait, the program gives no value any more. -/
def Relents : Program H α → Prop
  | .done _ => True
  | .stop _ => True
  | .wait _ _ next => (next .dropped).Barren ∧ ∀ wake, (next wake).Relents
  | .ask _ next => ∀ answer, (next answer).Relents

/-- The program waits for nothing. -/
def Prompt : Program H α → Prop
  | .done _ => True
  | .stop _ => True
  | .wait _ _ _ => False
  | .ask _ next => ∀ answer, (next answer).Prompt

/-! ## What is left to do -/

theorem settle_bind_dropped (p : Program H α) :
    (p.bind fun _ => (.stop .dropped : Program H β)).settle = p.settle := by
  induction p with
  | done a => rfl
  | stop cause => cases cause <;> rfl
  | wait length signals next ih => simp only [bind, settle, ih]
  | ask r next ih => simp only [bind, settle, ih]

/-- A program that gives a value leaves nothing to do that it does not do by itself. -/
theorem settle_run {p : Program H α} {s s' : State H} {a : α} (ran : p.run s = (.ok a, s')) :
    p.settle.run s = (.ok (), s') := by
  induction p generalizing s with
  | done b =>
    cases ran
    rfl
  | stop cause => cases ran
  | wait length signals next ih => exact ih _ ran
  | ask r next ih => exact ih _ ran

namespace Barren

variable {p : Program H α}

theorem settle_bind (h : p.Barren) (f : α → Program H β) : (p.bind f).settle = p.settle := by
  induction p with
  | done a => exact h.elim
  | stop cause => cases cause <;> rfl
  | wait length signals next ih =>
    simp only [bind, settle]
    congr 1
    funext wake
    exact ih wake (h wake)
  | ask r next ih =>
    simp only [bind, settle]
    congr 1
    funext answer
    exact ih answer (h answer)

theorem relents (h : p.Barren) : p.Relents := by
  induction p with
  | done a => trivial
  | stop cause => trivial
  | wait length signals next ih => exact ⟨h .dropped, fun wake => ih wake (h wake)⟩
  | ask r next ih => exact fun answer => ih answer (h answer)

theorem bind (h : p.Barren) (f : α → Program H β) : (p.bind f).Barren := by
  induction p with
  | done a => exact h.elim
  | stop cause => trivial
  | wait length signals next ih => exact fun wake => ih wake (h wake)
  | ask r next ih => exact fun answer => ih answer (h answer)

theorem of_bind (p : Program H α) {f : α → Program H β} (h : ∀ a, (f a).Barren) :
    (p.bind f).Barren := by
  induction p with
  | done a => exact h a
  | stop cause => trivial
  | wait length signals next ih => exact ih
  | ask r next ih => exact ih

theorem onDrop (h : p.Barren) (tidy : Program H Unit) : (p.onDrop tidy).Barren := by
  induction p with
  | done a => exact h.elim
  | stop cause =>
    cases cause with
    | panic message => trivial
    | dropped => exact of_bind tidy fun _ => trivial
  | wait length signals next ih => exact fun wake => ih wake (h wake)
  | ask r next ih => exact fun answer => ih answer (h answer)

theorem settle_onDrop (h : p.Barren) (tidy : Program H Unit) :
    (p.onDrop tidy).settle = p.settle.bind fun _ => tidy.settle := by
  induction p with
  | done a => exact h.elim
  | stop cause =>
    cases cause with
    | panic message => rfl
    | dropped => exact settle_bind_dropped tidy
  | wait length signals next ih =>
    simp only [Program.onDrop, settle, Program.bind]
    congr 1
    funext wake
    exact ih wake (h wake)
  | ask r next ih =>
    simp only [Program.onDrop, settle, Program.bind]
    congr 1
    funext answer
    exact ih answer (h answer)

end Barren

/-! ## Races -/

/-- Goes on where the program has won the race. -/
def proceed (f : α → Program H (Except Cancellation β)) :
    Except Cancellation α → Program H (Except Cancellation β)
  | .ok a => f a
  | .error reason => .done (.error reason)

/-- Tidies up where the signal has won the race. -/
def tidied (tidy : Program H Unit) : Except Cancellation α → Program H (Except Cancellation α)
  | .ok a => .done (.ok a)
  | .error reason => tidy.settle.bind fun _ => .done (.error reason)

namespace Relents

variable {p : Program H α} {signal : Signal}

theorem bind {f : α → Program H β} (hp : p.Relents) (hf : ∀ a, (f a).Relents) :
    (p.bind f).Relents := by
  induction p with
  | done a => exact hf a
  | stop cause => trivial
  | wait length signals next ih => exact ⟨hp.1.bind f, fun wake => ih wake (hp.2 wake)⟩
  | ask r next ih => exact fun answer => ih answer (hp answer)

theorem onDrop (h : p.Relents) (tidy : Program H Unit) : (p.onDrop tidy).Relents := by
  induction p with
  | done a => trivial
  | stop cause =>
    cases cause with
    | panic message => trivial
    | dropped => exact (Barren.of_bind tidy (f := fun _ => .stop .dropped) fun _ => trivial).relents
  | wait length signals next ih => exact ⟨h.1.onDrop tidy, fun wake => ih wake (h.2 wake)⟩
  | ask r next ih => exact fun answer => ih answer (h answer)

theorem race_bind (h : p.Relents) (f : α → Program H β) :
    (p.bind f).race signal = (p.race signal).bind (proceed fun a => (f a).race signal) := by
  induction p with
  | done a => rfl
  | stop cause => rfl
  | wait length signals next ih =>
    simp only [Program.bind, race]
    congr 1
    funext wake
    cases wake with
    | elapsed => exact ih _ (h.2 _)
    | dropped => exact ih _ (h.2 _)
    | fired place reason =>
      cases place with
      | zero =>
        simp only [h.1.settle_bind, bind_assoc]
        rfl
      | succ place => exact ih _ (h.2 _)
  | ask r next ih =>
    simp only [Program.bind, race]
    congr 1
    funext answer
    exact ih answer (h answer)

/-- What is to be tidied up after a program is so when the signal wins. -/
theorem race_onDrop (h : p.Relents) {panics : Prop} {Q : α → Prop} (attended : p.Attended panics Q)
    (tidy : Program H Unit) (s : State H) : ((p.onDrop tidy).race signal).run s =
      ((p.race signal).bind (tidied tidy)).run s := by
  induction p generalizing s with
  | done a => rfl
  | stop cause =>
    cases cause with
    | panic message => rfl
    | dropped => exact attended.elim
  | wait length signals next ih =>
    simp only [Program.onDrop, race, Program.bind, run_wait]
    have kept := s.timeline.wait_ne_dropped length (signal :: signals)
    revert kept
    cases (s.timeline.wait length (signal :: signals)).1 with
    | dropped => exact fun kept => absurd rfl kept
    | elapsed => exact fun _ => ih _ (h.2 _) (attended _ (by simp)) _
    | fired place reason =>
      intro _
      cases place with
      | zero =>
        simp only [h.1.settle_onDrop, bind_assoc]
        rfl
      | succ place => exact ih _ (h.2 _) (attended _ (by simp)) _
  | ask r next ih => exact ih _ (h _) (attended _) _

end Relents

namespace Prompt

variable {p : Program H α}

theorem bind {f : α → Program H β} (hp : p.Prompt) (hf : ∀ a, (f a).Prompt) :
    (p.bind f).Prompt := by
  induction p with
  | done a => exact hf a
  | stop cause => trivial
  | wait length signals next ih => exact hp.elim
  | ask r next ih => exact fun answer => ih answer (hp answer)

theorem forM {γ : Type} {f : γ → Program H Unit} (h : ∀ x, (f x).Prompt) (xs : List γ) :
    (xs.forM f).Prompt := by
  induction xs with
  | nil => trivial
  | cons x xs ih => exact (h x).bind fun _ => ih

theorem relents (h : p.Prompt) : p.Relents := by
  induction p with
  | done a => trivial
  | stop cause => trivial
  | wait length signals next ih => exact h.elim
  | ask r next ih => exact fun answer => ih answer (h answer)

/-- What waits for nothing is no part of a race. -/
theorem race_bind (h : p.Prompt) (f : α → Program H β) (signal : Signal) :
    (p.bind f).race signal = p.bind fun a => (f a).race signal := by
  induction p with
  | done a => rfl
  | stop cause => rfl
  | wait length signals next ih => exact h.elim
  | ask r next ih =>
    simp only [Program.bind, race]
    congr 1
    funext answer
    exact ih answer (h answer)

end Prompt

end Program

end SessionKeeper
