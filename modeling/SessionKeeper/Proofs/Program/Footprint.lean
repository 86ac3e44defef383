import SessionKeeper.Program.Lemmas
import SessionKeeper.Program.Race

/-!
Footprints: what a program can do to transactions, read off its requests. A program holds the
connections that it was given, opened itself, or borrowed by way of a lease. `p.Confined fp held`
says that `p`, given `held`, touches no connection that it does not hold, records and borrows only
what the footprint `fp` allows, and neither gives out a lease nor ends one. `p.Calm` says that `p`
does not panic, and `p.Gives Q opened` that `Q` holds of its value and the connections that it
opened.

Each is kept by sequence and by a race that drops the program halfway, so it is established once,
for the parts that a program is made of.

Two footprints matter: what a unit of work may do on the connection of its transaction
(`Footprint.unit`), and what a store may do on the connection that it was handed (`Footprint.own`).
-/

namespace SessionKeeper

namespace Event

variable {N : Type}

/-- The connection that an event is about. -/
def connection? : Event N → Option Connection
  | .requested _ _ => none
  | .opened c => some c
  | .began c _ _ _ => some c
  | .running c _ _ => some c
  | .executed c _ _ => c
  | .stated c _ => some c
  | .cleared c => some c
  | .preparing c => some c
  | .restarting c _ _ => some c
  | .committing c => some c
  | .committed c => some c
  | .rollingBack c => some c
  | .note _ => none

/-- What leaves the lists of all connections as they are. -/
def Plain : Event N → Prop
  | .executed _ _ _ => True
  | .note _ => True
  | _ => False

/-- What units of work record. They put statements on the list of a connection and never empty
it. -/
def Use : Event N → Prop
  | .executed _ _ _ => True
  | .stated _ _ => True
  | .note _ => True
  | _ => False

/-- What a store records that starts over. It may empty the list of its connection. -/
def Upkeep : Event N → Prop
  | .executed _ _ _ => True
  | .cleared _ => True
  | .note _ => True
  | _ => False

/-- What is recorded on a transaction's connection between its beginning and its end. -/
def Interim : Event N → Prop
  | .running _ _ _ => True
  | .executed _ _ _ => True
  | .stated _ _ => True
  | .cleared _ => True
  | .preparing _ => True
  | .restarting _ _ _ => True
  | .note _ => True
  | _ => False

theorem Plain.use {e : Event N} (h : e.Plain) : e.Use := by
  cases e <;> first | exact h | trivial

theorem Plain.upkeep {e : Event N} (h : e.Plain) : e.Upkeep := by
  cases e <;> first | exact h | trivial

theorem Use.interim {e : Event N} (h : e.Use) : e.Interim := by
  cases e <;> first | exact h | trivial

theorem Upkeep.interim {e : Event N} (h : e.Upkeep) : e.Interim := by
  cases e <;> first | exact h | trivial

end Event

/-- What a program may do beyond the connections that it holds. -/
structure Footprint (H : Host) where
  /-- The events that it may record. -/
  may : Event H.Note → Prop
  /-- The leases by way of which it may borrow. -/
  lent : Lease → Prop

namespace Footprint

variable {H : Host}

/-- The footprint of units of work. -/
def unit : Footprint H := ⟨Event.Use, fun _ => True⟩

/-- The footprint of what a store does with a connection of its own. -/
def own (may : Event H.Note → Prop) : Footprint H := ⟨may, fun _ => False⟩

/-- `fp` allows nothing that `fp'` does not. -/
structure Le (fp fp' : Footprint H) : Prop where
  may : ∀ e, fp.may e → fp'.may e
  lent : ∀ lease, fp.lent lease → fp'.lent lease

theorem Le.refl (fp : Footprint H) : fp.Le fp := ⟨fun _ h => h, fun _ h => h⟩

theorem own_le {may may' : Event H.Note → Prop} (h : ∀ e, may e → may' e) :
    (own may).Le (own may') := ⟨h, fun _ h => h⟩

end Footprint

namespace Request

variable {H : Host}

/-- The connections that an answer gives hold of. -/
def yields : (r : Request H) → r.Answer → List Connection
  | .connect _, c => [c]
  | .borrow _, c => c.toList
  | _, _ => []

/-- The connections that were opened for an answer. -/
def opens : (r : Request H) → r.Answer → List Connection
  | .connect _, c => [c]
  | _, _ => []

/-- What may be asked for by a program that holds `held`. -/
def Within (fp : Footprint H) (held : List Connection) : Request H → Prop
  | .record e => fp.may e ∧ ∀ c, e.connection? = some c → c ∈ held
  | .openLease _ => False
  | .endLease _ => False
  | .borrow lease => fp.lent lease
  | .leaveUnread c _ => c ∈ held
  | .takeUnread c => c ∈ held
  | _ => True

theorem Within.mono {fp fp' : Footprint H} {held held' : List Connection} {r : Request H}
    (h : r.Within fp held) (le : fp.Le fp') (sub : held ⊆ held') : r.Within fp' held' := by
  cases r with
  | record e => exact ⟨le.may e h.1, fun c hc => sub (h.2 c hc)⟩
  | borrow lease => exact le.lent lease h
  | leaveUnread c error => exact sub h
  | takeUnread c => exact sub h
  | openLease c => exact h
  | endLease lease => exact h
  | _ => trivial

end Request

namespace Program

variable {H : Host} {α β : Type}

/-- The program keeps to the connections that it holds, and to its footprint. -/
def Confined (fp : Footprint H) : List Connection → Program H α → Prop
  | _, .done _ => True
  | _, .stop _ => True
  | held, .wait _ _ next => ∀ wake, Confined fp held (next wake)
  | held, .ask r next =>
    -- What the answer gives hold of may be used from there on.
    r.Within fp held ∧ ∀ answer, Confined fp (r.yields answer ++ held) (next answer)

/-- The program does not panic. -/
def Calm : Program H α → Prop
  | .done _ => True
  | .stop cause => cause = .dropped
  | .wait _ _ next => ∀ wake, (next wake).Calm
  | .ask _ next => ∀ answer, (next answer).Calm

/-- `Q` holds of the connections that the program opened, those of `opened` included, and its
value. -/
def Gives (Q : List Connection → α → Prop) : List Connection → Program H α → Prop
  | opened, .done a => Q opened a
  | _, .stop _ => True
  | opened, .wait _ _ next => ∀ wake, Gives Q opened (next wake)
  | opened, .ask r next => ∀ answer, Gives Q (r.opens answer ++ opened) (next answer)

/-! ## Confined programs -/

namespace Confined

variable {fp fp' : Footprint H} {held held' : List Connection} {p : Program H α}

theorem mono (h : p.Confined fp held) (le : fp.Le fp') (sub : held ⊆ held') :
    p.Confined fp' held' := by
  induction p generalizing held held' with
  | done a => trivial
  | stop cause => trivial
  | wait length signals next ih =>
    intro wake
    exact ih wake (h wake) sub
  | ask r next ih =>
    refine ⟨h.1.mono le sub, fun answer => ih answer (h.2 answer) ?_⟩
    intro c hc
    rcases List.mem_append.mp hc with hc | hc
    · exact List.mem_append_left _ hc
    · exact List.mem_append_right _ (sub hc)

theorem bind {f : α → Program H β} (hp : p.Confined fp held)
    (hf : ∀ a, (f a).Confined fp held) : (p.bind f).Confined fp held := by
  -- What the second part may do does not depend on what the first one got hold of.
  suffices h : ∀ held', held ⊆ held' → p.Confined fp held' → (p.bind f).Confined fp held' from
    h held (List.Subset.refl _) hp
  clear hp
  induction p with
  | done a =>
    intro held' sub _
    exact (hf a).mono (.refl fp) sub
  | stop cause =>
    intro _ _ _
    exact trivial
  | wait length signals next ih =>
    intro held' sub h wake
    exact ih wake held' sub (h wake)
  | ask r next ih =>
    intro held' sub h
    refine ⟨h.1, fun answer => ih answer _ (fun c hc => ?_) (h.2 answer)⟩
    exact List.mem_append_right _ (sub hc)

theorem step {w : Work H α} {f : α → Work H β} (hw : w.run.Confined fp held)
    (hf : ∀ a, (f a).run.Confined fp held) : (w >>= f).run.Confined fp held := by
  rw [ExceptT.run_bind]
  apply hw.bind
  intro r
  cases r with
  | error failure => trivial
  | ok a => exact hf a

theorem settle (h : p.Confined fp held) : p.settle.Confined fp held := by
  induction p generalizing held with
  | done a => trivial
  | stop cause => cases cause <;> trivial
  | wait length signals next ih =>
    intro wake
    exact ih wake (h wake)
  | ask r next ih => exact ⟨h.1, fun answer => ih answer (h.2 answer)⟩

theorem race (signal : Signal) (h : p.Confined fp held) : (p.race signal).Confined fp held := by
  induction p generalizing held with
  | done a => trivial
  | stop cause => trivial
  | wait length signals next ih =>
    simp only [Program.race, Confined]
    intro wake
    cases wake with
    | elapsed => exact ih _ (h _)
    | dropped => exact ih _ (h _)
    | fired place reason =>
      -- The signal of the race stands first; when it fires, the program is dropped and settles.
      cases place with
      | zero => exact (settle (h .dropped)).bind fun _ => trivial
      | succ place => exact ih _ (h _)
  | ask r next ih => exact ⟨h.1, fun answer => ih answer (h.2 answer)⟩

theorem onDrop {tidy : Program H Unit} (h : p.Confined fp held) (ht : tidy.Confined fp held) :
    (p.onDrop tidy).Confined fp held := by
  induction p generalizing held with
  | done a => trivial
  | stop cause =>
    cases cause with
    | panic message => trivial
    | dropped => exact ht.bind fun _ => trivial
  | wait length signals next ih =>
    intro wake
    exact ih wake (h wake) ht
  | ask r next ih =>
    exact ⟨h.1, fun answer => ih answer (h.2 answer)
      (ht.mono (.refl fp) (List.subset_append_right _ _))⟩

end Confined

/-! ## Calm programs -/

namespace Calm

variable {p : Program H α}

theorem bind {f : α → Program H β} (hp : p.Calm) (hf : ∀ a, (f a).Calm) : (p.bind f).Calm := by
  induction p with
  | done a => exact hf a
  | stop cause => exact hp
  | wait length signals next ih =>
    intro wake
    exact ih wake (hp wake)
  | ask r next ih =>
    intro answer
    exact ih answer (hp answer)

theorem step {w : Work H α} {f : α → Work H β} (hw : w.run.Calm) (hf : ∀ a, (f a).run.Calm) :
    (w >>= f).run.Calm := by
  rw [ExceptT.run_bind]
  apply hw.bind
  intro r
  cases r with
  | error failure => trivial
  | ok a => exact hf a

theorem settle (h : p.Calm) : p.settle.Calm := by
  induction p with
  | done a => trivial
  | stop cause =>
    cases h
    trivial
  | wait length signals next ih =>
    intro wake
    exact ih wake (h wake)
  | ask r next ih =>
    intro answer
    exact ih answer (h answer)

theorem race (signal : Signal) (h : p.Calm) : (p.race signal).Calm := by
  induction p with
  | done a => trivial
  | stop cause => exact h
  | wait length signals next ih =>
    simp only [Program.race, Calm]
    intro wake
    cases wake with
    | elapsed => exact ih _ (h _)
    | dropped => exact ih _ (h _)
    | fired place reason =>
      cases place with
      | zero => exact (settle (h .dropped)).bind fun _ => trivial
      | succ place => exact ih _ (h _)
  | ask r next ih =>
    intro answer
    exact ih answer (h answer)

theorem catchPanic (p : Program H α) : p.catchPanic.Calm := by
  induction p with
  | done a => trivial
  | stop cause => cases cause <;> trivial
  | wait length signals next ih =>
    intro wake
    exact ih wake
  | ask r next ih =>
    intro answer
    exact ih answer

theorem onDrop {tidy : Program H Unit} (h : p.Calm) (ht : tidy.Calm) : (p.onDrop tidy).Calm := by
  induction p with
  | done a => trivial
  | stop cause =>
    cases h
    exact ht.bind fun _ => rfl
  | wait length signals next ih =>
    intro wake
    exact ih wake (h wake)
  | ask r next ih =>
    intro answer
    exact ih answer (h answer)

/-- A calm program stops only where it is dropped. -/
theorem run_error (h : p.Calm) {s s' : State H} {cause : Stop}
    (ran : p.run s = (.error cause, s')) : cause = .dropped := by
  induction p generalizing s with
  | done a => cases ran
  | stop cause =>
    cases h
    cases ran
    rfl
  | wait length signals next ih => exact ih _ (h _) ran
  | ask r next ih => exact ih _ (h _) ran

/-- A calm program that was driven to its end gave a value. -/
theorem run_ok (h : p.Calm) {s s' : State H} {outcome : Except Stop α}
    (ran : p.run s = (outcome, s')) (completed : outcome ≠ .error .dropped) :
    ∃ a, outcome = .ok a := by
  cases outcome with
  | ok a => exact ⟨a, rfl⟩
  | error cause => exact absurd (congrArg Except.error (h.run_error ran)) completed

/-- A sequence that was driven to its end ran both parts if the first one is calm. -/
theorem run_bind {f : α → Program H β} (h : p.Calm) {s s' : State H} {outcome : Except Stop β}
    (ran : (p.bind f).run s = (outcome, s')) (completed : outcome ≠ .error .dropped) :
    ∃ a s₁, p.run s = (.ok a, s₁) ∧ (f a).run s₁ = (outcome, s') := by
  rcases Program.run_bind_inv ran with both | ⟨cause, first, rfl⟩
  · exact both
  · obtain ⟨a, ha⟩ := h.run_ok first (fun he => completed (by cases he; rfl))
    cases ha

end Calm

/-! ## What a program gives -/

namespace Gives

variable {Q : List Connection → α → Prop} {opened : List Connection} {p : Program H α}

theorem bind {R : List Connection → β → Prop} {f : α → Program H β} (hp : p.Gives Q opened)
    (hf : ∀ opened a, Q opened a → (f a).Gives R opened) : (p.bind f).Gives R opened := by
  induction p generalizing opened with
  | done a => exact hf _ _ hp
  | stop cause => trivial
  | wait length signals next ih =>
    intro wake
    exact ih wake (hp wake)
  | ask r next ih =>
    intro answer
    exact ih answer (hp answer)

theorem of_forall (h : ∀ opened a, Q opened a) : p.Gives Q opened := by
  induction p generalizing opened with
  | done a => exact h _ _
  | stop cause => trivial
  | wait length signals next ih =>
    intro wake
    exact ih wake
  | ask r next ih =>
    intro answer
    exact ih answer

theorem of_mem {c : Connection} (h : c ∈ opened) : p.Gives (fun opened _ => c ∈ opened) opened := by
  induction p generalizing opened with
  | done a => exact h
  | stop cause => trivial
  | wait length signals next ih =>
    intro wake
    exact ih wake h
  | ask r next ih =>
    intro answer
    exact ih answer (List.mem_append_right _ h)

theorem connect {store : String} {f : Connection → Program H α}
    (hf : ∀ c, (f c).Gives Q (c :: opened)) : ((Program.connect store).bind f).Gives Q opened := hf

/-- A race gives what the program gives, or the reason for which it was dropped. -/
theorem race (signal : Signal) (h : p.Gives Q opened) :
    (p.race signal).Gives (fun opened r => ∀ a, r = .ok a → Q opened a) opened := by
  induction p generalizing opened with
  | done a =>
    intro b hb
    cases hb
    exact h
  | stop cause => trivial
  | wait length signals next ih =>
    simp only [Program.race, Gives]
    intro wake
    cases wake with
    | elapsed => exact ih _ (h _)
    | dropped => exact ih _ (h _)
    | fired place reason =>
      cases place with
      | zero =>
        -- Whatever the program opens while it settles, the answer is the reason.
        refine (of_forall (Q := fun _ _ => True) fun _ _ => trivial).bind fun _ _ _ => ?_
        intro a ha
        cases ha
      | succ place => exact ih _ (h _)
  | ask r next ih =>
    intro answer
    exact ih answer (h answer)

end Gives

end Program

/-! ## Programs raced against a context -/

namespace Context

variable {H : Host} {κ : Type} {V : κ → Type} {α : Type}

/-- A guarded program is not started under a context that is done, and raced otherwise. -/
theorem guard_run (ctx : Context V) (w : Work H α) :
    (ctx.guard w).run = Program.bind ctx.status fun
      | some reason => .done (.error (.canceled reason))
      | none => (w.run.race ctx.signal).bind fun
        | .ok result => .done result
        | .error reason => .done (.error (.canceled reason)) := by
  unfold guard run
  simp only [ExceptT.run_bind, ExceptT.run_mk, Program.bind_eq_bind, Program.bind_assoc,
    Program.pure_eq_done]
  congr 1
  funext status
  cases status with
  | some reason => rfl
  | none =>
    simp only [Program.bind_assoc]
    congr 1
    funext raced
    rcases raced with reason | (failure | a) <;> rfl

theorem guard_confined {fp : Footprint H} {held : List Connection} (ctx : Context V)
    {w : Work H α} (h : w.run.Confined fp held) : (ctx.guard w).run.Confined fp held := by
  rw [guard_run]
  refine ⟨trivial, ?_⟩
  intro status
  cases status with
  | some reason => trivial
  | none =>
    apply ((h.race ctx.signal).mono (.refl fp) (List.subset_append_right _ _)).bind
    intro r
    cases r <;> trivial

theorem guard_calm (ctx : Context V) {w : Work H α} (h : w.run.Calm) : (ctx.guard w).run.Calm := by
  rw [guard_run]
  intro status
  cases status with
  | some reason => trivial
  | none =>
    apply (h.race ctx.signal).bind
    intro r
    cases r <;> trivial

theorem guard_gives {Q : List Connection → α → Prop} {opened : List Connection} (ctx : Context V)
    {w : Work H α} (h : w.run.Gives (fun opened r => ∀ a, r = .ok a → Q opened a) opened) :
    (ctx.guard w).run.Gives (fun opened r => ∀ a, r = .ok a → Q opened a) opened := by
  rw [guard_run]
  intro status
  cases status with
  | some reason =>
    intro a ha
    cases ha
  | none =>
    apply (h.race ctx.signal).bind
    intro opened r hr
    cases r with
    | ok result => exact hr result rfl
    | error reason =>
      intro a ha
      cases ha

end Context

end SessionKeeper
