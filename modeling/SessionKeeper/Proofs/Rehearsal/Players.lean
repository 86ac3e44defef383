import SessionKeeper.Proofs.Transaction.Conduct
import SessionKeeper.Proofs.Transaction.Statements
import SessionKeeper.Rehearsal.Units

/-!
Rehearsals keep the rules. A rehearsal is a run of the transactional core against stores that only
play their parts: each operation takes its next outcome from a script, sleeps, cancels, fails or
asks for a restart as that says, and does nothing else. Such stores are lawful and tidy whatever
their parts are (`Player.store_lawful`, `Player.store_tidy`), and the units of work of a rehearsal,
which count how often they are invoked and add statements to the list of their transaction, conduct
themselves (`invoke_conduct`, `putStatement_conduct`). So what is proved of all lawful stores and of
all units of work that conduct themselves can be seen at work in a rehearsal.

Correspondence: `ScriptedBackend` ↔ `Player.store`. A restart that is part of the script empties the
list of the connection before the unit of work runs again, as there.
-/

namespace SessionKeeper.Rehearsal

variable {V : Type}

/-! ## Stores that play parts -/

section Stores

variable {may : Event (Note V) → Prop} {held : List Connection}

theorem play_tame (part : Outcome) : (play (V := V) part).run.Tame may held := by
  obtain ⟨sleep, cancel, failure, again⟩ := part
  have canceling : ∀ r : Except Failure Unit, (Program.get.bind fun stage : Stage =>
      (stage.handle.forM Program.cancel).bind fun _ => .done r : Program (host V) _).Tame
        may held := by
    intro r
    apply (Program.Tame.ask .get trivial).bind
    intro stage
    exact (Program.Tame.forM (fun scope => .ask (.cancel scope) trivial) _).bind fun _ => .done r
  have awake : (play (V := V) ⟨none, cancel, failure, again⟩).run.Tame may held := by
    cases cancel with
    | false => cases failure <;> exact .done _
    | true => cases failure <;> exact canceling _
  cases sleep with
  | none => exact awake
  | some length => exact (Program.Tame.sleep length).bind fun _ => awake

theorem nextPart_tame (store : String) (cue : Cue) :
    (nextPart (V := V) store cue).Tame may held := .modifyGet _

theorem Player.act_tame (p : Player) (cue : Cue) : (p.act (V := V) cue).run.Tame may held :=
  (nextPart_tame p.name cue).bind play_tame

theorem Player.restart_tame (p : Player) (c : Connection) :
    (p.restart (V := V) c).run.Tame Event.Upkeep [c] := by
  unfold restart
  refine (nextPart_tame _ _).bind fun part => (play_tame part).bind ?_
  intro played
  cases played with
  | error failure => exact .done _
  | ok done =>
    cases part.again with
    | false => exact .done _
    | true =>
      have cleared : (Program.record (.cleared c) : Program (host V) Unit).Tame
          Event.Upkeep [c] := by
        refine .ask _ ⟨trivial, ?_⟩
        rintro _ ⟨⟩
        exact List.mem_cons_self
      exact cleared.bind fun _ => .done _

theorem Player.start_tame (p : Player) (mode : Mode) :
    (p.store.start mode : Work (host V) Connection).run.Tame Event.Plain [] := by
  apply (p.act_tame .start).bind
  intro played
  cases played with
  | error failure => exact .done _
  | ok done => exact .connect fun c => .done _

theorem Player.start_opens (p : Player) (mode : Mode) :
    (p.store.start mode : Work (host V) Connection).run.Gives
      (fun opened r => ∀ c, r = .ok c → c ∈ opened) [] := by
  refine (Program.Gives.of_forall (Q := fun _ _ => True) fun _ _ => trivial).bind
    fun opened played _ => ?_
  cases played with
  | error failure =>
    intro _
    exact nofun
  | ok done =>
    refine .connect ?_
    intro c
    rintro _ ⟨⟩
    exact List.mem_cons_self

theorem Player.store_lawful (p : Player) : (p.store : Store (host V)).Lawful where
  start := p.start_tame
  start_opens := p.start_opens
  prepare _ _ := p.act_tame .prepare
  restart _ c _ _ := p.restart_tame c
  commit _ := p.act_tame .commit
  rollback _ := p.act_tame .rollback

end Stores

/-! ## Units of work that follow scripts -/

section Scripts

variable {held : List Connection}

theorem invoke_conduct (store : String) (tally : Nat) {runs : List (UnitOfWork (host V) V)}
    (idle : V) (h : ∀ run ∈ runs, ∀ inner, Conduct False inner held (run inner).run)
    (ctx : RequestContext) : Conduct False ctx held (invoke store tally runs idle ctx).run := by
  have counting : (countUp (V := V) tally).Confined .unit held :=
    ⟨trivial, fun _ => ⟨trivial, fun _ => trivial⟩⟩
  have invoked : ∀ reason, (Program.note (.invoked store reason) : Program (host V) Unit).Confined
      .unit held := fun reason => ⟨⟨trivial, nofun⟩, fun _ => trivial⟩
  unfold invoke
  refine .bind (.confined counting) fun n => .bind (.confined ⟨trivial, fun _ => trivial⟩)
    fun reason => .bind (.confined (invoked reason)) fun _ => ?_
  split
  · rename_i run found
    exact h run (List.mem_of_getElem? found) ctx
  · exact .confined trivial

end Scripts

end SessionKeeper.Rehearsal
