import SessionKeeper.Proofs.Failure.Signature
import SessionKeeper.Proofs.Sql.RestartProtocol
import SessionKeeper.Proofs.Transaction.Terminator

/-!
What CockroachDB rewinds for. The decision looks at the mode, at the number of restarts that there
were, and for one error code anywhere behind the failure (`wantsRestart_iff`). It does not look at
the kind of the failure, as a `ConflictRule` does, so a serialization failure shows through every
failure that wraps it.

A failure that is not rewound ends its attempt: nothing is sent after it but the end of the
transaction (`Store.Takes.rolled_back`).

Correspondence: `wants_restart` ↔ `wantsRestart`, `restart` ↔ `Cockroach.restart`. That an
application's failure is never repeated holds where it wraps no serialization failure
(`withheld_failure_rolled_back`); `withheld_failure_rewound` is one that is.
-/

namespace SessionKeeper

variable {H : Host} {α : Type}

namespace Store.Takes

variable {store : Store H} {server : Server H} {mode : Mode} {work : UnitOfWork H α}
  {ctx : RequestContext} {held : List Connection} {n : Nat} {s s' : State H}
  {outcome : Except Stop (Except Failure α)} {t : Transaction H α}

/-- If a round fails so that the store does not start over, its run is the last one. There is one
rollback, it is all that is sent from then on, and if it succeeds the failure is that of the
attempt. -/
theorem rolled_back (takes : store.Takes ctx mode work n s t outcome s') (lawful : store.Lawful)
    (ends : store.EndsBy server) (keeps : ∀ inner, (work inner).run.Keeps held) (sound : s.Sound)
    (known : ∀ d ∈ held, d ∈ s.connections) {r : WorkRun H α} (mem : r ∈ t.runs)
    {failure : Failure} {s₁ : State H} (fails : store.FailsTo mode t.connection r failure s₁)
    (declines : store.DeclinesAfter mode failure r.restarts) :
    t.runs.getLast? = some r ∧ terminators t.connection s'.trace = [.rollingBack t.connection] ∧
      (∃ unread finish, Server.EndsWith Server.rollingBack unread t.answer finish ∧
        sent t.connection s'.trace = sent t.connection s₁.trace ++ finish) ∧
      (t.answer = .ok () → outcome = .ok (.error failure)) := by
  obtain ⟨last, failed, asked, trace, only⟩ := takes.rounds.last_of_declined lawful keeps
    (takes.underway lawful sound known) r mem failure s₁ fails declines
  have nothing : sent t.connection asked = [] := by
    apply sent_eq_nil
    intro e he
    rw [only e he]
    rfl
  have once := takes.terminators_eq lawful keeps sound known
  obtain ⟨finish, ending, hfinish⟩ := takes.finish_sent ends
  rw [failed] at once ending
  refine ⟨last, once, ⟨_, finish, ending, ?_⟩, fun rolledBack => ?_⟩
  · rw [hfinish, trace, sent_append, nothing, List.append_nil]
  · rw [takes.outcome, failed, rolledBack]
    rfl

end Store.Takes

namespace Cockroach

open Store

variable {server : Server H} {settings : Settings} {mode : Mode} {failure : Failure}
  {restarts : Nat}

/-- A transaction is rewound just if it writes, restarts are left, and a serialization failure of
the server is somewhere behind the failure. -/
theorem wantsRestart_iff : wantsRestart settings mode failure restarts = true ↔
    mode = .readWrite ∧ restarts < settings.maxRestarts ∧ Serializes failure := by
  simp [wantsRestart, Serializes, and_assoc]

theorem wantsRestart_eq_false_iff : wantsRestart settings mode failure restarts = false ↔
    mode = .readOnly ∨ settings.maxRestarts ≤ restarts ∨ ¬ Serializes failure := by
  rw [← Bool.not_eq_true, wantsRestart_iff, not_and_or, not_and_or, Nat.not_lt]
  cases mode <;> simp

theorem declinesAfter (declined : wantsRestart settings mode failure restarts = false) :
    (store server settings).DeclinesAfter mode failure restarts := by
  intro c
  change (restart server settings mode c failure restarts).run = _
  rw [restart, declined]
  rfl

/-- A failure that is meant to end a call is not rewound for, unless the transaction writes, restarts
are left, and a serialization failure of the server is behind it. An attempt in which the unit of
work, or the release of the savepoint, fails with one that is not rewound for does not run the unit
of work again. It is rolled back once, and with nothing else; and if that succeeds the failure is
the attempt's. -/
theorem withheld_failure_rolled_back (server : Server H) (settings : Settings)
    (ctx : RequestContext) (mode : Mode) (work : UnitOfWork H α) (n : Nat) (s s' : State H)
    (outcome : Except Stop (Except Failure α)) {held : List Connection}
    (keeps : ∀ inner, (work inner).run.Keeps held) (sound : s.Sound)
    (known : ∀ d ∈ held, d ∈ s.connections)
    (ran : ((store server settings).attempt ctx mode work n).run.run s = (outcome, s'))
    (completed : outcome ≠ .error .dropped) :
    (∀ (failure : Failure) (restarts : Nat), failure.Withheld →
      (wantsRestart settings mode failure restarts = false ↔
        mode = .readOnly ∨ settings.maxRestarts ≤ restarts ∨ ¬ Serializes failure)) ∧
    ((∃ failure, (ctx.guard ((store server settings).request mode)).run.run s =
        (.ok (.error failure), s') ∧ outcome = .ok (.error failure)) ∨
      ∃ t, (store server settings).Takes ctx mode work n s t outcome s' ∧
        ∀ r ∈ t.runs, ∀ failure s₁,
          (store server settings).FailsTo mode t.connection r failure s₁ → failure.Withheld →
          mode = .readOnly ∨ settings.maxRestarts ≤ r.restarts ∨ ¬ Serializes failure →
          t.runs.getLast? = some r ∧
          terminators t.connection s'.trace = [.rollingBack t.connection] ∧
          (∃ unread finish, Server.EndsWith Server.rollingBack unread t.answer finish ∧
            sent t.connection s'.trace = sent t.connection s₁.trace ++ finish) ∧
          (t.answer = .ok () → outcome = .ok (.error failure))) := by
  refine ⟨fun failure restarts _ => wantsRestart_eq_false_iff, ?_⟩
  have lawful := store_lawful server settings
  rcases attempt_takes lawful keeps sound known ran completed with refused | ⟨t, takes⟩
  · exact .inl refused
  · refine .inr ⟨t, takes, fun r mem failure s₁ fails _ declined => ?_⟩
    exact takes.rolled_back lawful (store_endsBy server settings) keeps sound known mem fails
      (declinesAfter (wantsRestart_eq_false_iff.mpr declined))

/-- A unit of work that is refused by its own logic is run once and rolled back, and reports just
that. -/
theorem withheld_failure_rolled_back_application :
    let server : Server ⟨Unit, Unit⟩ := ⟨fun _ _ host => ({ reply := .ok {} }, host)⟩
    let failure := Failure.application (.foreign "insufficient funds") []
    let work : UnitOfWork ⟨Unit, Unit⟩ Unit := fun _ => throw failure
    let s : State ⟨Unit, Unit⟩ := { host := () }
    let ran := ((store server {}).attempt .background .readWrite work 1).run.run s
    failure.Withheld ∧ ¬ Serializes failure ∧ ran.1 = .ok (.error failure) ∧
    ∃ t r, (store server {}).Takes .background .readWrite work 1 s t ran.1 ran.2 ∧
      r.verdict = .ok (.error failure) ∧ t.runs.getLast? = some r ∧
      terminators t.connection ran.2.trace = [.rollingBack t.connection] := by
  intro server failure work s ran
  have gave : ran.1 = .ok (.error failure) := by decide +kernel
  have given : (((.background : RequestContext).guard
      ((store server {}).request .readWrite)).run.run s).1 = .ok (.ok ⟨"cockroach", 1⟩) := by
    decide +kernel
  have keeps : ∀ inner, (work inner).run.Keeps [] := fun _ => .of_confined trivial
  have sound : s.Sound := State.sound_of_empty rfl rfl rfl
  have known : ∀ d ∈ ([] : List Connection), d ∈ s.connections := by simp
  have withheld : failure.Withheld := .inr (.inr (.inl rfl))
  have other : ¬ Serializes failure := by
    rintro ⟨e, mem, -⟩
    cases mem
  refine ⟨withheld, other, gave, ?_⟩
  obtain ⟨-, ⟨refusal, refused, -⟩ | ⟨t, takes, final⟩⟩ := withheld_failure_rolled_back server {}
    .background .readWrite work 1 s ran.2 ran.1 keeps sound known rfl (by rw [gave]; simp)
  · rw [refused] at given
    cases given
  · have lawful := store_lawful server {}
    obtain ⟨_, r, mem, last⟩ := takes.rounds.lastRun lawful keeps (takes.underway lawful sound known)
    obtain ⟨restarts, runs⟩ := last.runs
    have verdict : r.verdict = .ok (.error failure) :=
      (Except.ok.inj (congrArg Prod.fst runs.ran)).symm
    obtain ⟨only, once, -⟩ :=
      final r mem failure r.after (.worked verdict) withheld (.inr (.inr other))
    exact ⟨t, r, takes, verdict, only, once⟩

/-- A transaction is rewound for an error of the application that wraps a serialization failure. -/
theorem withheld_failure_rewound :
    ¬ ∀ (settings : Settings) (mode : Mode) (failure : Failure) (restarts : Nat),
      failure.Withheld → wantsRestart settings mode failure restarts = false := by
  intro never
  let serialization : DriverFailure := .database (.state (some "40001") "pg says no")
  have withheld := never {} .readWrite ⟨.application, "insufficient funds", serialization.chain⟩ 0
    (.inr (.inr (.inl rfl)))
  exact absurd withheld (by decide)

end Cockroach

end SessionKeeper
