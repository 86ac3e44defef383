import SessionKeeper.Proofs.Transaction.Attended
import SessionKeeper.Proofs.Transaction.Terminator

/-!
What an attempt answers. Several of its parts can fail one after the other: the beginning, the unit
of work, the preparation of the commit, the restart, the pause after it, and the commit or the
rollback. The rounds come to an ending that is told from the last run of the unit of work
(`Store.Closes`), and the ending and the answer to the commit or rollback make the outcome
(`Reports`). Both are functions of what the parts did, so which failure wins is settled
(`Store.Closes.unique`).

Correspondence: `Store.Closes` has a constructor for each way out of the loop of `run_tx`, and
`Reports` a field for each arm behind it: committed, the commit failed, rolled back, the rollback
failed, and the panic that goes on after its rollback. The messages are those of the failures there.

Assumed are a lawful store, a unit of work that keeps to what is its own, and surroundings in order.
-/

namespace SessionKeeper

variable {H : Host} {α : Type}

/-- What is reported of an attempt whose rounds have ended so, if the commit or rollback was answered
with `answer`. -/
structure Reports (ending : Ending α) (answer : Except Failure Unit)
    (outcome : Except Stop (Except Failure α)) : Prop where
  /-- There is a value just if the commit succeeds. -/
  value : ∀ value, outcome = .ok (.ok value) ↔ ending = .succeeded value ∧ answer = .ok ()
  /-- A commit that fails is behind the failure, which is a conflict if the commit's is one. -/
  uncommitted : ∀ value cause, ending = .succeeded value → answer = .error cause →
    ∃ failure, outcome = .ok (.error failure) ∧ failure.causes = cause.chain ∧
      (cause.is .conflict = true → failure.kind = .conflict) ∧
      (cause.is .conflict = false → failure.kind = .internal)
  /-- What the rounds failed with is reported as it is. -/
  failed : ∀ failure, ending = .failed failure → answer = .ok () → outcome = .ok (.error failure)
  /-- A rollback that fails is behind the failure, whatever the rounds failed with. -/
  unrolled : ∀ failure cause, ending = .failed failure → answer = .error cause →
    ∃ reported, outcome = .ok (.error reported) ∧ reported.kind = .internal ∧
      reported.causes = cause.chain
  /-- A panic goes on as it was, and no rollback that fails stands in its way. -/
  panicked : ∀ message, ending = .panicked message → outcome = .error (.panic message)

theorem Ending.reports (ending : Ending α) (answer : Except Failure Unit) :
    Reports ending answer (ending.result answer) where
  value value := by
    cases ending <;> cases answer <;> simp [result]
  uncommitted value cause := by
    rintro rfl rfl
    refine ⟨_, rfl, rfl, fun conflict => ?_, fun other => ?_⟩
    · simp [Failure.wrap, conflict]
    · simp [Failure.wrap, other]
  failed failure := by
    rintro rfl rfl
    rfl
  unrolled failure cause := by
    rintro rfl rfl
    exact ⟨_, rfl, rfl, rfl⟩
  panicked message := by
    rintro rfl
    rfl

namespace Store

variable {store : Store H} {mode : Mode} {handle : Handle} {c : Connection}
  {work : UnitOfWork H α} {ctx : RequestContext} {held : List Connection} {restarts n : Nat}
  {s s' : State H}

/-! ## The beginning -/

/-- No connection is given: the context is done or gets done first, or else the beginning fails. -/
inductive RefusedWith (store : Store H) (ctx : RequestContext) (mode : Mode) (s : State H) :
    Failure → State H → Prop
  | done {reason : Cancellation} : s.timeline.status ctx.signal = some reason →
      RefusedWith store ctx mode s (.canceled reason) s
  | overtaken {reason : Cancellation} {s' : State H} : s.timeline.status ctx.signal = none →
      ((store.request mode).run.race ctx.signal).run s = (.ok (.error reason), s') →
      RefusedWith store ctx mode s (.canceled reason) s'
  | failed {failure : Failure} {s' : State H} : s.timeline.status ctx.signal = none →
      ((store.request mode).run.race ctx.signal).run s = (.ok (.ok (.error failure)), s') →
      RefusedWith store ctx mode s failure s'

theorem refusedWith_iff {failure : Failure} : store.RefusedWith ctx mode s failure s' ↔
    (ctx.guard (store.request mode)).run.run s = (.ok (.error failure), s') := by
  rw [Context.guard_run, Context.status, Program.run_bind_ok (Program.run_status s _)]
  cases status : s.timeline.status ctx.signal with
  | some reason =>
    constructor
    · intro refuses
      cases refuses with
      | done found =>
        cases status.symm.trans found
        rfl
      | overtaken live => cases status.symm.trans live
      | failed live => cases status.symm.trans live
    · intro ran
      cases ran
      exact .done status
  | none =>
    constructor
    · intro refuses
      cases refuses with
      | done found => cases status.symm.trans found
      | overtaken live racing => exact Program.run_bind_ok racing _
      | failed live racing => exact Program.run_bind_ok racing _
    · intro ran
      obtain ⟨raced, s₁, racing, ran⟩ := Program.run_bind_ok_inv ran
      cases raced with
      | error reason =>
        cases ran
        exact .overtaken status racing
      | ok answer =>
        cases ran
        exact .failed status racing

/-! ## The end of the rounds -/

/-- With which failure the rounds end after one that failed with `failure`, in `s` and after
`restarts` restarts: the context is done, the store declines or is unable to start over, or the
context gets done in the pause. -/
inductive GivesUp (store : Store H) (mode : Mode) (handle : Handle) (ctx : RequestContext)
    (c : Connection) (failure : Failure) (restarts : Nat) (s : State H) : Failure → Prop
  | interrupted {reason : Cancellation} : s.timeline.status ctx.signal = some reason →
      GivesUp store mode handle ctx c failure restarts s failure
  | declined {s₁ : State H} : s.timeline.status ctx.signal = none →
      (store.restart mode c failure restarts).run.run (s.noted (.restarting c restarts failure)) =
        (.ok (.ok false), s₁) →
      GivesUp store mode handle ctx c failure restarts s failure
  | unable {cause : Failure} {s₁ : State H} : s.timeline.status ctx.signal = none →
      (store.restart mode c failure restarts).run.run (s.noted (.restarting c restarts failure)) =
        (.ok (.error cause), s₁) →
      GivesUp store mode handle ctx c failure restarts s
        (.internal ("restart failed after: " ++ failure.text) cause)
  | cut {reason : Cancellation} {s₁ s₂ : State H} : s.timeline.status ctx.signal = none →
      (store.restart mode c failure restarts).run.run (s.noted (.restarting c restarts failure)) =
        (.ok (.ok true), s₁) →
      (store.rest handle ctx failure (restarts + 1)).run s₁ = (.ok (some reason), s₂) →
      GivesUp store mode handle ctx c failure restarts s (.canceledDuring reason failure)

theorem StartOverTo.givesUp {failure final : Failure}
    (account : StartOverTo store mode handle ctx failure restarts s (.error final) s')
    (leads : s.connectionOf handle.lease = some c) :
    store.GivesUp mode handle ctx c failure restarts s final := by
  cases account with
  | interrupted status => exact .interrupted status
  | unable status restart =>
    cases restart with
    | escaped hlease => cases leads.symm.trans hlease
    | refused hlease ran =>
      obtain rfl := Option.some.inj (leads.symm.trans hlease)
      exact .unable status ran
  | declined status restart =>
    cases restart with
    | answered hlease ran =>
      obtain rfl := Option.some.inj (leads.symm.trans hlease)
      exact .declined status ran
  | cut status restart rested =>
    cases restart with
    | answered hlease ran =>
      obtain rfl := Option.some.inj (leads.symm.trans hlease)
      exact .cut status ran rested

theorem GivesUp.unique {failure final final' : Failure}
    (h : store.GivesUp mode handle ctx c failure restarts s final)
    (h' : store.GivesUp mode handle ctx c failure restarts s final') : final = final' := by
  cases h with
  | interrupted status =>
    cases h' with
    | interrupted status' => rfl
    | declined status' => cases status.symm.trans status'
    | unable status' => cases status.symm.trans status'
    | cut status' => cases status.symm.trans status'
  | declined status ran =>
    cases h' with
    | interrupted status' => cases status.symm.trans status'
    | declined status' ran' => rfl
    | unable status' ran' => cases ran.symm.trans ran'
    | cut status' ran' => cases ran.symm.trans ran'
  | unable status ran =>
    cases h' with
    | interrupted status' => cases status.symm.trans status'
    | declined status' ran' => cases ran.symm.trans ran'
    | unable status' ran' =>
      cases ran.symm.trans ran'
      rfl
    | cut status' ran' => cases ran.symm.trans ran'
  | cut status ran rested =>
    cases h' with
    | interrupted status' => cases status.symm.trans status'
    | declined status' ran' => cases ran.symm.trans ran'
    | unable status' ran' => cases ran.symm.trans ran'
    | cut status' ran' rested' =>
      cases ran.symm.trans ran'
      cases rested.symm.trans rested'
      rfl

theorem FailsTo.unique {r : WorkRun H α} {failure failure' : Failure} {s₁ s₂ : State H}
    (h : store.FailsTo mode c r failure s₁) (h' : store.FailsTo mode c r failure' s₂) :
    failure = failure' ∧ s₁ = s₂ := by
  cases h with
  | worked verdict =>
    cases h' with
    | worked verdict' =>
      cases verdict.symm.trans verdict'
      exact ⟨rfl, rfl⟩
    | prepared verdict' ran' => cases verdict.symm.trans verdict'
  | prepared verdict ran =>
    cases h' with
    | worked verdict' => cases verdict.symm.trans verdict'
    | prepared verdict' ran' =>
      cases ran.symm.trans ran'
      exact ⟨rfl, rfl⟩

/-- How the rounds end with the run `r`. -/
inductive Closes (store : Store H) (mode : Mode) (handle : Handle) (ctx : RequestContext)
    (c : Connection) (r : WorkRun H α) : Ending α → Prop
  | succeeded {value : α} {s₁ : State H} : r.verdict = .ok (.ok value) →
      (store.prepare mode c).run.run (r.after.noted (.preparing c)) = (.ok (.ok ()), s₁) →
      Closes store mode handle ctx c r (.succeeded value)
  | failed {failure final : Failure} {s₁ : State H} : store.FailsTo mode c r failure s₁ →
      store.GivesUp mode handle ctx c failure r.restarts s₁ final →
      Closes store mode handle ctx c r (.failed final)
  | panicked {message : String} : r.verdict = .error message →
      Closes store mode handle ctx c r (.panicked message)

theorem Closes.unique {r : WorkRun H α} {ending ending' : Ending α}
    (h : store.Closes mode handle ctx c r ending) (h' : store.Closes mode handle ctx c r ending') :
    ending = ending' := by
  -- A round that succeeds or panics does not fail.
  have apart : ∀ {failure : Failure} {s₁ s₂ : State H} {value : α},
      store.FailsTo mode c r failure s₁ → r.verdict = .ok (.ok value) →
      (store.prepare mode c).run.run (r.after.noted (.preparing c)) ≠ (.ok (.ok ()), s₂) := by
    intro failure s₁ s₂ value fails verdict ran
    cases fails with
    | worked failing => cases verdict.symm.trans failing
    | prepared _ refused => cases ran.symm.trans refused
  have calm : ∀ {failure : Failure} {s₁ : State H} {message : String},
      store.FailsTo mode c r failure s₁ → r.verdict ≠ .error message := by
    intro failure s₁ message fails verdict
    cases fails with
    | worked failing => cases verdict.symm.trans failing
    | prepared succeeding => cases verdict.symm.trans succeeding
  cases h with
  | succeeded verdict ran =>
    cases h' with
    | succeeded verdict' ran' =>
      cases verdict.symm.trans verdict'
      rfl
    | failed fails' => exact absurd ran (apart fails' verdict)
    | panicked verdict' => cases verdict.symm.trans verdict'
  | failed fails gives =>
    cases h' with
    | succeeded verdict' ran' => exact absurd ran' (apart fails verdict')
    | failed fails' gives' =>
      obtain ⟨rfl, rfl⟩ := fails.unique fails'
      rw [gives.unique gives']
    | panicked verdict' => exact absurd verdict' (calm fails)
  | panicked verdict =>
    cases h' with
    | succeeded verdict' ran' => cases verdict.symm.trans verdict'
    | failed fails' => exact absurd verdict (calm fails')
    | panicked verdict' =>
      cases verdict.symm.trans verdict'
      rfl

/-- The last run of the rounds tells their ending. -/
theorem RoundsTo.closes (lawful : store.Lawful) (keeps : ∀ inner, (work inner).run.Keeps held)
    {rs : List (WorkRun H α)} {ending : Ending α}
    (account : RoundsTo store mode handle c work ctx restarts s rs ending s')
    (underway : Underway handle c held s) :
    ∃ r, rs.getLast? = some r ∧ store.Closes mode handle ctx c r ending := by
  induction account with
  | succeeded account =>
    have leads := (account.runs.underway keeps underway).leads
    obtain ⟨verdict, s₁, ran⟩ := (account.succeeded_iff leads).mp rfl
    exact ⟨_, rfl, .succeeded verdict ran⟩
  | panicked account =>
    cases account with
    | panicked runs verdict => exact ⟨_, rfl, .panicked verdict⟩
  | failed account anew =>
    have fails := account.failsTo (account.runs.underway keeps underway).leads
    have gives := anew.givesUp (account.underway lawful keeps underway).leads
    rw [← account.runs.number] at gives
    exact ⟨_, rfl, .failed fails gives⟩
  | again account anew tos ih =>
    obtain ⟨r, last, closes⟩ :=
      ih (anew.underway lawful (account.underway lawful keeps underway))
    exact ⟨r, by rw [List.getLast?_cons, last]; rfl, closes⟩

/-! ## Whole attempts -/

/-- What an attempt answers, on any store whose primitives do not panic, for any unit of work and
under any context. If store and unit of work come to an end of their own, so does the attempt. An
attempt that gets no connection answers with the failure of the beginning, or with a cancellation if
the context is done first. One that gets a connection takes a transaction on it, with one commit or
rollback. How its rounds end is told from the last run of the unit of work alone, and what it
answers from that and from the answer to the commit or rollback. -/
theorem attempt_reports (store : Store H) (ctx : RequestContext) (mode : Mode)
    (work : UnitOfWork H α) (n : Nat) (s s' : State H) (outcome : Except Stop (Except Failure α))
    {held : List Connection} (lawful : store.Lawful)
    (keeps : ∀ inner, (work inner).run.Keeps held) (sound : s.Sound)
    (known : ∀ d ∈ held, d ∈ s.connections)
    (ran : (store.attempt ctx mode work n).run.run s = (outcome, s')) :
    (store.Attends → (∀ inner, (work inner).run.Attended True fun _ => True) →
      outcome ≠ .error .dropped) ∧
    (∀ failure s₁, store.RefusedWith ctx mode s failure s₁ →
      outcome = .ok (.error failure) ∧ s' = s₁) ∧
    (outcome ≠ .error .dropped → (∀ failure s₁, ¬ store.RefusedWith ctx mode s failure s₁) →
      ∃ t r, store.Takes ctx mode work n s t outcome s' ∧ t.runs.getLast? = some r ∧
        (∀ ending, store.Closes mode (handleIn t.given mode n) ctx t.connection r ending ↔
          t.ending = ending) ∧
        store.EndedOnce t.connection t.ending.commits s' ∧ Reports t.ending t.answer outcome) := by
  refine ⟨fun attends working => ?_, fun failure s₁ refuses => ?_, fun completed given => ?_⟩
  · exact (attempt_attended lawful attends working).ran ran
  · -- The attempt is over with the beginning.
    have refused := refusedWith_iff.mp refuses
    unfold attempt at ran
    simp only [ExceptT.run_mk, Program.bind_eq_bind] at ran
    rw [Program.run_bind_ok refused] at ran
    cases ran
    exact ⟨rfl, rfl⟩
  · rcases attempt_takes lawful keeps sound known ran completed with
      ⟨failure, refused, -⟩ | ⟨t, takes⟩
    · exact absurd (refusedWith_iff.mpr refused) (given failure s')
    · obtain ⟨r, last, closes⟩ :=
        takes.rounds.closes lawful keeps (takes.underway lawful sound known)
      refine ⟨t, r, takes, last, fun ending => ⟨closes.unique, ?_⟩,
        takes.endedOnce lawful keeps sound known, takes.outcome ▸ t.ending.reports t.answer⟩
      rintro rfl
      exact closes

open Rehearsal in
/-- After a deadlock the store starts over, and then the unit of work panics. The rollback fails, and
the panic goes on as it was. -/
theorem attempt_reports_panic :
    let player : Player := {
      name := "ledger", retries := fun _ => false, policy := fun _ => .single, restartLimit := 1 }
    let work : UnitOfWork (host Nat) Nat := invoke "ledger" 0
      [fun _ => throw (.conflict "deadlock"), fun _ => ExceptT.mk (.panic "overdrawn")] 0
    let s : State (host Nat) := { host := {
      parts := [(("ledger", .restart), { again := true }),
        (("ledger", .rollback), { failure := some (.conflict "connection lost") })],
      tallies := [0] } }
    let ran := (player.store.attempt .background .readWrite work 1).run.run s
    ran.1 = .error (.panic "overdrawn") ∧
    ∃ t r, player.store.Takes .background .readWrite work 1 s t ran.1 ran.2 ∧
      t.runs.getLast? = some r ∧ r.verdict = .error "overdrawn" ∧
      terminators t.connection ran.2.trace = [.rollingBack t.connection] := by
  intro player work s ran
  have gave : ((player.store.attempt .background .readWrite work 1).run.run s).1 =
      .error (.panic "overdrawn") := by cbv
  have given : (((.background : RequestContext).guard (player.store.request .readWrite)).run.run
      s).1 = .ok (.ok ⟨"ledger", 1⟩) := by cbv
  have conduct : ∀ inner, Conduct False inner [] (work inner).run := by
    apply invoke_conduct "ledger" 0 0
    intro run mem inner
    simp only [List.mem_cons, List.not_mem_nil, or_false] at mem
    rcases mem with rfl | rfl <;> exact .confined trivial
  have unrefused : ∀ failure s₁,
      ¬ player.store.RefusedWith .background .readWrite s failure s₁ := by
    intro failure s₁ refuses
    rw [refusedWith_iff.mp refuses] at given
    cases given
  obtain ⟨-, -, taken⟩ := attempt_reports player.store .background .readWrite work 1 s ran.2 ran.1
    player.store_lawful (fun inner => (conduct inner).keeps) (State.sound_of_empty rfl rfl rfl)
    (by simp) rfl
  obtain ⟨t, r, takes, last, closes, ended, reports⟩ := taken (by rw [gave]; simp) unrefused
  refine ⟨gave, t, r, takes, last, ?_⟩
  have close := (closes t.ending).mpr rfl
  have once := ended.once
  cases hending : t.ending with
  | succeeded value =>
    cases hanswer : t.answer with
    | ok done =>
      cases gave.symm.trans ((reports.value value).mpr ⟨hending, hanswer⟩)
    | error cause =>
      obtain ⟨failure, failed, -⟩ := reports.uncommitted value cause hending hanswer
      cases gave.symm.trans failed
  | failed failure =>
    cases hanswer : t.answer with
    | ok done => cases gave.symm.trans (reports.failed failure hending hanswer)
    | error cause =>
      obtain ⟨reported, failed, -⟩ := reports.unrolled failure cause hending hanswer
      cases gave.symm.trans failed
  | panicked message =>
    cases gave.symm.trans (reports.panicked message hending)
    rw [hending] at close once
    cases close with
    | panicked verdict => exact ⟨verdict, once⟩

end Store

end SessionKeeper
