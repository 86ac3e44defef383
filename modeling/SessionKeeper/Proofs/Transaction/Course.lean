import SessionKeeper.Proofs.Transaction.Account

/-!
The course of an attempt: begun, then by turns the unit of work and the store, then the end. While
it is under way (`Underway`) its lease leads to its connection. The store keeps to that connection
and records nothing that belongs to the course itself (`Alone`), and the unit of work disturbs only
what the caller let it have.

`RoundsTo.along` carries a property over all rounds, and `RoundsTo.lastRun` finds the run of the
unit of work that decides. `attempt_takes` puts the parts together: an attempt that is driven to its
end either got no connection or took a `Transaction` from its beginning to its end.

Correspondence: a `Transaction` is what `run_tx` has in its hands in the order in which it gets it:
the connection, the runs of the unit of work, the ending, and the answer to the commit or rollback.
`Store.Takes` says that an attempt took it so.
-/

namespace SessionKeeper

/-- What is recorded while a store is at work. -/
def Event.Aside {N : Type} : Event N → Prop
  | .requested _ _ => True
  | .opened _ => True
  | .executed _ _ _ => True
  | .cleared _ => True
  | .preparing _ => True
  | .restarting _ _ _ => True
  | .note _ => True
  | _ => False

theorem Event.Upkeep.aside {N : Type} {e : Event N} (h : e.Upkeep) : e.Aside := by
  cases e <;> first | exact h | trivial

variable {H : Host} {α : Type}

/-! ## The store at work -/

/-- Only a store was at work from `s` to `s'`, on the connections in `held`. -/
structure Alone (held : List Connection) (s s' : State H) : Prop where
  steady : Steady (fun c e => c ∈ held ∧ e.Interim) s s'
  added : ∃ added, s'.trace = s.trace ++ added ∧ ∀ e ∈ added, e.2.Aside

namespace Alone

variable {held : List Connection} {s s₁ s' : State H}

theorem trans (h : Alone held s s₁) (h' : Alone held s₁ s') : Alone held s s' := by
  obtain ⟨first, hfirst, aside⟩ := h.added
  obtain ⟨rest, hrest, aside'⟩ := h'.added
  refine ⟨h.steady.trans h'.steady, first ++ rest, ?_, ?_⟩
  · rw [hrest, hfirst, List.append_assoc]
  · intro e he
    exact (List.mem_append.mp he).elim (aside e) (aside' e)

theorem refl (sound : s.Sound) : Alone held s s := ⟨.refl sound, [], by simp, by simp⟩

theorem noted (sound : s.Sound) {e : Event H.Note} {c : Connection} (about : e.connection? = some c)
    (known : c ∈ s.connections) (mem : c ∈ held) (interim : e.Interim) (aside : e.Aside) :
    Alone held s (s.noted e) := by
  refine ⟨Steady.noted sound fun d hd => ?_, [(s.timeline.now, e)], rfl, by simpa using aside⟩
  obtain rfl : c = d := Option.some.inj (about.symm.trans hd)
  exact ⟨known, mem, interim⟩

/-- Where a primitive of a store ran, the store was alone at work. -/
theorem of_tame {β : Type} {may : Event H.Note → Prop} {p : Program H β} (tame : p.Tame may held)
    (upkeep : ∀ e, may e → e.Upkeep) (sound : s.Sound) (known : ∀ c ∈ held, c ∈ s.connections)
    {outcome : Except Stop β} (ran : p.run s = (outcome, s')) : Alone held s s' := by
  have steady := tame.confined.steady sound known
  obtain ⟨added, htrace, hadded⟩ := tame.confined.added s
  rw [ran] at steady htrace
  refine ⟨steady.mono fun c _ e _ reached => ?_, added, htrace, fun e he => ?_⟩
  · obtain ⟨hmay, hheld⟩ := Footprint.held_of_reach_own reached
    exact ⟨hheld, (upkeep e hmay).interim⟩
  · rcases hadded e he with hmay | ⟨c, hopened⟩
    · exact (upkeep _ hmay).aside
    · rw [hopened]
      trivial

end Alone

/-! ## Under way -/

/-- The attempt with this handle has not ended in `s`, and its connection is `c`. -/
structure Underway (handle : Handle) (c : Connection) (held : List Connection) (s : State H) :
    Prop where
  sound : s.Sound
  leads : s.connectionOf handle.lease = some c
  known : ∀ c ∈ held, c ∈ s.connections

namespace Underway

variable {handle : Handle} {c : Connection} {held : List Connection} {s s' : State H}

theorem here (h : Underway handle c held s) : c ∈ s.connections :=
  h.sound.leased handle.lease c h.leads

theorem step {reach : Connection → Event H.Note → Prop} (h : Underway handle c held s)
    (steady : Steady reach s s') : Underway handle c held s' :=
  ⟨steady.sound, (congrFun steady.connectionOf handle.lease).trans h.leads,
    fun d hd => steady.known (h.known d hd)⟩

theorem own (h : Underway handle c held s) : ∀ d ∈ [c], d ∈ s.connections :=
  fun d hd => by rw [List.mem_singleton.mp hd]; exact h.here

end Underway

/-- What happens while an attempt on `c` is under way: its own course, and what its unit of work may
do that holds `held`. -/
def meanwhile (c : Connection) (held : List Connection) (s : State H) (d : Connection)
    (e : Event H.Note) : Prop :=
  (d = c ∧ e.Interim) ∨ Footprint.unit.reach held s d e

theorem meanwhile_congr {s s₁ : State H} (h : s₁.connectionOf = s.connectionOf) (c : Connection)
    (held : List Connection) : meanwhile c held s₁ = meanwhile c held s := by
  funext d e
  rw [meanwhile, meanwhile, Footprint.reach_congr h]

theorem meanwhile_trans {c : Connection} {held : List Connection} {s s₁ s' : State H}
    (first : Steady (meanwhile c held s) s s₁) (second : Steady (meanwhile c held s₁) s₁ s') :
    Steady (meanwhile c held s) s s' := by
  rw [meanwhile_congr first.connectionOf] at second
  exact first.trans second

namespace Alone

/-- What the store does on its connection is part of the course of the attempt. -/
theorem meanwhile {c : Connection} {held : List Connection} {s s' : State H}
    (h : Alone [c] s s') : Steady (meanwhile c held s) s s' :=
  h.steady.mono fun _ _ _ _ reached => .inl ⟨List.mem_singleton.mp reached.1, reached.2⟩

end Alone

namespace Store

variable {store : Store H} {mode : Mode} {handle : Handle} {c : Connection}
  {work : UnitOfWork H α} {ctx : RequestContext} {held : List Connection} {restarts n : Nat}
  {s s' : State H}

/-! ## Rounds -/

namespace Runs

variable {r : WorkRun H α}

theorem noted (runs : store.Runs handle c work ctx restarts s r)
    (underway : Underway handle c held s) :
    Steady (meanwhile c held s) s r.before := by
  rw [runs.before]
  apply Steady.noted underway.sound
  intro d hd
  cases hd
  exact ⟨underway.here, .inl ⟨rfl, trivial⟩⟩

theorem answered (runs : store.Runs handle c work ctx restarts s r)
    (calm : ∀ inner, (work inner).run.Calm) : ∃ answer, r.verdict = .ok answer ∧
      (work (ctx.bind store.channel handle)).run.run r.before = (.ok answer, r.after) := by
  have ran := Program.run_of_catchPanic runs.ran
  cases hverdict : r.verdict with
  | error message =>
    rw [hverdict] at ran
    cases (calm _).run_error ran
  | ok answer =>
    rw [hverdict] at ran
    exact ⟨answer, rfl, ran⟩

theorem worked (runs : store.Runs handle c work ctx restarts s r)
    (keeps : ∀ inner, (work inner).run.Keeps held) (underway : Underway handle c held s) :
    Steady (Footprint.unit.reach held r.before) r.before r.after := by
  have started := underway.step (runs.noted underway)
  exact keeps _ _ _ _ started.sound started.known (Program.run_of_catchPanic runs.ran)
    (Program.uncaught_ne_dropped r.verdict)

theorem underway (runs : store.Runs handle c work ctx restarts s r)
    (keeps : ∀ inner, (work inner).run.Keeps held) (underway : Underway handle c held s) :
    Underway handle c held r.after :=
  (underway.step (runs.noted underway)).step (runs.worked keeps underway)

theorem meanwhile (runs : store.Runs handle c work ctx restarts s r)
    (keeps : ∀ inner, (work inner).run.Keeps held) (underway : Underway handle c held s) :
    Steady (meanwhile c held s) s r.after := by
  have noted := runs.noted underway
  refine noted.trans ((runs.worked keeps underway).mono fun d _ e _ reached => .inr ?_)
  rwa [← Footprint.reach_congr noted.connectionOf]

end Runs

theorem RoundTo.alone (lawful : store.Lawful) {r : WorkRun H α} {ending : Ending α}
    (account : RoundTo store mode handle c work ctx restarts s r ending s')
    (underway : Underway handle c held r.after) : Alone [c] r.after s' := by
  have prepared : ∀ {d : Connection} {answer : Except Failure Unit} {s' : State H},
      r.after.connectionOf handle.lease = some d →
      (store.prepare mode d).run.run (r.after.noted (.preparing d)) = (.ok answer, s') →
      Alone [c] r.after s' := by
    intro d answer s' hlease ran
    obtain rfl : c = d := Option.some.inj (underway.leads.symm.trans hlease)
    have noted : Alone [c] r.after (r.after.noted (.preparing c)) :=
      .noted underway.sound rfl underway.here (List.mem_singleton_self c) trivial trivial
    exact noted.trans (.of_tame (lawful.prepare mode c) (fun _ h => h.upkeep) noted.steady.sound
      (fun d hd => noted.steady.known (underway.own d hd)) ran)
  cases account with
  | panicked runs verdict => exact .refl underway.sound
  | failed runs verdict => exact .refl underway.sound
  | escaped runs verdict hlease => exact .refl underway.sound
  | unprepared runs verdict hlease ran => exact prepared hlease ran
  | succeeded runs verdict hlease ran => exact prepared hlease ran

/-- A round succeeds just when the unit of work does and the commit can be prepared. -/
theorem RoundTo.succeeded_iff {r : WorkRun H α} {ending : Ending α} {value : α}
    (account : RoundTo store mode handle c work ctx restarts s r ending s')
    (leads : r.after.connectionOf handle.lease = some c) :
    ending = .succeeded value ↔ r.verdict = .ok (.ok value) ∧
      ∃ s₁, (store.prepare mode c).run.run (r.after.noted (.preparing c)) = (.ok (.ok ()), s₁) := by
  cases account with
  | panicked runs verdict => simp [verdict]
  | failed runs verdict => simp [verdict]
  | escaped runs verdict hlease => rw [leads] at hlease; cases hlease
  | unprepared runs verdict hlease ran =>
    rw [leads] at hlease
    cases hlease
    simp [ran]
  | succeeded runs verdict hlease ran =>
    rw [leads] at hlease
    cases hlease
    simp [verdict, ran]

theorem RoundTo.prepared {r : WorkRun H α} {value : α}
    (account : RoundTo store mode handle c work ctx restarts s r (.succeeded value) s')
    (leads : r.after.connectionOf handle.lease = some c) :
    (store.prepare mode c).run.run (r.after.noted (.preparing c)) = (.ok (.ok ()), s') := by
  cases account with
  | succeeded runs verdict hlease ran =>
    rw [leads] at hlease
    cases hlease
    exact ran

theorem rest_tame (failure : Failure) :
    (store.rest handle ctx failure n).Tame (H := H) Event.Upkeep [c] := by
  refine ⟨⟨trivial, fun _ => ?_⟩, rest_calm failure⟩
  split
  · trivial
  · intro wake
    cases wake <;> trivial

theorem RestartTo.alone (lawful : store.Lawful) {failure : Failure} {answer : Except Failure Bool}
    (account : RestartTo store mode handle failure restarts s answer s')
    (underway : Underway handle c held s) : Alone [c] s s' := by
  have restarted : ∀ {d : Connection} {answer : Except Failure Bool} {s' : State H},
      s.connectionOf handle.lease = some d →
      (store.restart mode d failure restarts).run.run (s.noted (.restarting d restarts failure)) =
        (.ok answer, s') → Alone [c] s s' := by
    intro d answer s' hlease ran
    obtain rfl : c = d := Option.some.inj (underway.leads.symm.trans hlease)
    have noted : Alone [c] s (s.noted (.restarting c restarts failure)) :=
      .noted underway.sound rfl underway.here (List.mem_singleton_self c) trivial trivial
    exact noted.trans (.of_tame (lawful.restart mode c failure restarts) (fun _ h => h)
      noted.steady.sound (fun d hd => noted.steady.known (underway.own d hd)) ran)
  cases account with
  | escaped hlease => exact .refl underway.sound
  | refused hlease ran => exact restarted hlease ran
  | answered hlease ran => exact restarted hlease ran

theorem StartOverTo.alone (lawful : store.Lawful) {failure : Failure}
    {answer : Except Failure Unit}
    (account : StartOverTo store mode handle ctx failure restarts s answer s')
    (underway : Underway handle c held s) : Alone [c] s s' := by
  have rested : ∀ {s₁ s' : State H} {found : Option Cancellation}, Alone [c] s s₁ →
      (store.rest handle ctx failure (restarts + 1)).run s₁ = (.ok found, s') →
      Alone [c] s s' := by
    intro s₁ s' found restarted ran
    exact restarted.trans (.of_tame (rest_tame failure) (fun _ h => h) restarted.steady.sound
      (fun d hd => restarted.steady.known (underway.own d hd)) ran)
  cases account with
  | interrupted status => exact .refl underway.sound
  | unable status restart => exact restart.alone lawful underway
  | declined status restart => exact restart.alone lawful underway
  | cut status restart ran => exact rested (restart.alone lawful underway) ran
  | ready status restart ran => exact rested (restart.alone lawful underway) ran

theorem RoundTo.underway (lawful : store.Lawful) (keeps : ∀ inner, (work inner).run.Keeps held)
    {r : WorkRun H α} {ending : Ending α}
    (account : RoundTo store mode handle c work ctx restarts s r ending s')
    (underway : Underway handle c held s) : Underway handle c held s' := by
  have after := account.runs.underway keeps underway
  exact after.step (account.alone lawful after).steady

theorem StartOverTo.underway (lawful : store.Lawful) {failure : Failure}
    {answer : Except Failure Unit}
    (account : StartOverTo store mode handle ctx failure restarts s answer s')
    (underway : Underway handle c held s) : Underway handle c held s' :=
  underway.step (account.alone lawful underway).steady

/-- What holds of the runs of the unit of work, and of what the store does alone, holds of the
rounds as a whole. -/
theorem RoundsTo.along {P : State H → State H → Prop} (lawful : store.Lawful)
    (keeps : ∀ inner, (work inner).run.Keeps held)
    (trans : ∀ {s₁ s₂ s₃}, P s₁ s₂ → P s₂ s₃ → P s₁ s₃)
    (ran : ∀ {s r restarts}, Underway handle c held s →
      store.Runs handle c work ctx restarts s r → P s r.after)
    (alone : ∀ {s s'}, Underway handle c held s → Alone [c] s s' → P s s')
    {rs : List (WorkRun H α)} {ending : Ending α}
    (account : RoundsTo store mode handle c work ctx restarts s rs ending s')
    (underway : Underway handle c held s) : Underway handle c held s' ∧ P s s' := by
  have round : ∀ {s s' restarts r ending}, Underway handle c held s →
      RoundTo store mode handle c work ctx restarts s r ending s' →
      Underway handle c held s' ∧ P s s' := by
    intro s s' restarts r ending underway account
    have after := account.runs.underway keeps underway
    have rest := account.alone lawful after
    exact ⟨account.underway lawful keeps underway,
      trans (ran underway account.runs) (alone after rest)⟩
  have readied : ∀ {s s' failure restarts answer}, Underway handle c held s →
      StartOverTo store mode handle ctx failure restarts s answer s' →
      Underway handle c held s' ∧ P s s' := by
    intro s s' failure restarts answer underway account
    exact ⟨account.underway lawful underway, alone underway (account.alone lawful underway)⟩
  induction account with
  | succeeded account => exact round underway account
  | panicked account => exact round underway account
  | failed account anew =>
    obtain ⟨underway₁, first⟩ := round underway account
    obtain ⟨underway₂, second⟩ := readied underway₁ anew
    exact ⟨underway₂, trans first second⟩
  | again account anew tos ih =>
    obtain ⟨underway₁, first⟩ := round underway account
    obtain ⟨underway₂, second⟩ := readied underway₁ anew
    obtain ⟨underway₃, third⟩ := ih underway₂
    exact ⟨underway₃, trans (trans first second) third⟩

theorem RoundsTo.steady (lawful : store.Lawful) (keeps : ∀ inner, (work inner).run.Keeps held)
    {rs : List (WorkRun H α)} {ending : Ending α}
    (account : RoundsTo store mode handle c work ctx restarts s rs ending s')
    (underway : Underway handle c held s) : Steady (meanwhile c held s) s s' := by
  obtain ⟨-, steady⟩ := account.along (P := fun s s' => Steady (meanwhile c held s) s s') lawful
    keeps meanwhile_trans (fun underway runs => runs.meanwhile keeps underway)
    (fun _ alone => alone.meanwhile) underway
  exact steady

/-- `r`, started in `s₁`, is the run of the unit of work after which the rounds from `s` to `s'`
were over. -/
structure LastRun (store : Store H) (mode : Mode) (handle : Handle) (c : Connection)
    (work : UnitOfWork H α) (ctx : RequestContext) (held : List Connection) (s : State H)
    (ending : Ending α) (s' s₁ : State H) (r : WorkRun H α) : Prop where
  first_or_again : s₁ = s ∨ ∃ failure restarts s₀, Underway handle c held s₀ ∧
    StartOverTo store mode handle ctx failure restarts s₀ (.ok ()) s₁
  earlier : Steady (meanwhile c held s) s s₁
  runs : ∃ restarts, store.Runs handle c work ctx restarts s₁ r
  alone : Alone [c] r.after s'
  succeeded_iff : ∀ value, ending = .succeeded value ↔ r.verdict = .ok (.ok value) ∧
    ∃ s₂, (store.prepare mode c).run.run (r.after.noted (.preparing c)) = (.ok (.ok ()), s₂)
  prepared : ∀ value, ending = .succeeded value →
    (store.prepare mode c).run.run (r.after.noted (.preparing c)) = (.ok (.ok ()), s')

theorem RoundsTo.lastRun (lawful : store.Lawful) (keeps : ∀ inner, (work inner).run.Keeps held)
    {rs : List (WorkRun H α)} {ending : Ending α}
    (account : RoundsTo store mode handle c work ctx restarts s rs ending s')
    (underway : Underway handle c held s) :
    ∃ s₁, ∃ r ∈ rs, LastRun store mode handle c work ctx held s ending s' s₁ r := by
  induction account with
  | succeeded account =>
    have after := account.runs.underway keeps underway
    exact ⟨_, _, List.mem_singleton_self _, .inl rfl, .refl underway.sound, ⟨_, account.runs⟩,
      account.alone lawful after, fun _ => account.succeeded_iff after.leads,
      fun _ _ => account.prepared after.leads⟩
  | panicked account =>
    have after := account.runs.underway keeps underway
    exact ⟨_, _, List.mem_singleton_self _, .inl rfl, .refl underway.sound, ⟨_, account.runs⟩,
      account.alone lawful after, fun _ => account.succeeded_iff after.leads, nofun⟩
  | failed account anew =>
    have after := account.runs.underway keeps underway
    have ended := account.alone lawful after
    refine ⟨_, _, List.mem_singleton_self _, .inl rfl, .refl underway.sound, ⟨_, account.runs⟩,
      ended.trans (anew.alone lawful (after.step ended.steady)), fun value => ?_, nofun⟩
    rw [← account.succeeded_iff after.leads]
    simp
  | again account anew tos ih =>
    have after := account.runs.underway keeps underway
    have ended := account.alone lawful after
    have underway₁ := after.step ended.steady
    have readied := anew.alone lawful underway₁
    obtain ⟨s₁, r, mem, last⟩ := ih (underway₁.step readied.steady)
    have first := meanwhile_trans (account.runs.meanwhile keeps underway) ended.meanwhile
    -- The last run of the later rounds is the last of all, and a restart came before it.
    refine ⟨s₁, r, List.mem_cons_of_mem _ mem, ?_, ?_, last.runs, last.alone, last.succeeded_iff,
      last.prepared⟩
    · rcases last.first_or_again with rfl | again
      · exact .inr ⟨_, _, _, underway₁, anew⟩
      · exact .inr again
    · exact meanwhile_trans (meanwhile_trans first readied.meanwhile) last.earlier

/-- The round of the run `r` on `c` fails with the failure, in the surroundings `s'`: the unit of work
fails, or the preparation of the commit after it. -/
inductive FailsTo (store : Store H) (mode : Mode) (c : Connection) (r : WorkRun H α)
    (failure : Failure) : State H → Prop
  | worked : r.verdict = .ok (.error failure) → FailsTo store mode c r failure r.after
  | prepared {value : α} {s' : State H} : r.verdict = .ok (.ok value) →
      (store.prepare mode c).run.run (r.after.noted (.preparing c)) = (.ok (.error failure), s') →
      FailsTo store mode c r failure s'

theorem RoundTo.failsTo {r : WorkRun H α} {failure : Failure}
    (account : RoundTo store mode handle c work ctx restarts s r (.failed failure) s')
    (leads : r.after.connectionOf handle.lease = some c) :
    store.FailsTo mode c r failure s' := by
  cases account with
  | failed runs verdict => exact .worked verdict
  | escaped runs verdict hlease =>
    rw [leads] at hlease
    cases hlease
  | unprepared runs verdict hlease ran =>
    obtain rfl := Option.some.inj (leads.symm.trans hlease)
    exact .prepared verdict ran

/-- A round that fails with a failure ends with it, as soon as that is known. -/
theorem FailsTo.ends {r : WorkRun H α} {ending : Ending α} {failure : Failure} {s₁ : State H}
    (fails : store.FailsTo mode c r failure s₁)
    (account : RoundTo store mode handle c work ctx restarts s r ending s')
    (leads : r.after.connectionOf handle.lease = some c) :
    ending = .failed failure ∧ s' = s₁ := by
  cases account with
  | panicked runs hverdict => cases fails with
    | worked verdict => cases hverdict.symm.trans verdict
    | prepared verdict ran => cases hverdict.symm.trans verdict
  | failed runs hverdict => cases fails with
    | worked verdict =>
      cases hverdict.symm.trans verdict
      exact ⟨rfl, rfl⟩
    | prepared verdict ran => cases hverdict.symm.trans verdict
  | escaped runs hverdict hlease => cases leads.symm.trans hlease
  | unprepared runs hverdict hlease answered =>
    obtain rfl := Option.some.inj (leads.symm.trans hlease)
    cases fails with
    | worked verdict => cases hverdict.symm.trans verdict
    | prepared verdict ran =>
      cases answered.symm.trans ran
      exact ⟨rfl, rfl⟩
  | succeeded runs hverdict hlease answered =>
    obtain rfl := Option.some.inj (leads.symm.trans hlease)
    cases fails with
    | worked verdict => cases hverdict.symm.trans verdict
    | prepared verdict ran => cases answered.symm.trans ran

/-- The store does not start over because of the failure, after `n` restarts. -/
def DeclinesAfter (store : Store H) (mode : Mode) (failure : Failure) (n : Nat) : Prop :=
  ∀ c, (store.restart mode c failure n).run = .done (.ok false)

/-- The store does not start over because of the failure. -/
def Declines (store : Store H) (mode : Mode) (failure : Failure) : Prop :=
  ∀ c n, (store.restart mode c failure n).run = .done (.ok false)

/-- A store that declines is asked at most, and does nothing. -/
theorem StartOverTo.declined_account {failure : Failure} {answer : Except Failure Unit}
    (account : StartOverTo store mode handle ctx failure restarts s answer s')
    (declines : store.DeclinesAfter mode failure restarts)
    (leads : s.connectionOf handle.lease = some c) : answer = .error failure ∧
      ∃ asked, s'.trace = s.trace ++ asked ∧ ∀ e ∈ asked, e.2 = .restarting c restarts failure := by
  have restarted : ∀ {answer : Except Failure Bool} {s' : State H},
      RestartTo store mode handle failure restarts s answer s' →
      answer = .ok false ∧ s' = s.noted (.restarting c restarts failure) := by
    intro answer s' account
    cases account with
    | escaped hlease => simp [leads] at hlease
    | refused hlease ran =>
      rw [declines] at ran
      cases ran
    | answered hlease ran =>
      obtain rfl := Option.some.inj (leads.symm.trans hlease)
      rw [declines] at ran
      cases ran
      exact ⟨rfl, rfl⟩
  cases account with
  | interrupted status => exact ⟨rfl, [], by simp, by simp⟩
  | unable status restart => cases (restarted restart).1
  | declined status restart =>
    obtain ⟨-, rfl⟩ := restarted restart
    exact ⟨rfl, _, rfl, by simp⟩
  | cut status restart ran => cases (restarted restart).1
  | ready status restart ran => cases (restarted restart).1

theorem StartOverTo.of_declines {failure : Failure} {answer : Except Failure Unit}
    (account : StartOverTo store mode handle ctx failure restarts s answer s')
    (declines : store.Declines mode failure) (leads : s.connectionOf handle.lease = some c) :
    answer = .error failure :=
  (account.declined_account (fun c => declines c restarts) leads).1

/-- A run whose round fails so that the store does not start over is the last one. The rounds end
with its failure, and nothing is done after it. -/
theorem RoundsTo.last_of_declined (lawful : store.Lawful)
    (keeps : ∀ inner, (work inner).run.Keeps held) {rs : List (WorkRun H α)} {ending : Ending α}
    (account : RoundsTo store mode handle c work ctx restarts s rs ending s')
    (underway : Underway handle c held s) :
    ∀ r ∈ rs, ∀ failure s₁, store.FailsTo mode c r failure s₁ →
      store.DeclinesAfter mode failure r.restarts →
      rs.getLast? = some r ∧ ending = .failed failure ∧
        ∃ asked, s'.trace = s₁.trace ++ asked ∧
          ∀ e ∈ asked, e.2 = .restarting c r.restarts failure := by
  induction account with
  | succeeded account =>
    intro r mem failure s₁ fails
    obtain rfl := List.mem_singleton.mp mem
    cases (fails.ends account (account.runs.underway keeps underway).leads).1
  | panicked account =>
    intro r mem failure s₁ fails
    obtain rfl := List.mem_singleton.mp mem
    cases (fails.ends account (account.runs.underway keeps underway).leads).1
  | failed account anew =>
    intro r mem failure s₁ fails declines
    obtain rfl := List.mem_singleton.mp mem
    obtain ⟨failed, rfl⟩ := fails.ends account (account.runs.underway keeps underway).leads
    cases failed
    rw [account.runs.number] at declines ⊢
    obtain ⟨final, asked⟩ :=
      anew.declined_account declines (account.underway lawful keeps underway).leads
    cases final
    exact ⟨rfl, rfl, asked⟩
  | again account anew tos ih =>
    intro r mem failure s₁ fails declines
    have ended := account.underway lawful keeps underway
    rcases List.mem_cons.mp mem with rfl | mem
    · obtain ⟨failed, -⟩ := fails.ends account (account.runs.underway keeps underway).leads
      cases failed
      rw [account.runs.number] at declines
      cases (anew.declined_account declines ended.leads).1
    · obtain ⟨last, final⟩ := ih (anew.underway lawful ended) r mem failure s₁ fails declines
      exact ⟨by rw [List.getLast?_cons, last]; rfl, final⟩

theorem RoundsTo.final_of_declines (lawful : store.Lawful)
    (keeps : ∀ inner, (work inner).run.Keeps held) {failure : Failure}
    (declines : store.Declines mode failure) {rs : List (WorkRun H α)} {ending : Ending α}
    (account : RoundsTo store mode handle c work ctx restarts s rs ending s')
    (underway : Underway handle c held s) :
    ∀ r ∈ rs, r.verdict = .ok (.error failure) →
      rs.getLast? = some r ∧ ending = .failed failure := by
  intro r mem verdict
  obtain ⟨last, final, -⟩ := account.last_of_declined lawful keeps underway r mem failure _
    (.worked verdict) fun c => declines c r.restarts
  exact ⟨last, final⟩

end Store

/-! ## Transactions -/

theorem Ending.closed_steady {c : Connection} (ending : Ending α) (answer : Except Failure Unit)
    {s : State H} (sound : s.Sound) (known : c ∈ s.connections) :
    Steady (fun d _ => d = c) s (ending.closed c answer s) := by
  have committed : Steady (fun d _ => d = c) s (s.noted (.committed c)) :=
    Steady.noted sound fun d hd => by cases hd; exact ⟨known, rfl⟩
  cases ending with
  | succeeded value =>
    cases answer with
    | ok done => exact committed
    | error cause => exact .refl sound
  | failed failure => exact .refl sound
  | panicked message => exact .refl sound

/-- A transaction from its beginning to its end. -/
structure Transaction (H : Host) (α : Type) where
  connection : Connection
  /-- When the store had given the connection. -/
  given : State H
  runs : List (WorkRun H α)
  ending : Ending α
  /-- When the rounds were over. -/
  ended : State H
  /-- What the store answered to commit or rollback. -/
  answer : Except Failure Unit
  /-- When it had answered. -/
  answered : State H

namespace Store

/-- Attempt `n` from `s` to `s'` is the transaction `t`. -/
structure Takes (store : Store H) (ctx : RequestContext) (mode : Mode) (work : UnitOfWork H α)
    (n : Nat) (s : State H) (t : Transaction H α) (outcome : Except Stop (Except Failure α))
    (s' : State H) : Prop where
  given : (ctx.guard (store.request mode)).run.run s = (.ok (.ok t.connection), t.given)
  rounds : RoundsTo store mode (handleIn t.given mode n) t.connection work ctx 0
    (store.begunIn t.given t.connection mode n) t.runs t.ending t.ended
  includes : ∀ r ∈ t.runs, (store.attempt ctx mode work n).run.Includes s
    (work (ctx.bind store.channel (handleIn t.given mode n))).run r.before
  answered : (store.finish t.connection t.ending.commits).run.run
      ((t.ended.releasing (handleIn t.given mode n).lease).noted
        (.terminator t.connection t.ending.commits)) = (.ok t.answer, t.answered)
  outcome : outcome = t.ending.result t.answer
  after : ∃ logs, s' = (t.ending.closed t.connection t.answer t.answered).relogged logs

variable {store : Store H} {mode : Mode} {c : Connection} {work : UnitOfWork H α}
  {ctx : RequestContext} {held : List Connection} {n : Nat} {s s' : State H}
  {outcome : Except Stop (Except Failure α)} {t : Transaction H α}

theorem request_confined (lawful : store.Lawful) (mode : Mode) :
    (store.request mode).run.Confined
      (.own fun e => e.Upkeep ∨ ∃ name mode, e = .requested name mode) [] := by
  refine ⟨⟨.inr ⟨_, _, rfl⟩, fun d hd => by cases hd⟩, fun _ => ?_⟩
  exact (lawful.start mode).confined.mono (Footprint.own_le fun _ h => .inl h.upkeep)
    (List.Subset.refl _)

/-- Until the store has given a connection it is alone at work, on none of the connections that
there were. -/
theorem request_alone (lawful : store.Lawful) (sound : s.Sound)
    {answer : Except Stop (Except Failure Connection)}
    (ran : (ctx.guard (store.request mode)).run.run s = (answer, s')) : Alone [] s s' := by
  have confined := ctx.guard_confined (request_confined lawful mode)
  have steady := confined.steady sound (by simp)
  obtain ⟨added, htrace, hadded⟩ := confined.added s
  rw [ran] at steady htrace
  refine ⟨steady.mono fun d _ e _ reached => ?_, added, htrace, fun e he => ?_⟩
  · cases (Footprint.held_of_reach_own reached).2
  · rcases hadded e he with (hmay | ⟨name, mode, hrequested⟩) | ⟨d, hopened⟩
    · exact hmay.aside
    · rw [hrequested]
      trivial
    · rw [hopened]
      trivial

theorem request_fresh (lawful : store.Lawful) (sound : s.Sound)
    (ran : (ctx.guard (store.request mode)).run.run s = (.ok (.ok c), s')) :
    c ∉ s.connections ∧ c ∈ s'.connections := by
  have gives : (store.request mode).run.Gives (fun opened r => ∀ c, r = .ok c → c ∈ opened) [] :=
    fun _ => lawful.start_opens mode
  obtain ⟨new, hnew, mem⟩ := (ctx.guard_gives gives).run ran
  have nodup := (request_alone lawful sound ran).steady.sound.nodup
  rw [hnew] at nodup ⊢
  have mem : c ∈ new := by simpa using mem c rfl
  exact ⟨fun old => (List.nodup_append.mp nodup).2.2 c mem c old rfl, List.mem_append_left _ mem⟩

/-- An attempt that the store has just given a new connection is under way. -/
theorem underway_begunIn {given : State H} (alone : Alone [] s given) (sound : s.Sound)
    (fresh : c ∉ s.connections) (known : c ∈ given.connections)
    (hheld : ∀ d ∈ held, d ∈ s.connections) :
    Underway (handleIn given mode n) c held (store.begunIn given c mode n) := by
  have free : ∀ lease, given.connectionOf lease ≠ some c := by
    intro lease hlease
    rw [alone.steady.connectionOf] at hlease
    exact fresh (sound.leased lease c hlease)
  have leased := alone.steady.sound.leasing known free
  have noted : Steady (fun d _ => d = c) (given.leasing c)
      ((given.leasing c).noted (.began c store.channel mode n)) :=
    Steady.noted leased fun d hd => by cases hd; exact ⟨known, rfl⟩
  have logged : Steady (fun _ _ => False) _ (store.begunIn given c mode n) :=
    Steady.logged noted.sound _ _
  refine ⟨logged.sound, ?_, fun d hd => ?_⟩
  · apply (State.connectionOf_leasing given c _).trans
    exact if_pos rfl
  · exact alone.steady.known (hheld d hd)

namespace Takes

theorem fresh (takes : store.Takes ctx mode work n s t outcome s') (lawful : store.Lawful)
    (sound : s.Sound) : t.connection ∉ s.connections :=
  (request_fresh lawful sound takes.given).1

theorem underway (takes : store.Takes ctx mode work n s t outcome s') (lawful : store.Lawful)
    (sound : s.Sound) (known : ∀ d ∈ held, d ∈ s.connections) :
    Underway (handleIn t.given mode n) t.connection held
      (store.begunIn t.given t.connection mode n) := by
  obtain ⟨fresh, here⟩ := request_fresh lawful sound takes.given
  exact underway_begunIn (request_alone lawful sound takes.given) sound fresh here known

/-- What the lease of the attempt saw, from its giving to its end. -/
theorem released (takes : store.Takes ctx mode work n s t outcome s') (lawful : store.Lawful)
    (keeps : ∀ inner, (work inner).run.Keeps held) (sound : s.Sound)
    (known : ∀ d ∈ held, d ∈ s.connections) :
    Steady (fun d e => d = t.connection ∨ Footprint.unit.reach held s d e) t.given
      (t.ended.releasing (handleIn t.given mode n).lease) := by
  have alone := request_alone lawful sound takes.given
  have underway := takes.underway lawful sound known
  have begun : Steady (fun d _ => d = t.connection) (t.given.leasing t.connection)
      (store.begunIn t.given t.connection mode n) := by
    have here : t.connection ∈ t.given.connections := (request_fresh lawful sound takes.given).2
    refine ⟨underway.sound, List.suffix_refl _, Nat.le_refl _, rfl,
      [(t.given.timeline.now, .began t.connection store.channel mode n)], rfl, ?_⟩
    intro e he d _ hd
    obtain rfl := List.mem_singleton.mp he
    cases hd
    rfl
  -- A lease by which the unit of work reaches a connection is the attempt's own, or an older one.
  refine Steady.bracket ((begun.mono fun d _ e _ hd => .inl hd).join
    (takes.rounds.steady lawful keeps underway) fun d _ e _ reached => ?_)
  rcases reached with ⟨hd, _⟩ | ⟨use, hheld | ⟨lease, lent, hlease⟩⟩
  · exact .inl hd
  · exact .inr ⟨use, .inl hheld⟩
  · rw [begun.connectionOf, State.connectionOf_leasing] at hlease
    split at hlease
    · exact .inl (Option.some.inj hlease).symm
    · rw [alone.steady.connectionOf] at hlease
      exact .inr ⟨use, .inr ⟨lease, lent, hlease⟩⟩

/-- Once the lease has ended, all that happens to connections is the end of the transaction. -/
theorem finished (takes : store.Takes ctx mode work n s t outcome s') (lawful : store.Lawful)
    {s₀ : State H} (released : s₀ = t.ended.releasing (handleIn t.given mode n).lease)
    (sound : s₀.Sound) (here : t.connection ∈ s₀.connections) :
    Steady (fun d _ => d = t.connection) s₀ s' := by
  have noted : Steady (fun d _ => d = t.connection) s₀
      (s₀.noted (.terminator t.connection t.ending.commits)) := by
    apply Steady.noted sound
    intro d hd
    obtain rfl := Option.some.inj ((Event.connection_terminator _ _).symm.trans hd)
    exact ⟨here, rfl⟩
  have answered := Alone.of_tame (lawful.finish t.connection t.ending.commits) (fun _ h => h.upkeep)
    noted.sound (fun d hd => by rw [List.mem_singleton.mp hd]; exact noted.known here)
    (released ▸ takes.answered)
  have closed := t.ending.closed_steady t.answer answered.steady.sound
    (answered.steady.known (noted.known here))
  obtain ⟨logs, rfl⟩ := takes.after
  have logged : Steady (fun d _ => d = t.connection)
      (t.ending.closed t.connection t.answer t.answered)
      ((t.ending.closed t.connection t.answer t.answered).relogged logs) :=
    .of_eq closed.sound rfl rfl rfl
  exact (noted.join answered.steady fun _ _ _ _ hd => List.mem_singleton.mp hd.1).trans
    (closed.trans logged)

/-- While the attempt takes place, nothing disturbs the connections that there were before it but
what its unit of work may do. -/
theorem steady (takes : store.Takes ctx mode work n s t outcome s') (lawful : store.Lawful)
    (keeps : ∀ inner, (work inner).run.Keeps held) (sound : s.Sound)
    (known : ∀ d ∈ held, d ∈ s.connections) : Steady (Footprint.unit.reach held s) s s' := by
  obtain ⟨fresh, here⟩ := request_fresh lawful sound takes.given
  have alone := request_alone lawful sound takes.given
  have released := takes.released lawful keeps sound known
  have finished := takes.finished lawful rfl released.sound (released.known here)
  have whole := released.join finished fun _ _ _ _ hd => .inl hd
  refine (alone.steady.mono fun _ _ _ _ h => by cases h.1).join whole fun d hd e _ reached => ?_
  -- What happens to the connection of the attempt disturbs none that there was before.
  rcases reached with rfl | reached
  · exact absurd hd fresh
  · exact reached

/-- No lease leads to the connection of a transaction that has ended. -/
theorem out_of_reach (takes : store.Takes ctx mode work n s t outcome s') (lawful : store.Lawful)
    (keeps : ∀ inner, (work inner).run.Keeps held) (sound : s.Sound)
    (known : ∀ d ∈ held, d ∈ s.connections) :
    t.connection ∈ s'.connections ∧ ∀ lease, s'.connectionOf lease ≠ some t.connection := by
  obtain ⟨fresh, here⟩ := request_fresh lawful sound takes.given
  have released := takes.released lawful keeps sound known
  have finished := takes.finished lawful rfl released.sound (released.known here)
  refine ⟨finished.known (released.known here), ?_⟩
  intro lease hlease
  rw [(takes.steady lawful keeps sound known).connectionOf] at hlease
  exact fresh (sound.leased lease _ hlease)

/-! What a transaction leaves in the trace, part by part. -/

theorem opening (takes : store.Takes ctx mode work n s t outcome s') (lawful : store.Lawful)
    (sound : s.Sound) :
    ∃ opening, t.given.trace = s.trace ++ opening ∧ ∀ e ∈ opening, e.2.Aside :=
  (request_alone lawful sound takes.given).added

theorem middle (takes : store.Takes ctx mode work n s t outcome s') (lawful : store.Lawful)
    (keeps : ∀ inner, (work inner).run.Keeps held) (sound : s.Sound)
    (known : ∀ d ∈ held, d ∈ s.connections) :
    ∃ middle, t.ended.trace = t.given.trace ++
        (t.given.timeline.now, .began t.connection store.channel mode n) :: middle ∧
      ∀ e ∈ middle, e.2.connection? = some t.connection → e.2.Interim := by
  have underway := takes.underway lawful sound known
  obtain ⟨middle, htrace, interim⟩ := (takes.rounds.steady lawful keeps underway).trace
  refine ⟨middle, htrace.trans (List.append_assoc _ _ _), ?_⟩
  intro e he hec
  rcases interim e he _ underway.here hec with h | h
  · exact h.2
  · exact h.1.interim

theorem finishing (takes : store.Takes ctx mode work n s t outcome s') (lawful : store.Lawful) :
    ∃ finishing, t.answered.trace = t.ended.trace ++
        (t.ended.timeline.now, .terminator t.connection t.ending.commits) :: finishing ∧
      ∀ e ∈ finishing, e.2.Plain ∨ ∃ d, e.2 = .opened d := by
  obtain ⟨finishing, htrace, plain⟩ :=
    (lawful.finish t.connection t.ending.commits).confined.added
      ((t.ended.releasing (handleIn t.given mode n).lease).noted
        (.terminator t.connection t.ending.commits))
  rw [takes.answered] at htrace
  exact ⟨finishing, htrace.trans (List.append_assoc _ _ _), plain⟩

theorem closing (takes : store.Takes ctx mode work n s t outcome s') :
    (∃ value, outcome = .ok (.ok value) ∧ t.ending = .succeeded value ∧
      s'.trace = t.answered.trace ++ [(t.answered.timeline.now, .committed t.connection)]) ∨
    (∀ value, outcome ≠ .ok (.ok value)) ∧ s'.trace = t.answered.trace := by
  obtain ⟨logs, rfl⟩ := takes.after
  rw [takes.outcome]
  cases t.ending with
  | succeeded value =>
    cases t.answer with
    | ok done => exact .inl ⟨value, rfl, rfl, rfl⟩
    | error cause => exact .inr ⟨nofun, rfl⟩
  | failed failure => cases t.answer <;> exact .inr ⟨nofun, rfl⟩
  | panicked message => exact .inr ⟨nofun, rfl⟩

theorem of_ok {value : α} (takes : store.Takes ctx mode work n s t (.ok (.ok value)) s') :
    t.ending = .succeeded value ∧ t.answer = .ok () := by
  have gave := takes.outcome
  cases hending : t.ending with
  | succeeded given =>
    cases hanswer : t.answer with
    | ok done =>
      rw [hending, hanswer] at gave
      cases gave
      exact ⟨rfl, rfl⟩
    | error cause => simp [hending, hanswer, Ending.result] at gave
  | failed failure => cases hanswer : t.answer <;> simp [hending, hanswer, Ending.result] at gave
  | panicked message => simp [hending, Ending.result] at gave

end Takes

/-- An attempt that is driven to its end got no connection, or took a transaction on one. -/
theorem attempt_takes (lawful : store.Lawful) (keeps : ∀ inner, (work inner).run.Keeps held)
    (sound : s.Sound) (known : ∀ d ∈ held, d ∈ s.connections)
    (ran : (store.attempt ctx mode work n).run.run s = (outcome, s'))
    (completed : outcome ≠ .error .dropped) :
    (∃ failure, (ctx.guard (store.request mode)).run.run s = (.ok (.error failure), s') ∧
      outcome = .ok (.error failure)) ∨
    ∃ t, store.Takes ctx mode work n s t outcome s' := by
  cases attempt_account lawful ran completed with
  | refused given => exact .inl ⟨_, given, rfl⟩
  | begun given rounds includes ran =>
    obtain ⟨fresh, here⟩ := request_fresh lawful sound given
    have underway : Underway (handleIn _ mode n) _ held (store.begunIn _ _ mode n) :=
      underway_begunIn (request_alone lawful sound given) sound fresh here known
    obtain ⟨ended, -⟩ := rounds.along (P := fun _ _ => True) lawful keeps (fun _ _ => trivial)
      (fun _ _ => trivial) (fun _ _ => trivial) underway
    obtain ⟨answer, answered, logs, hanswer, houtcome, hafter⟩ :=
      conclude_account lawful ended.leads ran completed
    exact .inr ⟨⟨_, _, _, _, _, answer, answered⟩, given, rounds, includes, hanswer, houtcome, logs,
      hafter⟩

end Store

end SessionKeeper
