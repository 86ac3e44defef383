import SessionKeeper.Proofs.Program.Footprint

/-!
Custody: which connections there are, and which lease leads to which. In surroundings that are in
order (`State.Sound`) every connection was opened once, at most one lease leads to it, and no event
is about a connection that was never opened.

`Steady reach s s'` says what a program that ran from `s` to `s'` left alone: every lease leads
where it led, and of what happens to a connection of `s` there is nothing but what `reach` allows.
Confined programs are steady (`Confined.steady`): they reach the connections that they hold and
those that a lease leads to, so nothing reaches a connection once its lease has ended.

`p.Keeps held` says that all runs of `p` in such surroundings are steady and leave them in order. It
is what is asked of a unit of work where it need not be known more of it; `held` are the connections
that it was given.
-/

namespace SessionKeeper

variable {H : Host}

namespace State

/-- The surroundings are in order. -/
structure Sound (s : State H) : Prop where
  /-- No connection was opened twice. -/
  nodup : s.connections.Nodup
  /-- The connections of a store are numbered by their count. -/
  serial_le : ∀ c ∈ s.connections,
    c.serial ≤ (s.connections.filter (·.store == c.store)).length
  /-- A lease leads to a connection that was opened. -/
  leased : ∀ lease c, s.connectionOf lease = some c → c ∈ s.connections
  /-- No two leases lead to the same connection. -/
  leased_once : ∀ lease other c,
    s.connectionOf lease = some c → s.connectionOf other = some c → lease = other
  /-- Events are about connections that were opened. -/
  traced : ∀ e ∈ s.trace, ∀ c, e.2.connection? = some c → c ∈ s.connections
  /-- A lease has ended when it leads to no connection. -/
  ended : ∀ holding ∈ s.holdings, holding.ended = holding.connection.isNone

theorem sound_of_empty {s : State H} (connections : s.connections = []) (holdings : s.holdings = [])
    (trace : s.trace = []) : s.Sound := by
  constructor <;> simp [connections, holdings, trace, connectionOf]

theorem lt_of_connectionOf {s : State H} {lease : Lease} {c : Connection}
    (h : s.connectionOf lease = some c) : lease.id < s.holdings.length := by
  obtain ⟨holding, hget, _⟩ := Option.bind_eq_some_iff.mp h
  exact (List.getElem?_eq_some_iff.mp hget).1

theorem Sound.fresh {s : State H} (sound : s.Sound) (store : String) :
    ⟨store, (s.connections.filter (·.store == store)).length + 1⟩ ∉ s.connections := by
  intro mem
  have := sound.serial_le _ mem
  simp only at this
  omega

end State

namespace Footprint

/-- What a program with the footprint `fp` that holds `held` may do to connections from `s` on. -/
def reach (fp : Footprint H) (held : List Connection) (s : State H) (c : Connection)
    (e : Event H.Note) : Prop :=
  fp.may e ∧ (c ∈ held ∨ ∃ lease, fp.lent lease ∧ s.connectionOf lease = some c)

theorem reach_congr {s s₁ : State H} (h : s₁.connectionOf = s.connectionOf) (fp : Footprint H)
    (held : List Connection) : fp.reach held s₁ = fp.reach held s := by
  funext c e
  rw [reach, reach, h]

theorem held_of_reach_own {may : Event H.Note → Prop} {held : List Connection} {s : State H}
    {c : Connection} {e : Event H.Note} (h : (own may).reach held s c e) : may e ∧ c ∈ held :=
  ⟨h.1, h.2.resolve_right fun ⟨_, nothing, _⟩ => nothing⟩

end Footprint

/-! ## Steady runs -/

/-- What a run from `s` to `s'` leaves alone: the leases of `s`, and all but `reach` of what happens
to the connections of `s`. -/
structure Steady (reach : Connection → Event H.Note → Prop) (s s' : State H) : Prop where
  sound : s'.Sound
  opened : s.connections <:+ s'.connections
  leases : s.holdings.length ≤ s'.holdings.length
  connectionOf : s'.connectionOf = s.connectionOf
  trace : ∃ added, s'.trace = s.trace ++ added ∧
    ∀ e ∈ added, ∀ c ∈ s.connections, e.2.connection? = some c → reach c e.2

namespace Steady

variable {reach reach' : Connection → Event H.Note → Prop} {s s₁ s' : State H}

theorem of_eq (sound : s.Sound) (connections : s'.connections = s.connections)
    (holdings : s'.holdings = s.holdings) (trace : s'.trace = s.trace) : Steady reach s s' := by
  have leads : s'.connectionOf = s.connectionOf := by
    funext lease
    rw [State.connectionOf, State.connectionOf, holdings]
  refine ⟨?_, ?_, ?_, leads, [], by rw [trace, List.append_nil], by simp⟩
  · constructor
    · rw [connections]; exact sound.nodup
    · rw [connections]; exact sound.serial_le
    · rw [connections, leads]; exact sound.leased
    · rw [leads]; exact sound.leased_once
    · rw [connections, trace]; exact sound.traced
    · rw [holdings]; exact sound.ended
  · exact connections ▸ List.suffix_refl _
  · exact holdings ▸ Nat.le_refl _

theorem of_quiet (sound : s.Sound) (quiet : State.Quiet s s') : Steady reach s s' :=
  of_eq sound quiet.connections quiet.holdings quiet.trace

theorem refl (sound : s.Sound) : Steady reach s s := of_eq sound rfl rfl rfl

theorem known (h : Steady reach s s') {c : Connection} (hc : c ∈ s.connections) :
    c ∈ s'.connections := h.opened.subset hc

theorem mono (h : Steady reach s s')
    (wider : ∀ c ∈ s.connections, ∀ e, e.connection? = some c → reach c e → reach' c e) :
    Steady reach' s s' := by
  obtain ⟨added, htrace, hadded⟩ := h.trace
  exact ⟨h.sound, h.opened, h.leases, h.connectionOf, added, htrace,
    fun e he c hc hec => wider c hc e.2 hec (hadded e he c hc hec)⟩

/-- Two runs in sequence. What the second one may do to the connections of `s` counts, not what it
may do to those that the first one opened. -/
theorem join (h : Steady reach s s₁) (h' : Steady reach' s₁ s')
    (wider : ∀ c ∈ s.connections, ∀ e, e.connection? = some c → reach' c e → reach c e) :
    Steady reach s s' := by
  obtain ⟨added, htrace, hadded⟩ := h.trace
  obtain ⟨added', htrace', hadded'⟩ := h'.trace
  refine ⟨h'.sound, h.opened.trans h'.opened, Nat.le_trans h.leases h'.leases,
    h'.connectionOf.trans h.connectionOf, added ++ added', ?_, ?_⟩
  · rw [htrace', htrace, List.append_assoc]
  · intro e he c hc hec
    rcases List.mem_append.mp he with he | he
    · exact hadded e he c hc hec
    · exact wider c hc e.2 hec (hadded' e he c (h.known hc) hec)

theorem trans (h : Steady reach s s₁) (h' : Steady reach s₁ s') : Steady reach s s' :=
  h.join h' fun _ _ _ _ hreach => hreach

theorem reach_trans {fp : Footprint H} {held : List Connection}
    (h : Steady (fp.reach held s) s s₁) (h' : Steady (fp.reach held s₁) s₁ s') :
    Steady (fp.reach held s) s s' := by
  rw [Footprint.reach_congr h.connectionOf] at h'
  exact h.trans h'

theorem noted (sound : s.Sound) {e : Event H.Note}
    (allowed : ∀ c, e.connection? = some c → c ∈ s.connections ∧ reach c e) :
    Steady reach s (s.noted e) := by
  refine ⟨⟨sound.nodup, sound.serial_le, sound.leased, sound.leased_once, ?_, sound.ended⟩,
    List.suffix_refl _, Nat.le_refl _, rfl, _, rfl, ?_⟩
  · intro e' he' c hc
    rcases List.mem_append.mp he' with he' | he'
    · exact sound.traced e' he' c hc
    · obtain rfl := List.mem_singleton.mp he'
      exact (allowed c hc).1
  · intro e' he' c _ hc
    obtain rfl := List.mem_singleton.mp he'
    exact (allowed c hc).2

theorem logged (sound : s.Sound) (level : LogLevel) (text : String) :
    Steady reach s (s.logged level text) := of_eq sound rfl rfl rfl

theorem connect (sound : s.Sound) (store : String) :
    Steady reach s ((Request.connect store).perform s).2 := by
  -- The number of the new connection is past those of all connections of its store.
  have fresh := sound.fresh store
  simp only [Request.perform]
  generalize hnew : (⟨store, (s.connections.filter (·.store == store)).length + 1⟩ : Connection) =
    new at fresh
  refine ⟨⟨?_, ?_, ?_, sound.leased_once, ?_, sound.ended⟩, ⟨[new], rfl⟩, Nat.le_refl _, rfl,
    _, rfl, ?_⟩
  · exact List.nodup_cons.mpr ⟨fresh, sound.nodup⟩
  · intro c hc
    rcases List.mem_cons.mp hc with rfl | hc
    · subst hnew
      simp
    · have := sound.serial_le c hc
      simp only [List.filter_cons]
      split
      · rw [List.length_cons]; omega
      · exact this
  · exact fun lease c hlease => List.mem_cons_of_mem _ (sound.leased lease c hlease)
  · intro e he c hc
    rcases List.mem_append.mp he with he | he
    · exact List.mem_cons_of_mem _ (sound.traced e he c hc)
    · obtain rfl := List.mem_singleton.mp he
      cases hc
      exact List.mem_cons_self
  · intro e he c hc hec
    obtain rfl := List.mem_singleton.mp he
    cases hec
    exact absurd hc fresh

end Steady

/-! ## Giving and ending leases -/

namespace State

variable {s : State H} {c : Connection}

theorem connectionOf_leasing (s : State H) (c : Connection) (lease : Lease) :
    (s.leasing c).connectionOf lease =
      if lease.id = s.holdings.length then some c else s.connectionOf lease := by
  rw [connectionOf, leasing, connectionOf, List.getElem?_append]
  rcases Nat.lt_trichotomy lease.id s.holdings.length with lt | eq | gt
  · rw [if_pos lt, if_neg (Nat.ne_of_lt lt)]
  · simp [eq]
  · rw [if_neg (by omega), if_neg (by omega), List.getElem?_eq_none (Nat.le_of_lt gt),
      List.getElem?_eq_none (by simp; omega)]

theorem connectionOf_releasing (s : State H) (lease other : Lease) :
    (s.releasing lease).connectionOf other =
      if other = lease then none else s.connectionOf other := by
  rw [connectionOf, releasing, connectionOf]
  by_cases same : other = lease
  · subst same
    rw [if_pos rfl, List.getElem?_set]
    simp only [if_true]
    split <;> rfl
  · have ids : lease.id ≠ other.id := fun h => same (by cases other; cases lease; simp_all)
    rw [if_neg same, List.getElem?_set_ne ids]

/-- A lease may be given for a connection that no lease leads to. -/
theorem Sound.leasing (sound : s.Sound) (known : c ∈ s.connections)
    (free : ∀ lease, s.connectionOf lease ≠ some c) : (s.leasing c).Sound := by
  refine ⟨sound.nodup, sound.serial_le, ?_, ?_, sound.traced, ?_⟩
  · intro lease d
    rw [connectionOf_leasing]
    split
    · intro h
      cases h
      exact known
    · exact sound.leased lease d
  · intro lease other d
    rw [connectionOf_leasing, connectionOf_leasing]
    split <;> rename_i hlease <;> split <;> rename_i hother <;> intro h h'
    · cases lease
      cases other
      simp_all
    · cases h
      exact absurd h' (free other)
    · cases h'
      exact absurd h (free lease)
    · exact sound.leased_once lease other d h h'
  · intro holding mem
    rcases List.mem_append.mp mem with mem | mem
    · exact sound.ended holding mem
    · obtain rfl := List.mem_singleton.mp mem
      rfl

theorem Sound.releasing (sound : s.Sound) (lease : Lease) : (s.releasing lease).Sound := by
  refine ⟨sound.nodup, sound.serial_le, ?_, ?_, sound.traced, ?_⟩
  · intro other d
    rw [connectionOf_releasing]
    split
    · intro h
      cases h
    · exact sound.leased other d
  · intro one other d
    rw [connectionOf_releasing, connectionOf_releasing]
    split <;> split <;> intro h h'
    · cases h
    · cases h
    · cases h'
    · exact sound.leased_once one other d h h'
  · intro holding mem
    rcases List.mem_or_eq_of_mem_set mem with mem | rfl
    · exact sound.ended holding mem
    · rfl

end State

/-- A lease that is given for a connection and ended later leads nowhere in the end, and every other
one where it did. -/
theorem Steady.bracket {reach : Connection → Event H.Note → Prop} {s s₁ : State H} {c : Connection}
    (during : Steady reach (s.leasing c) s₁) :
    Steady reach s (s₁.releasing ⟨s.holdings.length⟩) := by
  have longer : s.holdings.length + 1 ≤ s₁.holdings.length := by
    simpa [State.leasing] using during.leases
  refine ⟨during.sound.releasing _, during.opened, ?_, ?_, during.trace⟩
  · rw [State.releasing, List.length_set]
    exact Nat.le_of_succ_le longer
  · funext lease
    rw [State.connectionOf_releasing, during.connectionOf, State.connectionOf_leasing]
    split
    · rename_i h
      subst h
      -- The lease that was given and ended is numbered past those of `s`, where it led nowhere.
      refine (Option.eq_none_iff_forall_ne_some.mpr fun d hd => ?_).symm
      exact Nat.lt_irrefl _ (State.lt_of_connectionOf hd)
    · rename_i h
      rw [if_neg fun h' => h (by cases lease; simp_all)]

/-! ## Requests -/

namespace Request

variable {fp : Footprint H} {held : List Connection} {s : State H} {r : Request H}

/-- A request within a footprint is steady. -/
theorem perform_steady (sound : s.Sound) (within : r.Within fp held)
    (known : ∀ c ∈ held, c ∈ s.connections) : Steady (fp.reach held s) s (r.perform s).2 := by
  cases r with
  | record e =>
    exact Steady.noted sound fun c hc => ⟨known c (within.2 c hc), within.1, .inl (within.2 c hc)⟩
  | connect store => exact Steady.connect sound store
  | openLease c => exact within.elim
  | endLease lease => exact within.elim
  | _ => exact Steady.of_eq sound rfl rfl rfl

/-- The connections that an answer gives hold of are new, or a lease leads to them. -/
theorem yields_perform (sound : s.Sound) (within : r.Within fp held) :
    ∀ c ∈ r.yields (r.perform s).1, c ∈ (r.perform s).2.connections ∧
      (c ∈ s.connections → ∃ lease, fp.lent lease ∧ s.connectionOf lease = some c) := by
  intro c hc
  cases r with
  | connect store =>
    obtain rfl := List.mem_singleton.mp hc
    exact ⟨List.mem_cons_self, fun old => absurd old (sound.fresh store)⟩
  | borrow lease =>
    have hlease : s.connectionOf lease = some c := Option.mem_toList.mp hc
    exact ⟨sound.leased lease c hlease, fun _ => ⟨lease, within, hlease⟩⟩
  | _ => cases hc

theorem perform_connections (r : Request H) (s : State H) :
    (r.perform s).2.connections = r.opens (r.perform s).1 ++ s.connections := by
  cases r <;> rfl

theorem perform_holdings (r : Request H) (within : r.Within fp held) (s : State H) :
    (r.perform s).2.holdings = s.holdings := by
  cases r with
  | openLease c => exact within.elim
  | endLease lease => exact within.elim
  | _ => rfl

theorem perform_added (within : r.Within fp held) (s : State H) :
    ∃ added, (r.perform s).2.trace = s.trace ++ added ∧
      ∀ e ∈ added, fp.may e.2 ∨ ∃ c, e.2 = .opened c := by
  cases r with
  | record e => exact ⟨_, rfl, by simpa using .inl within.1⟩
  | connect store => exact ⟨_, rfl, by simp⟩
  | openLease c => exact within.elim
  | endLease lease => exact within.elim
  | _ => exact ⟨[], by simp [perform], by simp⟩

end Request

/-! ## Programs -/

namespace Program

variable {α : Type} {p : Program H α} {fp : Footprint H} {held : List Connection}

/-- Confined programs are steady. -/
theorem Confined.steady (h : p.Confined fp held) {s : State H} (sound : s.Sound)
    (known : ∀ c ∈ held, c ∈ s.connections) : Steady (fp.reach held s) s (p.run s).2 := by
  induction p generalizing held s with
  | done a => exact Steady.refl sound
  | stop cause => exact Steady.refl sound
  | wait length signals next ih =>
    have waited : Steady (fp.reach held s) s
        { s with timeline := (s.timeline.wait length signals).2 } := Steady.of_eq sound rfl rfl rfl
    exact waited.trans (ih _ (h _) waited.sound known)
  | ask r next ih =>
    have asked := Request.perform_steady sound h.1 known
    have got := Request.yields_perform sound h.1
    have rest := ih _ (h.2 (r.perform s).1) asked.sound (fun c hc => by
      rcases List.mem_append.mp hc with hc | hc
      · exact (got c hc).1
      · exact asked.known (known c hc))
    -- An old connection that the rest holds by the answer was within reach before, by a lease.
    refine asked.join rest fun c old e _ reached => ⟨reached.1, ?_⟩
    rcases reached.2 with hc | ⟨lease, lent, hlease⟩
    · rcases List.mem_append.mp hc with hc | hc
      · exact .inr ((got c hc).2 old)
      · exact .inl hc
    · exact .inr ⟨lease, lent, asked.connectionOf ▸ hlease⟩

/-- A confined program records what it may, and the opening of connections. -/
theorem Confined.added (h : p.Confined fp held) (s : State H) :
    ∃ added, (p.run s).2.trace = s.trace ++ added ∧
      ∀ e ∈ added, fp.may e.2 ∨ ∃ c, e.2 = .opened c := by
  induction p generalizing held s with
  | done a => exact ⟨[], by simp, by simp⟩
  | stop cause => exact ⟨[], by simp, by simp⟩
  | wait length signals next ih => exact ih _ (h _) _
  | ask r next ih =>
    obtain ⟨first, hfirst, hmay⟩ := Request.perform_added h.1 s
    obtain ⟨rest, hrest, hmay'⟩ := ih _ (h.2 (r.perform s).1) (r.perform s).2
    refine ⟨first ++ rest, ?_, ?_⟩
    · rw [run_ask, hrest, hfirst, List.append_assoc]
    · intro e he
      rcases List.mem_append.mp he with he | he
      · exact hmay e he
      · exact hmay' e he

theorem Confined.holdings (h : p.Confined fp held) (s : State H) :
    (p.run s).2.holdings = s.holdings := by
  induction p generalizing held s with
  | done a => rfl
  | stop cause => rfl
  | wait length signals next ih => exact ih _ (h _) _
  | ask r next ih => exact (ih _ (h.2 (r.perform s).1) _).trans (r.perform_holdings h.1 s)

theorem Gives.run {Q : List Connection → α → Prop} {opened : List Connection}
    (h : p.Gives Q opened) {s s' : State H} {a : α} (ran : p.run s = (.ok a, s')) :
    ∃ new, s'.connections = new ++ s.connections ∧ Q (new ++ opened) a := by
  induction p generalizing opened s with
  | done b =>
    cases ran
    exact ⟨[], rfl, h⟩
  | stop cause => cases ran
  | wait length signals next ih =>
    rw [run_wait] at ran
    have rest := ih _ (h _) ran
    exact rest
  | ask r next ih =>
    rw [run_ask] at ran
    obtain ⟨new, hnew, hQ⟩ := ih _ (h (r.perform s).1) ran
    refine ⟨new ++ r.opens (r.perform s).1, ?_, ?_⟩
    · rw [hnew, Request.perform_connections, List.append_assoc]
    · rw [List.append_assoc]
      exact hQ

/-! ## Programs that keep to what is theirs -/

/-- Driven to its end from surroundings in order, `p` takes them on as `P` says. -/
def Ensures (held : List Connection) (P : State H → State H → Prop) (p : Program H α) : Prop :=
  ∀ s outcome s', s.Sound → (∀ c ∈ held, c ∈ s.connections) → p.run s = (outcome, s') →
    outcome ≠ .error .dropped → P s s'

/-- Driven to its end, `p` does no more than a unit of work may that holds `held`. -/
def Keeps (held : List Connection) (p : Program H α) : Prop :=
  p.Ensures held fun s s' => Steady (Footprint.unit.reach held s) s s'

namespace Ensures

variable {β : Type} {P : State H → State H → Prop} {f : α → Program H β}

theorem bind (trans : ∀ {s₁ s₂ s₃}, P s₁ s₂ → P s₂ s₃ → P s₁ s₃) (keeps : p.Keeps held)
    (hp : p.Ensures held P) (hf : ∀ a, (f a).Ensures held P) : (p.bind f).Ensures held P := by
  intro s outcome s' sound known ran completed
  rcases run_bind_inv ran with ⟨a, s₁, first, second⟩ | ⟨cause, first, rfl⟩
  · have steady := keeps s _ s₁ sound known first (by simp)
    exact trans (hp s _ s₁ sound known first (by simp))
      (hf a s₁ outcome s' steady.sound (fun c hc => steady.known (known c hc)) second completed)
  · exact hp s _ s' sound known first (fun h => completed (by cases h; rfl))

theorem catchPanic (hp : p.Ensures held P) : p.catchPanic.Ensures held P := by
  intro s outcome s' sound known ran completed
  obtain ⟨verdict, rfl⟩ := (Calm.catchPanic p).run_ok ran completed
  exact hp s _ s' sound known (run_of_catchPanic ran) (uncaught_ne_dropped verdict)

/-- Whoever borrows a connection holds it from then on. -/
theorem borrow {lease : Lease} {g : Option Connection → Program H α}
    {Q : Option Connection → State H → State H → Prop}
    (hg : ∀ found, (g found).Ensures (found.toList ++ held) (Q found))
    (imp : ∀ s s', Q (s.connectionOf lease) s s' → P s s') :
    ((Program.borrow lease).bind g).Ensures held P := by
  intro s outcome s' sound known ran completed
  rw [run_bind_ok (run_borrow s lease)] at ran
  refine imp s s' (hg _ s outcome s' sound (fun c hc => ?_) ran completed)
  rcases List.mem_append.mp hc with hc | hc
  · exact sound.leased lease c (Option.mem_toList.mp hc)
  · exact known c hc

end Ensures

namespace Keeps

theorem of_confined (h : p.Confined .unit held) : p.Keeps held := by
  intro s outcome s' sound known ran _
  have steady := h.steady sound known
  rw [ran] at steady
  exact steady

theorem bind {β : Type} {f : α → Program H β} (hp : p.Keeps held) (hf : ∀ a, (f a).Keeps held) :
    (p.bind f).Keeps held :=
  Ensures.bind Steady.reach_trans hp hp hf

theorem borrow {lease : Lease} {f : Option Connection → Program H α}
    (hf : ∀ found, (f found).Keeps (found.toList ++ held)) :
    ((Program.borrow lease).bind f).Keeps held := by
  refine Ensures.borrow hf fun s s' steady => steady.mono fun c _ e _ reached => ⟨reached.1, ?_⟩
  rcases reached.2 with hc | hlease
  · rcases List.mem_append.mp hc with hc | hc
    · exact .inr ⟨lease, trivial, Option.mem_toList.mp hc⟩
    · exact .inl hc
  · exact .inr hlease

end Keeps

end Program

/-! ## What is recorded in the course of a run -/

/-- What was recorded from `s` to `s'` is as `Q` says. -/
def State.Adds (Q : Event H.Note → Prop) (s s' : State H) : Prop :=
  ∃ added, s'.trace = s.trace ++ added ∧ ∀ e ∈ added, Q e.2

namespace State.Adds

variable {α : Type} {Q Q' : Event H.Note → Prop} {s s₁ s' : State H}

theorem of_trace_eq (h : s'.trace = s.trace) : s.Adds Q s' := ⟨[], by simp [h], by simp⟩

theorem of_append {entry : Instant × Event H.Note} (h : s'.trace = s.trace ++ [entry])
    (hQ : Q entry.2) : s.Adds Q s' := ⟨[entry], h, by simpa using hQ⟩

theorem noted (e : Event H.Note) (h : Q e) : s.Adds Q (s.noted e) := .of_append rfl h

theorem trans (h : s.Adds Q s₁) (h' : s₁.Adds Q s') : s.Adds Q s' := by
  obtain ⟨first, hfirst, first_as⟩ := h
  obtain ⟨rest, hrest, rest_as⟩ := h'
  refine ⟨first ++ rest, by rw [hrest, hfirst, List.append_assoc], fun e mem => ?_⟩
  exact (List.mem_append.mp mem).elim (first_as e) (rest_as e)

theorem mono (h : s.Adds Q s') (imp : ∀ e, Q e → Q' e) : s.Adds Q' s' := by
  obtain ⟨added, hadded, as⟩ := h
  exact ⟨added, hadded, fun e mem => imp _ (as e mem)⟩

theorem of_confined {fp : Footprint H} {held : List Connection} {p : Program H α}
    (confined : p.Confined fp held) (may : ∀ e, fp.may e → Q e) (opened : ∀ c, Q (.opened c))
    {outcome : Except Stop α} (ran : p.run s = (outcome, s')) : s.Adds Q s' := by
  obtain ⟨added, hadded, allowed⟩ := confined.added s
  rw [ran] at hadded
  refine ⟨added, hadded, fun e mem => ?_⟩
  rcases allowed e mem with h | ⟨c, h⟩
  · exact may _ h
  · exact h ▸ opened c

end State.Adds

end SessionKeeper
