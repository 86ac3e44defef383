import SessionKeeper.Proofs.Program.Footprint
import SessionKeeper.Proofs.Program.Later

/-!
The surroundings that a run passes through, from one request or wait to the next, and what becomes
of leases on the way. A lease that leads to a connection goes on doing so until somebody ends it
(`Passes.connected`); a program that spares the leases numbered below `k` is not the one who does
(`Spares.holdings`). Programs that neither give out leases nor end them spare all of them
(`Spares.of_confined`).

`p.Passes s s'` is inductive: a run of `p` from `s` comes by `s'`. So what is said of all
surroundings that are passed holds while a unit of work runs, and not only when it is over. Leases
are numbered in the order in which they were given out, and a transaction that is begun gets the
next number, so whoever spares what is numbered below his own harms none of those around him.
-/

namespace SessionKeeper

variable {H : Host} {α β : Type}

namespace Program

/-- The run of the program from `s` passes through `s'`. -/
inductive Passes : Program H α → State H → State H → Prop
  | here {p : Program H α} {s : State H} : Passes p s s
  | waited {length : Duration} {signals : List Signal} {next : Wake → Program H α}
      {s s' : State H} :
      Passes (next (s.timeline.wait length signals).1)
        { s with timeline := (s.timeline.wait length signals).2 } s' →
      Passes (.wait length signals next) s s'
  | asked {r : Request H} {next : r.Answer → Program H α} {s s' : State H} :
      Passes (next (r.perform s).1) (r.perform s).2 s' → Passes (.ask r next) s s'

/-- The program ends no lease that is numbered below `k`, but for those that it opens itself. -/
def Spares (k : Nat) : Program H α → Prop
  | .done _ => True
  | .stop _ => True
  | .wait _ _ next => ∀ wake, (next wake).Spares k
  | .ask (.endLease lease) next => k ≤ lease.id ∧ ∀ answer, (next answer).Spares k
  | .ask (.openLease _) next => ∀ lease : Lease, k ≤ lease.id → (next lease).Spares k
  | .ask _ next => ∀ answer, (next answer).Spares k

namespace Passes

variable {p : Program H α} {s s' : State H}

theorem of_run {outcome : Except Stop α} (ran : p.run s = (outcome, s')) : p.Passes s s' := by
  induction p generalizing s with
  | done a =>
    cases ran
    exact .here
  | stop cause =>
    cases ran
    exact .here
  | wait length signals next ih => exact .waited (ih _ ran)
  | ask r next ih => exact .asked (ih _ ran)

theorem later (passes : p.Passes s s') : s.Later s' := by
  induction passes with
  | here => exact .refl _
  | waited _ ih => exact (State.Later.of_timeline (.wait _ _ _)).trans ih
  | asked _ ih => exact (Request.perform_later _ _).trans ih

end Passes

end Program

/-- The lease leads to the connection, and has not ended. -/
def State.Connected (s : State H) (lease : Lease) (c : Connection) : Prop :=
  s.holdings[lease.id]? = some ⟨some c, false⟩

theorem State.Connected.connectionOf_eq_some {s : State H} {lease : Lease} {c : Connection}
    (connected : s.Connected lease c) : s.connectionOf lease = some c := by
  rw [connectionOf, show s.holdings[lease.id]? = some ⟨some c, false⟩ from connected]
  rfl

/-- A request leaves a lease as it is, or ends it. -/
theorem Request.perform_connected (r : Request H) {s : State H} {lease : Lease} {c : Connection}
    (connected : s.Connected lease c) :
    (r.perform s).2.Connected lease c ∨ (r.perform s).2.Ended lease := by
  have given := (List.getElem?_eq_some_iff.mp connected).1
  cases r with
  | openLease d => exact .inl ((List.getElem?_append_left given).trans connected)
  | endLease other =>
    by_cases same : lease = other
    · exact .inr (same ▸ State.ended_releasing given)
    · have ids : other.id ≠ lease.id := fun ids => same (by cases lease; cases other; simp_all)
      exact .inl ((List.getElem?_set_ne ids).trans connected)
  | _ => exact .inl connected

/-- A lease that led to a connection leads there still, or has ended. -/
theorem Program.Passes.connected {p : Program H α} {s s' : State H} (passes : p.Passes s s')
    {lease : Lease} {c : Connection} (connected : s.Connected lease c) :
    s'.Connected lease c ∨ s'.Ended lease := by
  induction passes with
  | here => exact .inl connected
  | waited _ ih => exact ih connected
  | @asked r _ s _ passes ih =>
    rcases r.perform_connected connected with connected | ended
    · exact ih connected
    · exact .inr (passes.later.ended lease ended)

namespace Program.Spares

variable {k : Nat} {p : Program H α}

theorem bind {f : α → Program H β} (hp : p.Spares k) (hf : ∀ a, (f a).Spares k) :
    (p.bind f).Spares k := by
  induction p with
  | done a => exact hf a
  | stop cause => trivial
  | wait length signals next ih => exact fun wake => ih wake (hp wake)
  | ask r next ih =>
    cases r with
    | endLease lease => exact ⟨hp.1, fun answer => ih answer (hp.2 answer)⟩
    | openLease c => exact fun lease new => ih lease (hp lease new)
    | _ => exact fun answer => ih answer (hp answer)

theorem catchPanic (h : p.Spares k) : p.catchPanic.Spares k := by
  induction p with
  | done a => trivial
  | stop cause => cases cause <;> trivial
  | wait length signals next ih => exact fun wake => ih wake (h wake)
  | ask r next ih =>
    cases r with
    | endLease lease => exact ⟨h.1, fun answer => ih answer (h.2 answer)⟩
    | openLease c => exact fun lease new => ih lease (h lease new)
    | _ => exact fun answer => ih answer (h answer)

theorem of_confined {fp : Footprint H} {held : List Connection} (h : p.Confined fp held) :
    p.Spares k := by
  induction p generalizing held with
  | done a => trivial
  | stop cause => trivial
  | wait length signals next ih => exact fun wake => ih wake (h wake)
  | ask r next ih =>
    cases r with
    | endLease lease => exact h.1.elim
    | openLease c => exact h.1.elim
    | _ => exact fun answer => ih answer (h.2 answer)

/-- On the way of such a program the leases numbered below `k` are as they were. The leases that it
opens are numbered past those that there were. -/
theorem holdings (h : p.Spares k) {s s' : State H} (given : k ≤ s.holdings.length)
    (passes : p.Passes s s') : s'.holdings.take k = s.holdings.take k := by
  induction passes with
  | here => rfl
  | waited _ ih => exact ih (h _) given
  | @asked r next s s' _ ih =>
    cases r with
    | endLease lease =>
      have length : (s.releasing lease).holdings.length = s.holdings.length := by
        simp [State.releasing]
      rw [ih (h.2 _) (length ▸ given)]
      exact (List.take_set_of_le h.1)
    | openLease c =>
      have longer : k ≤ (s.leasing c).holdings.length := by
        simp only [State.leasing, List.length_append]
        omega
      rw [ih (h _ given) longer]
      exact List.take_append_of_le_length given
    | _ => exact ih (h _) given

/-- A lease that a program spares leads where it led, all the way. -/
theorem connected (h : p.Spares k) {s s' : State H} (given : k ≤ s.holdings.length)
    (passes : p.Passes s s') {lease : Lease} {c : Connection} (below : lease.id < k)
    (connected : s.Connected lease c) : s'.Connected lease c := by
  have same := congrArg (·[lease.id]?) (h.holdings given passes)
  simp only [List.getElem?_take_of_lt below] at same
  exact same.trans connected

end Program.Spares

end SessionKeeper
