import Mathlib.Order.Bounds.Basic
import SessionKeeper.Proofs.Context.Forest
import SessionKeeper.Proofs.Program.Later

/-!
What a context reports, over any history of contexts. A context holds one combined deadline and the
scopes that cancel it, both put together when it was derived. `History.Agrees` is the invariant that
ties them to the ways down the forest: the deadline is the earliest one set on the way, and the
scopes are those of the handles given out on the way. Every step keeps it (`Agrees.perform`), and
from it follows what each context reports, whatever the order of derivations and cancellations was.

Correspondence: `err` ↔ `Context.Reports`, which is what the program that asks for the status of the
context answers, `is_done` ↔ `Context.Done`, `deadline` ↔ `Context.deadline`.

`Context.forest_reports` is for histories that start on a timeline of which no scope is canceled
that was not given out, and no alarm goes off for one (`Timeline.Orderly`), as every fresh one is.
-/

namespace SessionKeeper

/-- Only scopes that were opened have been canceled, or will be. -/
structure Timeline.Orderly (tl : Timeline) : Prop where
  canceled : ∀ scope ∈ tl.canceled, scope.id < tl.opened
  alarms : ∀ alarm ∈ tl.alarms, alarm.2.id < tl.opened

namespace Context

variable {H : Host} {κ : Type} {V : κ → Type}

/-- The first of some instants, where there may be none. -/
def IsEarliest (times : Set Instant) : Option Instant → Prop
  | none => times = ∅
  | some time => IsLeast times time

/-- Asked in `s` whether it is done, the context gives this answer. -/
def Reports (ctx : Context V) (s : State H) (answer : Option Cancellation) : Prop :=
  ctx.status.run s = (.ok answer, s)

/-- The context has ended, for whatever reason. -/
def Done (ctx : Context V) (s : State H) : Prop := ∃ reason, ctx.Reports s (some reason)

theorem reports_iff {ctx : Context V} {s : State H} {answer : Option Cancellation} :
    ctx.Reports s answer ↔ s.timeline.status ctx.signal = answer := by
  rw [Reports, Context.status, Program.run_status]
  simp

theorem done_iff {ctx : Context V} {s : State H} : ctx.Done s ↔ ¬ ctx.Reports s none := by
  simp only [Done, reports_iff]
  cases s.timeline.status ctx.signal with
  | none => simp
  | some reason => simp

theorem IsEarliest.insert {ctx : Context V} {times : Set Instant}
    (earliest : IsEarliest times ctx.deadline) (time : Instant) :
    IsEarliest (insert time times) (ctx.withDeadline time).deadline := by
  rw [deadline_withDeadline]
  cases hd : ctx.deadline with
  | none =>
    rw [hd] at earliest
    have empty : times = ∅ := earliest
    show IsLeast _ time
    rw [empty, insert_empty_eq]
    exact isLeast_singleton
  | some current =>
    rw [hd] at earliest
    have least : IsLeast times current := earliest
    show IsLeast _ (min current time)
    rw [min_comm]
    exact least.insert time

namespace History

variable {h h' : History V} {base : Nat} {tl : Timeline}

/-- The contexts of a history agree with their ways down the forest, and its handles with the
timeline that it left; the scopes numbered below `base` are not its own. -/
structure Agrees (h : History V) (base : Nat) (tl : Timeline) : Prop where
  ranked : h.forest.Ranked
  base_le : base ≤ tl.opened
  opened : ∀ scope ∈ tl.canceled, scope.id < tl.opened
  alarms : ∀ alarm ∈ tl.alarms, alarm.2.id < base
  own : ∀ i scope, h.forest.origin? i = some (.cancellation scope) →
    base ≤ scope.id ∧ scope.id < tl.opened
  /-- No two handles cancel the same scope. -/
  single : ∀ i j scope, h.forest.origin? i = some (.cancellation scope) →
    h.forest.origin? j = some (.cancellation scope) → i = j
  used : ∀ i ∈ h.canceled, ∃ scope, h.forest.origin? i = some (.cancellation scope)
  canceled : ∀ i scope, h.forest.origin? i = some (.cancellation scope) →
    (scope ∈ tl.canceled ↔ i ∈ h.canceled)
  scopes : ∀ (j : Nat) (node : Node V), h.forest[j]? = some node → ∀ scope,
    scope ∈ node.context.signal.scopes ↔ h.forest.OnPath (.cancellation scope) j
  earliest : ∀ (j : Nat) (node : Node V), h.forest[j]? = some node →
    IsEarliest (h.forest.deadlines j) node.context.deadline

/-- The context of a new node has the scopes and the deadlines of its parent and those that it came
about with, and its handle is the only one for its scope. -/
structure Extends (node : Node V) (h : History V) (base : Nat) (tl : Timeline) : Prop where
  derived : ∀ k ∈ node.parent, k < h.forest.length
  own : ∀ scope, node.origin = .cancellation scope →
    base ≤ scope.id ∧ scope.id < tl.opened ∧ scope ∉ tl.canceled ∧
      ∀ i, h.forest.origin? i ≠ some (.cancellation scope)
  scopes : ∀ scope, scope ∈ node.context.signal.scopes ↔
    node.origin = .cancellation scope ∨ ∃ k ∈ node.parent, h.forest.OnPath (.cancellation scope) k
  earliest : IsEarliest
    {time | node.origin = .deadline time ∨ ∃ k ∈ node.parent, h.forest.OnPath (.deadline time) k}
    node.context.deadline

namespace Agrees

theorem append (agrees : h.Agrees base tl) {node : Node V} (extension : Extends node h base tl) :
    Agrees { h with forest := h.forest ++ [node] } base tl := by
  have ranked := agrees.ranked
  -- A handle of the longer forest is an old one, or the new context's.
  have handle {i : Nat} {scope : Scope}
      (given : Forest.origin? (h.forest ++ [node]) i = some (.cancellation scope)) :=
    Forest.origin?_append_eq_some.mp given
  refine ⟨ranked.append extension.derived, agrees.base_le, agrees.opened, agrees.alarms,
    ?own, ?single, ?used, ?canceled, ?scopes, ?earliest⟩
  case own =>
    intro i scope given
    rcases handle given with given | ⟨-, given⟩
    · exact agrees.own i scope given
    · have own := extension.own scope given
      exact ⟨own.1, own.2.1⟩
  case single =>
    intro i j scope hi hj
    rcases handle hi with hi | ⟨hi, new⟩
    · rcases handle hj with hj | ⟨-, new⟩
      · exact agrees.single i j scope hi hj
      · exact absurd hi ((extension.own scope new).2.2.2 i)
    · rcases handle hj with hj | ⟨hj, -⟩
      · exact absurd hj ((extension.own scope new).2.2.2 j)
      · exact hi.trans hj.symm
  case used =>
    intro i mem
    obtain ⟨scope, given⟩ := agrees.used i mem
    exact ⟨scope, Forest.origin?_append_eq_some.mpr (.inl given)⟩
  case canceled =>
    intro i scope given
    rcases handle given with given | ⟨rfl, new⟩
    · exact agrees.canceled i scope given
    · -- The new handle was never used, and nothing else cancels its scope.
      refine iff_of_false (extension.own scope new).2.2.1 fun mem => ?_
      obtain ⟨other, given⟩ := agrees.used _ mem
      exact absurd (Forest.lt_of_origin? given) (Nat.lt_irrefl _)
  case scopes =>
    intro j other given scope
    rcases Forest.getElem?_append_eq_some.mp given with given | ⟨rfl, rfl⟩
    · have old := (List.getElem?_eq_some_iff.mp given).1
      rw [Forest.onPath_append_of_lt ranked old]
      exact agrees.scopes j other given scope
    · rw [Forest.onPath_append_length ranked extension.derived]
      exact extension.scopes scope
  case earliest =>
    intro j other given
    rcases Forest.getElem?_append_eq_some.mp given with given | ⟨rfl, rfl⟩
    · have old := (List.getElem?_eq_some_iff.mp given).1
      simp only [Forest.deadlines, Forest.onPath_append_of_lt ranked old]
      exact agrees.earliest j other given
    · simp only [Forest.deadlines, Forest.onPath_append_length ranked extension.derived]
      exact extension.earliest

/-- A scope that is opened now belongs to no handle yet. -/
theorem opening (agrees : h.Agrees base tl) :
    h.Agrees base { tl with opened := tl.opened + 1 } where
  __ := agrees
  base_le := Nat.le_succ_of_le agrees.base_le
  opened scope mem := Nat.lt_succ_of_lt (agrees.opened scope mem)
  own i scope given :=
    ⟨(agrees.own i scope given).1, Nat.lt_succ_of_lt (agrees.own i scope given).2⟩

theorem advance (agrees : h.Agrees base tl) (time : Instant) :
    h.Agrees base (tl.advance time) where
  __ := agrees
  opened scope mem := by
    simp only [Timeline.advance, List.mem_append, List.mem_map, List.mem_filter] at mem
    rcases mem with ⟨alarm, ⟨mem, -⟩, rfl⟩ | mem
    · exact Nat.lt_of_lt_of_le (agrees.alarms alarm mem) agrees.base_le
    · exact agrees.opened scope mem
  alarms alarm mem := agrees.alarms alarm ((List.mem_filter.mp mem).1)
  canceled i scope given := by
    rw [← agrees.canceled i scope given]
    simp only [Timeline.advance, List.mem_append, List.mem_map, List.mem_filter]
    refine ⟨?_, .inr⟩
    rintro (⟨alarm, ⟨mem, -⟩, rfl⟩ | mem)
    · exact absurd (agrees.own i _ given).1 (Nat.not_le_of_lt (agrees.alarms alarm mem))
    · exact mem

theorem cancel (agrees : h.Agrees base tl) {i : Nat} {scope : Scope}
    (handle : h.forest.origin? i = some (.cancellation scope)) :
    Agrees { h with canceled := i :: h.canceled } base (tl.cancel scope) where
  __ := agrees
  opened other mem := by
    rcases List.mem_cons.mp mem with rfl | mem
    · exact (agrees.own i other handle).2
    · exact agrees.opened other mem
  used j mem := by
    rcases List.mem_cons.mp mem with rfl | mem
    · exact ⟨scope, handle⟩
    · exact agrees.used j mem
  canceled j other given := by
    simp only [Timeline.cancel, List.mem_cons, agrees.canceled j other given]
    -- One scope, one handle.
    have same : other = scope ↔ j = i := by
      constructor
      · rintro rfl
        exact agrees.single j i other given handle
      · rintro rfl
        rw [handle] at given
        cases given
        rfl
    rw [same]

end Agrees

/-! ## Each step keeps the agreement -/

theorem Agrees.extends_alike (agrees : h.Agrees base tl) {parent : Nat} {node : Node V}
    (given : h.forest[parent]? = some node) {origin : Origin V} {context : Context V}
    (no_handle : ∀ scope, origin ≠ .cancellation scope) (no_deadline : ∀ time, origin ≠ .deadline time)
    (alike : context.signal = node.context.signal) :
    Extends ⟨some parent, origin, context⟩ h base tl where
  derived k derived := by
    cases derived
    exact (List.getElem?_eq_some_iff.mp given).1
  own scope handle := absurd handle (no_handle scope)
  scopes scope := by
    simp [no_handle, alike, agrees.scopes parent node given scope]
  earliest := by
    have earliest := agrees.earliest parent node given
    simpa [no_deadline, Context.deadline, alike, Forest.deadlines] using earliest

theorem Agrees.extends_deadline (agrees : h.Agrees base tl) {parent : Nat} {node : Node V}
    (given : h.forest[parent]? = some node) (time : Instant) :
    Extends ⟨some parent, .deadline time, node.context.withDeadline time⟩ h base tl where
  derived k derived := by
    cases derived
    exact (List.getElem?_eq_some_iff.mp given).1
  own scope handle := by cases handle
  scopes scope := by
    simp [withDeadline, agrees.scopes parent node given scope]
  earliest := by
    have earliest := (agrees.earliest parent node given).insert time
    have times : {t | Origin.deadline time = (.deadline t : Origin V) ∨
        ∃ k ∈ some parent, h.forest.OnPath (.deadline t) k} =
          insert time (h.forest.deadlines parent) := by
      ext t
      simp [Forest.deadlines, eq_comm]
    rwa [times]

theorem Agrees.extends_cancellation (agrees : h.Agrees base tl) {parent : Nat} {node : Node V}
    (given : h.forest[parent]? = some node) :
    Extends ⟨some parent, .cancellation ⟨tl.opened⟩, node.context.within ⟨tl.opened⟩⟩ h base
      { tl with opened := tl.opened + 1 } where
  derived k derived := by
    cases derived
    exact (List.getElem?_eq_some_iff.mp given).1
  own scope handle := by
    cases handle
    refine ⟨agrees.base_le, Nat.lt_succ_self _, fun mem => ?_, fun i given => ?_⟩
    · exact Nat.lt_irrefl _ (agrees.opened _ mem)
    · exact Nat.lt_irrefl _ (agrees.own i _ given).2
  scopes scope := by
    simp [within, agrees.scopes parent node given scope, eq_comm]
  earliest := by
    have earliest := agrees.earliest parent node given
    simpa [within, Context.deadline, Forest.deadlines] using earliest

/-- From `s` the program comes to a history that agrees, with all the contexts there were. -/
def Continues (h : History V) (base : Nat) (p : Program H (History V)) (s : State H) : Prop :=
  ∃ h' s', p.run s = (.ok h', s') ∧ h'.Agrees base s'.timeline ∧ h.forest <+: h'.forest

variable {s : State H}

/-- A context is derived, if its parent is there and what `make` makes of it extends the history. -/
theorem Agrees.derive (agrees : h.Agrees base s.timeline) {parent : Nat}
    {make : Context V → Program H (Origin V × Context V)}
    (makes : ∀ node, h.forest[parent]? = some node → ∃ origin context s',
      (make node.context).run s = (.ok (origin, context), s') ∧ h.Agrees base s'.timeline ∧
        Extends ⟨some parent, origin, context⟩ h base s'.timeline) :
    h.Continues base (h.derive parent make) s := by
  have unchanged : h.Continues base (pure h) s := ⟨h, s, rfl, agrees, List.prefix_rfl⟩
  rw [History.derive]
  cases given : h.forest[parent]? with
  | none => exact unchanged
  | some node =>
    by_cases dropped : parent ∈ h.dropped
    · simpa only [if_pos dropped] using unchanged
    · obtain ⟨origin, context, s', made, agrees', extension⟩ := makes node given
      simp only [if_neg dropped]
      exact ⟨_, s', Program.run_bind_ok made _, agrees'.append extension, List.prefix_append _ _⟩

theorem Agrees.perform (agrees : h.Agrees base s.timeline) (step : Step V) :
    h.Continues base (h.perform step) s := by
  cases step with
  | background =>
    refine ⟨_, s, rfl, agrees.append ⟨?_, ?_, ?_, ?_⟩, List.prefix_append _ _⟩
    · simp
    · simp
    · simp [Context.background]
    · simp [Context.background, Context.deadline, IsEarliest]
  | withCancel parent =>
    rw [History.perform]
    refine agrees.derive fun node given => ?_
    exact ⟨_, _, _, rfl, agrees.opening, agrees.extends_cancellation given⟩
  | withTimeout parent length =>
    rw [History.perform]
    refine agrees.derive fun node given => ?_
    exact ⟨_, _, s, rfl, agrees, agrees.extends_deadline given _⟩
  | withDeadline parent time =>
    rw [History.perform]
    refine agrees.derive fun node given => ?_
    exact ⟨_, _, s, rfl, agrees, agrees.extends_deadline given time⟩
  | withValue parent key value =>
    rw [History.perform]
    refine agrees.derive fun node given => ?_
    exact ⟨_, _, s, rfl, agrees, agrees.extends_alike given (by simp) (by simp) rfl⟩
  | clone original =>
    rw [History.perform]
    refine agrees.derive fun node given => ?_
    exact ⟨_, _, s, rfl, agrees, agrees.extends_alike given (by simp) (by simp) rfl⟩
  | drop context => exact ⟨_, s, rfl, { agrees with }, List.prefix_rfl⟩
  | cancel context =>
    rw [History.perform]
    split
    · rename_i scope handle
      exact ⟨_, _, rfl, agrees.cancel handle, List.prefix_rfl⟩
    · exact ⟨h, s, rfl, agrees, List.prefix_rfl⟩
  | sleep length => exact ⟨h, _, rfl, agrees.advance _, List.prefix_rfl⟩

theorem Agrees.performAll (agrees : h.Agrees base s.timeline) (steps : List (Step V)) :
    h.Continues base (h.performAll steps) s := by
  induction steps generalizing h s with
  | nil => exact ⟨h, s, rfl, agrees, List.prefix_rfl⟩
  | cons step rest ih =>
    obtain ⟨h₁, s₁, first, agrees, kept⟩ := agrees.perform step
    obtain ⟨h', s', others, agrees, kept'⟩ := ih agrees
    exact ⟨h', s', (Program.run_bind_ok first _).trans others, agrees, kept.trans kept'⟩

theorem agrees_nil (orderly : tl.Orderly) : Agrees ({} : History V) tl.opened tl where
  ranked _ _ given := by simp at given
  base_le := Nat.le_refl _
  opened := orderly.canceled
  alarms := orderly.alarms
  own _ _ given := by simp [Forest.origin?] at given
  single _ _ _ given := by simp [Forest.origin?] at given
  used _ mem := by simp at mem
  canceled _ _ given := by simp [Forest.origin?] at given
  scopes _ _ given := by simp at given
  earliest _ _ given := by simp at given

/-! ## What contexts report -/

namespace Agrees

variable {j : Nat} {node : Node V}

theorem reports_canceled_iff (agrees : h.Agrees base s.timeline)
    (given : h.forest[j]? = some node) :
    node.context.Reports s (some .canceled) ↔ h.Canceled j := by
  rw [reports_iff, Timeline.status_eq_canceled_iff]
  constructor
  · rintro ⟨scope, mem, gone⟩
    obtain ⟨i, above, handle⟩ := (agrees.scopes j node given scope).mp mem
    exact ⟨i, (agrees.canceled i scope handle).mp gone, above⟩
  · rintro ⟨i, used, above⟩
    obtain ⟨scope, handle⟩ := agrees.used i used
    exact ⟨scope, (agrees.scopes j node given scope).mpr ⟨i, above, handle⟩,
      (agrees.canceled i scope handle).mpr used⟩

theorem reports_deadlineExceeded_iff (agrees : h.Agrees base s.timeline)
    (given : h.forest[j]? = some node) :
    node.context.Reports s (some .deadlineExceeded) ↔
      ¬ h.Canceled j ∧ ∃ time ∈ node.context.deadline, time ≤ s.timeline.now := by
  rw [← agrees.reports_canceled_iff given, reports_iff, reports_iff,
    Timeline.status_eq_deadlineExceeded_iff, Timeline.status_eq_canceled_iff]
  simp [Context.deadline]

theorem reports_none_iff (agrees : h.Agrees base s.timeline) (given : h.forest[j]? = some node) :
    node.context.Reports s none ↔
      ¬ h.Canceled j ∧ ∀ time ∈ node.context.deadline, s.timeline.now < time := by
  have canceled := agrees.reports_canceled_iff given
  have exceeded := agrees.reports_deadlineExceeded_iff given
  rw [reports_iff] at canceled exceeded ⊢
  cases hstatus : s.timeline.status node.context.signal with
  | none =>
    simp only [hstatus, reduceCtorEq, false_iff] at canceled exceeded
    simp only [true_iff]
    refine ⟨canceled, fun time mem => Nat.lt_of_not_le fun le => ?_⟩
    exact exceeded ⟨canceled, time, mem, le⟩
  | some reason =>
    simp only [reduceCtorEq, false_iff]
    rintro ⟨live, ahead⟩
    cases reason with
    | canceled => exact live (canceled.mp hstatus)
    | deadlineExceeded =>
      obtain ⟨-, time, mem, le⟩ := exceeded.mp hstatus
      exact absurd (ahead time mem) (Nat.not_lt_of_le le)

/-- What ends a context ends those derived from it. -/
theorem done_below (agrees : h.Agrees base s.timeline) {k : Nat} {lower : Node V}
    (given : h.forest[j]? = some node) (below_given : h.forest[k]? = some lower)
    (above : h.forest.Above j k) (done : node.context.Done s) : lower.context.Done s := by
  rw [done_iff, agrees.reports_none_iff below_given]
  rw [done_iff, agrees.reports_none_iff given] at done
  rintro ⟨uncanceled, ahead⟩
  refine done ⟨?_, fun time mem => ?_⟩
  · rintro ⟨i, used, path⟩
    exact uncanceled ⟨i, used, path.trans above⟩
  -- The deadline of the upper context was set on the way down to the lower one too.
  have upper := agrees.earliest j node given
  rw [Option.mem_def.mp mem] at upper
  have least : IsLeast (h.forest.deadlines j) time := upper
  obtain ⟨i, path, set⟩ := least.1
  have on_path : time ∈ h.forest.deadlines k := ⟨i, path.trans above, set⟩
  have earliest := agrees.earliest k lower below_given
  cases hd : lower.context.deadline with
  | none =>
    rw [hd] at earliest
    have empty : h.forest.deadlines k = ∅ := earliest
    rw [empty] at on_path
    exact absurd on_path (Set.notMem_empty time)
  | some first =>
    rw [hd] at earliest
    have least : IsLeast (h.forest.deadlines k) first := earliest
    exact Nat.lt_of_lt_of_le (ahead first hd) (least.2 on_path)

theorem reports_congr (agrees : h.Agrees base s.timeline) {s' : State H}
    (agrees' : h'.Agrees base s'.timeline) (given : h.forest[j]? = some node)
    (given' : h'.forest[j]? = some node) (canceled : h'.Canceled j ↔ h.Canceled j)
    (now : s'.timeline.now = s.timeline.now) (answer : Option Cancellation) :
    node.context.Reports s' answer ↔ node.context.Reports s answer := by
  cases answer with
  | none => rw [agrees.reports_none_iff given, agrees'.reports_none_iff given', canceled, now]
  | some reason =>
    cases reason with
    | canceled =>
      rw [agrees.reports_canceled_iff given, agrees'.reports_canceled_iff given', canceled]
    | deadlineExceeded =>
      rw [agrees.reports_deadlineExceeded_iff given, agrees'.reports_deadlineExceeded_iff given',
        canceled, now]

/-- Whatever is done next, a context that has ended has ended for good. -/
theorem done_later (agrees : h.Agrees base s.timeline) (given : h.forest[j]? = some node)
    (steps : List (Step V)) :
    ∃ h' s', (h.performAll steps).run s = (.ok h', s') ∧ h'.forest[j]? = some node ∧
      (node.context.Done s → node.context.Done s') := by
  obtain ⟨h', s', ran, -, kept⟩ := agrees.performAll steps
  refine ⟨h', s', ran, ?_, fun done => ?_⟩
  · obtain ⟨more, same⟩ := kept
    rw [← same, List.getElem?_append_left (List.getElem?_eq_some_iff.mp given).1, given]
  · rw [done_iff, reports_iff] at done ⊢
    exact fun live => done ((Program.later_of_run ran).timeline.live live)

/-- A handle cancels the context that it came with and those derived from it, and no other. -/
theorem cancel_elsewhere (agrees : h.Agrees base s.timeline) (given : h.forest[j]? = some node)
    {i : Nat} (elsewhere : ¬ h.forest.Above i j) :
    ∃ h' s', (h.perform (.cancel i)).run s = (.ok h', s') ∧ h'.forest[j]? = some node ∧
      ∀ answer, node.context.Reports s' answer ↔ node.context.Reports s answer := by
  rw [History.perform]
  split
  · rename_i scope handle
    refine ⟨_, _, rfl, given, agrees.reports_congr (agrees.cancel handle) given given ?_ rfl⟩
    constructor
    · rintro ⟨k, used, above⟩
      rcases List.mem_cons.mp used with rfl | used
      · exact absurd above elsewhere
      · exact ⟨k, used, above⟩
    · rintro ⟨k, used, above⟩
      exact ⟨k, List.mem_cons_of_mem _ used, above⟩
  · exact ⟨h, s, rfl, given, fun _ => Iff.rfl⟩

end Agrees

end History

/-- After any history, and for every context made in it: the deadline is the earliest of those set
on the way down to the context; the context reports that it was canceled just if a handle given out
on that way was used, before or after the context was derived; otherwise that its deadline is
exceeded just if the instant has come; otherwise nothing. So a context that has ended has ended for
good, with all those derived from it, and using a handle changes nothing for the contexts that were
not derived from the one that it came with. -/
theorem forest_reports (steps : List (Step V)) (s : State H) (orderly : s.timeline.Orderly) :
    ∃ (h : History V) (s₁ : State H), (History.performAll {} steps).run s = (.ok h, s₁) ∧
      ∀ (j : Nat) (node : Node V), h.forest[j]? = some node →
        IsEarliest (h.forest.deadlines j) node.context.deadline ∧
        (node.context.Reports s₁ (some .canceled) ↔ h.Canceled j) ∧
        (node.context.Reports s₁ (some .deadlineExceeded) ↔
          ¬ h.Canceled j ∧ ∃ time ∈ node.context.deadline, time ≤ s₁.timeline.now) ∧
        (node.context.Reports s₁ none ↔
          ¬ h.Canceled j ∧ ∀ time ∈ node.context.deadline, s₁.timeline.now < time) ∧
        (∀ more : List (Step V), ∃ h₂ s₂, (h.performAll more).run s₁ = (.ok h₂, s₂) ∧
          h₂.forest[j]? = some node ∧ (node.context.Done s₁ → node.context.Done s₂)) ∧
        (∀ (k : Nat) (lower : Node V), h.forest[k]? = some lower → h.forest.Above j k →
          node.context.Done s₁ → lower.context.Done s₁) ∧
        (∀ i, ¬ h.forest.Above i j → ∃ h₂ s₂, (h.perform (.cancel i)).run s₁ = (.ok h₂, s₂) ∧
          h₂.forest[j]? = some node ∧
            ∀ answer, node.context.Reports s₂ answer ↔ node.context.Reports s₁ answer) := by
  obtain ⟨h, s₁, ran, agrees, -⟩ := (History.agrees_nil orderly).performAll steps
  refine ⟨h, s₁, ran, fun j node given => ?_⟩
  refine ⟨agrees.earliest j node given, agrees.reports_canceled_iff given,
    agrees.reports_deadlineExceeded_iff given, agrees.reports_none_iff given,
    agrees.done_later given, ?_, ?_⟩
  · intro k lower below_given above done
    exact agrees.done_below given below_given above done
  · intro i elsewhere
    exact agrees.cancel_elsewhere given elsewhere

/-- A context derived from one that was canceled before is canceled from the start, whatever becomes
of the one in between; a sibling under the same root goes on to its deadline. An older scope and its
alarm are about. -/
theorem forest_reports_siblings :
    let s : State ⟨Unit, Unit⟩ :=
      { timeline := { now := 3, opened := 1, canceled := [⟨0⟩], alarms := [(9, ⟨0⟩)] }, host := () }
    let steps : List (Step fun _ : Unit => Nat) :=
      [.background, .withCancel 0, .withDeadline 1 20, .cancel 1, .withTimeout 2 (.ofNanos 5),
        .drop 1, .withCancel 0, .withDeadline 4 8, .sleep (.ofNanos 5)]
    ∃ h s₁, s.timeline.Orderly ∧ (History.performAll {} steps).run s = (.ok h, s₁) ∧
      ∃ derived sibling, h.forest[3]? = some derived ∧ h.forest[5]? = some sibling ∧
        derived.context.deadline = some 8 ∧ derived.context.Reports s₁ (some .canceled) ∧
        sibling.context.deadline = some 8 ∧ sibling.context.Reports s₁ (some .deadlineExceeded) := by
  intro s steps
  have orderly : s.timeline.Orderly := ⟨by decide, by decide⟩
  obtain ⟨h, s₁, ran, reports⟩ := forest_reports steps s orderly
  refine ⟨h, s₁, orderly, ran, ?_⟩
  obtain ⟨hforest, htimeline⟩ := Prod.mk.inj ran
  cases hforest
  cases htimeline
  refine ⟨_, _, rfl, rfl, rfl, ?_, rfl, ?_⟩
  · refine (reports 3 _ rfl).2.1.mpr ⟨1, by decide, ?_⟩
    exact .child rfl rfl (.child rfl rfl (.self (by decide)))
  · refine (reports 5 _ rfl).2.2.1.mpr ⟨?_, 8, rfl, by decide⟩
    rintro ⟨i, used, above⟩
    -- The way down is 0, 4, 5; the handle used came with 1.
    obtain rfl : i = 1 := List.mem_singleton.mp used
    obtain here | ⟨_, ⟨⟩, above⟩ := (Forest.above_iff rfl).mp above
    · exact absurd here (by decide)
    obtain here | ⟨_, ⟨⟩, above⟩ := (Forest.above_iff rfl).mp above
    · exact absurd here (by decide)
    obtain here | ⟨_, ⟨⟩, -⟩ := (Forest.above_iff rfl).mp above
    exact absurd here (by decide)

end Context

end SessionKeeper
