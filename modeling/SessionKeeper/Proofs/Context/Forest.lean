import Mathlib.Order.Bounds.Basic
import SessionKeeper.Program.Lemmas
import SessionKeeper.Program.Race

/-!
Forests of contexts. A history is any sequence of steps that make contexts, derive some from others,
clone and drop them, cancel through the handles that came with them, and let time pass. The contexts
made are kept with the one that each was derived from, so the way from a root down to a context is a
notion of its own (`Forest.Above`), told without asking what the context itself holds.

`Forest.OnPath` says how some context on the way came about: which deadlines were set there, which
handles were given out there. A context added to a forest leaves every older way as it was
(`Forest.onPath_append_of_lt`), and its own way is its parent's and itself
(`Forest.onPath_append_length`).

Correspondence: the steps are `background`, `with_cancel`, `with_deadline`, `with_timeout`,
`with_value`, `clone`, the drop of a context, and `cancel` of a handle. A forest keeps what was
dropped, so that nothing said of the others depends on it.
-/

namespace SessionKeeper.Context

variable {H : Host} {κ : Type} {V : κ → Type}

/-- How a context came about. -/
inductive Origin (V : κ → Type) where
  | background
  /-- It came with a handle that cancels `scope`. -/
  | cancellation (scope : Scope)
  /-- A deadline was set on it. -/
  | deadline (time : Instant)
  | value (key : κ) (value : V key)
  | clone

/-- A context, and the number of the one that it was derived from. -/
structure Node (V : κ → Type) where
  parent : Option Nat
  origin : Origin V
  context : Context V

/-- Contexts in the order in which they were made; they are numbered from 0. -/
abbrev Forest (V : κ → Type) := List (Node V)

namespace Forest

def origin? (f : Forest V) (i : Nat) : Option (Origin V) := f[i]?.map (·.origin)

/-- The context numbered `i` is on the way from a root down to the one numbered `j`, both ends
included. -/
inductive Above (f : Forest V) (i : Nat) : Nat → Prop where
  | self (given : i < f.length) : f.Above i i
  | child {j k : Nat} {node : Node V} (given : f[j]? = some node) (derived : k ∈ node.parent)
      (above : f.Above i k) : f.Above i j

/-- Some context on the way down to the one numbered `j` came about in this way. -/
def OnPath (f : Forest V) (origin : Origin V) (j : Nat) : Prop :=
  ∃ i, f.Above i j ∧ f.origin? i = some origin

/-- The deadlines set on the way down to the context numbered `j`. -/
def deadlines (f : Forest V) (j : Nat) : Set Instant := {time | f.OnPath (.deadline time) j}

/-- Whatever a context was derived from was made before it. -/
def Ranked (f : Forest V) : Prop :=
  ∀ (j : Nat) (node : Node V), f[j]? = some node → ∀ k ∈ node.parent, k < j

end Forest

/-- What came of a sequence of steps. -/
structure History (V : κ → Type) where
  forest : Forest V := []
  /-- The numbers of the contexts whose handles were used to cancel. -/
  canceled : List Nat := []
  /-- The numbers of the contexts that were given up: nothing is derived from them any more. -/
  dropped : List Nat := []

/-- What may be done next. Contexts, and the handles that came with them, go by their numbers. -/
inductive Step (V : κ → Type) where
  | background
  | withCancel (parent : Nat)
  | withTimeout (parent : Nat) (length : Duration)
  | withDeadline (parent : Nat) (time : Instant)
  | withValue (parent : Nat) (key : κ) (value : V key)
  | clone (original : Nat)
  | drop (context : Nat)
  /-- Cancels through the handle that came with the context. -/
  | cancel (context : Nat)
  | sleep (length : Duration)

namespace History

/-- Derives a context from the one numbered `parent`, if that was made and not given up. -/
def derive (h : History V) (parent : Nat) (make : Context V → Program H (Origin V × Context V)) :
    Program H (History V) :=
  match h.forest[parent]? with
  | some node =>
    if parent ∈ h.dropped then return h
    else do
      let (origin, context) ← make node.context
      return { h with forest := h.forest ++ [⟨some parent, origin, context⟩] }
  | none => return h

/-- Takes a step. What does not exist is left alone. -/
def perform (h : History V) : Step V → Program H (History V)
  | .background =>
    return { h with forest := h.forest ++ [⟨none, .background, Context.background⟩] }
  | .withCancel parent => h.derive parent fun ctx => do
    let (context, scope) ← ctx.withCancel
    return (.cancellation scope, context)
  | .withTimeout parent length => h.derive parent fun ctx => do
    let now ← Program.now
    return (.deadline (now + length.toNanos), ← ctx.withTimeout length)
  | .withDeadline parent time => h.derive parent fun ctx =>
    return (.deadline time, ctx.withDeadline time)
  | .withValue parent key value => h.derive parent fun ctx =>
    return (.value key value, ctx.withValue key value)
  | .clone original => h.derive original fun ctx => return (.clone, ctx)
  | .drop context => return { h with dropped := context :: h.dropped }
  | .cancel context =>
    match h.forest.origin? context with
    | some (.cancellation scope) => do
      Program.cancel scope
      return { h with canceled := context :: h.canceled }
    | _ => return h
  | .sleep length => do
    Program.sleep length
    return h

/-- Takes one step after another. -/
def performAll (h : History V) : List (Step V) → Program H (History V)
  | [] => return h
  | step :: rest => do (← h.perform step).performAll rest

/-- A handle that was given out on the way down to the context numbered `j` was used to cancel. -/
def Canceled (h : History V) (j : Nat) : Prop := ∃ i ∈ h.canceled, h.forest.Above i j

end History

/-! ## Ways down a forest -/

namespace Forest

variable {f : Forest V} {node : Node V} {origin : Origin V} {i j : Nat}

theorem Above.top_lt_length (above : f.Above i j) : i < f.length := by
  induction above with
  | self given => exact given
  | child _ _ _ ih => exact ih

theorem Above.trans {k : Nat} (above : f.Above i j) (further : f.Above j k) : f.Above i k := by
  induction further with
  | self => exact above
  | child given derived _ ih => exact .child given derived ih

/-- On the way down to a context are itself and what is on the way down to its parent. -/
theorem above_iff (given : f[j]? = some node) :
    f.Above i j ↔ i = j ∨ ∃ k ∈ node.parent, f.Above i k := by
  constructor
  · intro above
    cases above with
    | self => exact .inl rfl
    | child given' parent above =>
      rw [given] at given'
      cases given'
      exact .inr ⟨_, parent, above⟩
  · rintro (rfl | ⟨k, parent, above⟩)
    · exact .self (List.getElem?_eq_some_iff.mp given).1
    · exact .child given parent above

theorem Above.append (above : f.Above i j) (more : Forest V) : Above (f ++ more) i j := by
  induction above with
  | self given =>
    refine .self ?_
    rw [List.length_append]
    omega
  | child given derived _ ih =>
    have old := (List.getElem?_eq_some_iff.mp given).1
    exact .child ((List.getElem?_append_left old).trans given) derived ih

theorem Above.of_append (ranked : f.Ranked) (above : Above (f ++ [node]) i j)
    (old : j < f.length) : f.Above i j := by
  induction above with
  | self => exact .self old
  | child given derived _ ih =>
    rw [List.getElem?_append_left old] at given
    exact .child given derived (ih (Nat.lt_trans (ranked _ _ given _ derived) old))

theorem above_append_iff_of_lt (ranked : f.Ranked) (old : j < f.length) :
    Above (f ++ [node]) i j ↔ f.Above i j :=
  ⟨fun above => above.of_append ranked old, fun above => above.append _⟩

/-- The way down to a new context is the way down to its parent, and the new context itself. -/
theorem above_append_length (ranked : f.Ranked) (derived : ∀ k ∈ node.parent, k < f.length) :
    Above (f ++ [node]) i f.length ↔ i = f.length ∨ ∃ k ∈ node.parent, f.Above i k := by
  have last : (f ++ [node])[f.length]? = some node := by simp
  rw [above_iff last]
  have older : ∀ k ∈ node.parent, Above (f ++ [node]) i k ↔ f.Above i k :=
    fun k parent => above_append_iff_of_lt ranked (derived k parent)
  constructor
  · rintro (here | ⟨k, parent, above⟩)
    · exact .inl here
    · exact .inr ⟨k, parent, (older k parent).mp above⟩
  · rintro (here | ⟨k, parent, above⟩)
    · exact .inl here
    · exact .inr ⟨k, parent, (older k parent).mpr above⟩

theorem getElem?_append_eq_some {other : Node V} :
    (f ++ [node])[i]? = some other ↔ f[i]? = some other ∨ i = f.length ∧ node = other := by
  by_cases old : i < f.length
  · rw [List.getElem?_append_left old]
    have older : i ≠ f.length := Nat.ne_of_lt old
    simp [older]
  · have missing : f[i]? = none := List.getElem?_eq_none (Nat.le_of_not_lt old)
    rw [List.getElem?_append_right (Nat.le_of_not_lt old), missing, List.getElem?_singleton]
    have place : i - f.length = 0 ↔ i = f.length := by omega
    simp [place]

theorem origin?_append_length : origin? (f ++ [node]) f.length = some node.origin := by
  simp [origin?]

theorem lt_of_origin? (given : f.origin? i = some origin) : i < f.length := by
  obtain ⟨node, given, -⟩ := Option.map_eq_some_iff.mp given
  exact (List.getElem?_eq_some_iff.mp given).1

theorem origin?_append_eq_some :
    origin? (f ++ [node]) i = some origin ↔
      f.origin? i = some origin ∨ i = f.length ∧ node.origin = origin := by
  simp only [origin?, Option.map_eq_some_iff, getElem?_append_eq_some]
  constructor
  · rintro ⟨other, given | ⟨rfl, rfl⟩, same⟩
    · exact .inl ⟨other, given, same⟩
    · exact .inr ⟨rfl, same⟩
  · rintro (⟨other, given, same⟩ | ⟨rfl, same⟩)
    · exact ⟨other, .inl given, same⟩
    · exact ⟨node, .inr ⟨rfl, rfl⟩, same⟩

theorem onPath_append_of_lt (ranked : f.Ranked) (old : j < f.length) :
    OnPath (f ++ [node]) origin j ↔ f.OnPath origin j := by
  constructor
  · rintro ⟨i, above, given⟩
    have above := above.of_append ranked old
    rcases origin?_append_eq_some.mp given with given | ⟨rfl, -⟩
    · exact ⟨i, above, given⟩
    · exact absurd above.top_lt_length (Nat.lt_irrefl _)
  · rintro ⟨i, above, given⟩
    exact ⟨i, above.append _, origin?_append_eq_some.mpr (.inl given)⟩

theorem onPath_append_length (ranked : f.Ranked) (derived : ∀ k ∈ node.parent, k < f.length) :
    OnPath (f ++ [node]) origin f.length ↔
      node.origin = origin ∨ ∃ k ∈ node.parent, f.OnPath origin k := by
  constructor
  · rintro ⟨i, above, given⟩
    rcases (above_append_length ranked derived).mp above with rfl | ⟨k, parent, above⟩
    · rw [origin?_append_length] at given
      exact .inl (Option.some.inj given)
    · rcases origin?_append_eq_some.mp given with given | ⟨rfl, -⟩
      · exact .inr ⟨k, parent, i, above, given⟩
      · exact absurd above.top_lt_length (Nat.lt_irrefl _)
  · rintro (rfl | ⟨k, parent, i, above, given⟩)
    · exact ⟨f.length, (above_append_length ranked derived).mpr (.inl rfl), origin?_append_length⟩
    · exact ⟨i, (above_append_length ranked derived).mpr (.inr ⟨k, parent, above⟩),
        origin?_append_eq_some.mpr (.inl given)⟩

theorem Ranked.append (ranked : f.Ranked) (derived : ∀ k ∈ node.parent, k < f.length) :
    Ranked (f ++ [node]) := by
  intro j other given k parent
  rcases getElem?_append_eq_some.mp given with given | ⟨rfl, rfl⟩
  · exact ranked j other given k parent
  · exact derived k parent

end Forest

end SessionKeeper.Context
