import SessionKeeper.Timeline

/-!
Contexts carry a cancellation signal, a deadline and typed attachments through every call. A context
never changes: each way to derive one leaves the old one as it was. Attachments are found by key,
the one attached last first, so a nearer attachment hides those with the same key further out.

`with_cancel`, `with_deadline`, `with_timeout` and `with_value` are the ways to derive a context. A
context holds the scopes that cancel it and the earliest of its deadlines, put together when it is
derived; that this is the same as asking each context on the way up is proved of whole forests.
-/

namespace SessionKeeper

/-- A context whose attachments have keys in `κ`, the one under `k` being a `V k`. -/
structure Context {κ : Type} (V : κ → Type) where
  signal : Signal := {}
  /-- The attachment made last comes first. -/
  attachments : List (Sigma V) := []

namespace Context

variable {κ : Type} {V : κ → Type}

/-- The root of every context: never canceled, no deadline, nothing attached. -/
def background : Context V := {}

/-- A context that ends when `scope` is canceled, or `ctx` does. -/
def within (ctx : Context V) (scope : Scope) : Context V :=
  { ctx with signal := { ctx.signal with scopes := scope :: ctx.signal.scopes } }

/-- A context that ends at `deadline`, or at the deadline of `ctx` if that comes first. -/
def withDeadline (ctx : Context V) (deadline : Instant) : Context V :=
  -- A context cannot outlive the one that it was derived from.
  let deadline := match ctx.signal.deadline with
    | some current => if current ≤ deadline then current else deadline
    | none => deadline
  { ctx with signal := { ctx.signal with deadline := some deadline } }

def withValue (ctx : Context V) (key : κ) (value : V key) : Context V :=
  { ctx with attachments := ⟨key, value⟩ :: ctx.attachments }

def deadline (ctx : Context V) : Option Instant := ctx.signal.deadline

/-- The first attachment in the list with the given key. -/
def find? [DecidableEq κ] (key : κ) : List (Sigma V) → Option (V key)
  | [] => none
  | ⟨k, value⟩ :: rest => if h : k = key then some (h ▸ value) else find? key rest

/-- The nearest attachment with the given key. -/
def value? [DecidableEq κ] (ctx : Context V) (key : κ) : Option (V key) := find? key ctx.attachments

/-! ## What derivations keep -/

/-- The attachment made last is the nearest. -/
@[simp] theorem value?_withValue_self [DecidableEq κ] (ctx : Context V) (key : κ) (value : V key) :
    (ctx.withValue key value).value? key = some value := by
  simp [withValue, value?, find?]

/-- An attachment hides none under another key. -/
theorem value?_withValue_of_ne [DecidableEq κ] (ctx : Context V) {key other : κ} (value : V key)
    (h : key ≠ other) : (ctx.withValue key value).value? other = ctx.value? other := by
  simp [withValue, value?, find?, h]

@[simp] theorem value?_within [DecidableEq κ] (ctx : Context V) (scope : Scope) (key : κ) :
    (ctx.within scope).value? key = ctx.value? key := rfl

@[simp] theorem value?_withDeadline [DecidableEq κ] (ctx : Context V) (deadline : Instant)
    (key : κ) : (ctx.withDeadline deadline).value? key = ctx.value? key := rfl

/-- Of two deadlines the earlier one counts. -/
theorem deadline_withDeadline (ctx : Context V) (deadline : Instant) :
    (ctx.withDeadline deadline).deadline =
      some ((ctx.deadline.map (min · deadline)).getD deadline) := by
  cases h : ctx.signal.deadline with
  | none => simp [withDeadline, Context.deadline, h]
  | some current =>
    by_cases le : current ≤ deadline
    · simp [withDeadline, Context.deadline, h, Nat.min_def, le]
    · simp [withDeadline, Context.deadline, h, Nat.min_def, le]

/-- The words for a context without a deadline, given whether it is done. -/
def describe? (ctx : Context V) (status : Option Cancellation) : Option String :=
  match ctx.deadline with
  | some _ => none
  | none =>
    let shown := match status with
      | none => "None"
      | some .canceled => "Some(Canceled)"
      | some .deadlineExceeded => "Some(DeadlineExceeded)"
    some ("Context \x7b deadline: None, err: " ++ shown ++ ", .. \x7d")

end Context

end SessionKeeper
