import SessionKeeper.Program.Race

/-!
The handle of a transaction attempt, and the context that carries it. A handle is good for the
length of its attempt: it leads to the connection by way of a lease, and once the lease has ended
every copy of the handle finds nothing there, whoever holds it.

Correspondence: `lock` ↔ `Handle.lock`, `release` ↔ `Handle.release`, `is_finished` ↔
`Handle.isFinished`; `bind` and `active` of the registry ↔ `RequestContext.bind` and
`RequestContext.active?`. Units of work run one program at a time, so nobody waits for a lock here.
-/

namespace SessionKeeper

/-- A transaction attempt as its unit of work sees it. -/
structure Handle where
  lease : Lease
  mode : Mode
  /-- The number of the attempt, from 1. -/
  attempt : Nat
  deriving DecidableEq, Repr

namespace Handle

variable {H : Host}

/-- The failure of whoever uses a handle whose attempt is over. -/
def escaped : Failure :=
  ⟨.internal, "transaction already finished; its handle escaped the unit of work", []⟩

/-- Whether the attempt is over. -/
def isFinished (h : Handle) : Program H Bool := .leaseEnded h.lease

/-- The connection, while the attempt lasts. -/
def lock (h : Handle) : Work H Connection := ExceptT.mk do
  match ← .borrow h.lease with
  | some connection => return .ok connection
  | none => return .error escaped

/-- Takes the connection back and ends the attempt's right to it. -/
def release (h : Handle) : Program H (Option Connection) := .endLease h.lease

end Handle

/-- What can be attached to the context of a request. -/
inductive Slot where
  /-- The active transaction on a channel. -/
  | transaction (channel : Channel)
  | text (name : String)
  | number (name : String)
  deriving DecidableEq, Repr

@[reducible] def Slot.Value : Slot → Type
  | .transaction _ => Handle
  | .text _ => String
  | .number _ => Int

abbrev RequestContext := Context Slot.Value

namespace RequestContext

/-- A context in which `handle` is the active transaction of its channel. -/
def bind (ctx : RequestContext) (channel : Channel) (handle : Handle) : RequestContext :=
  ctx.withValue (.transaction channel) handle

/-- The active transaction of a channel. -/
def active? (ctx : RequestContext) (channel : Channel) : Option Handle :=
  ctx.value? (.transaction channel)

/-- A bound transaction is the active one of its channel. -/
@[simp] theorem active?_bind_self (ctx : RequestContext) (channel : Channel) (handle : Handle) :
    (ctx.bind channel handle).active? channel = some handle :=
  Context.value?_withValue_self _ _ _

theorem active?_bind_of_ne (ctx : RequestContext) {channel other : Channel} (handle : Handle)
    (h : channel ≠ other) : (ctx.bind channel handle).active? other = ctx.active? other :=
  Context.value?_withValue_of_ne _ _ (by simpa using h)

end RequestContext

end SessionKeeper
