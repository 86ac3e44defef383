import SessionKeeper.Proofs.Failure.Signature

/-!
Wrapping hides nothing. On its way up an error is put inside others: failures of any kind, errors of
the client library that carry a cause (`configuration`, `decode`), and errors known by their text
alone. A `Wrapper` names one of these ways, and `Wrapper.wrap` goes it with the constructor that the
core and its stores use: `Failure.wrap`, `Failure.internal`, `Failure.application` and
`Failure.canceledDuring` for failures, `DriverFailure.configuration` and `DriverFailure.decode` for
the client library. An error of neither is taken to report what it wraps as its source, which is all
that is asked of it here.

`Wrapper.link` says what each of them is to be seen as. The constructors put that one link in front
of the chain and keep what was there (`chain_wrap`), and it is never a server's error
(`serverError?_link`). By induction on the wrappers the chain of the result is their links and then
the chain of the error (`chain_enclose`), so the server's errors stay the same, in their order, and
a kind is found if it was there before or if one of the wrappers is of it. What the rules of
retrying look at is no more than that, which makes `hides_nothing`.
-/

namespace SessionKeeper

/-- What is put around an error. -/
inductive Wrapper where
  /-- A failure of the given kind. -/
  | failure (kind : Failure.Kind) (message : String)
  | internal (message : String)
  /-- A failure of the business logic, in the words of the error. -/
  | application
  | canceledDuring (reason : Cancellation)
  /-- An error of neither the core nor the client library. -/
  | foreign (message : String)
  /-- The client library's word for a cause found in its configuration. -/
  | configuration
  /-- The client library's word for a cause found in a value. -/
  | decode
  deriving DecidableEq, Repr

namespace Wrapper

variable {w : Wrapper} {ws : List Wrapper} {e : Fault} {f : Failure} {kind : Failure.Kind}

/-- The kind of the failure that the wrapper makes, if it makes one. -/
def kind? : Wrapper → Option Failure.Kind
  | .failure kind _ => some kind
  | .internal _ => some .internal
  | .application => some .application
  | .canceledDuring _ => some .canceled
  | .foreign _ => none
  | .configuration => none
  | .decode => none

/-- The error with the wrapper around it. -/
def wrap : Wrapper → Fault → Fault
  | .failure kind message, e => Failure.wrap kind message e
  | .internal message, e => Failure.internal message e
  | .application, e => Failure.application e.link e.sources
  | .canceledDuring reason, e => Failure.canceledDuring reason e
  | .foreign message, e => ⟨.foreign message, e.chain⟩
  | .configuration, e => DriverFailure.configuration e.link e.sources
  | .decode, e => DriverFailure.decode e.link e.sources

/-- What is to be seen of the wrapper around the error. -/
def link : Wrapper → Fault → Cause
  | .failure kind message, _ => .failure kind message
  | .internal message, _ => .failure .internal message
  | .application, e => .failure .application e.link.text
  | .canceledDuring reason, _ => .failure .canceled reason.text
  | .foreign message, _ => .foreign message
  | .configuration, e => .driver (.configuration e.link.text)
  | .decode, e => .driver (.decode e.link.text)

/-- The error with all the wrappers around it, the first of them outermost. -/
def enclose : List Wrapper → Fault → Fault
  | [], e => e
  | w :: ws, e => w.wrap (enclose ws e)

/-- What is to be seen of the wrappers, outermost first. -/
def links : List Wrapper → Fault → List Cause
  | [], _ => []
  | w :: ws, e => w.link (enclose ws e) :: links ws e

/-! ## Errors of the client library -/

/-- A driver error enters the core as a failure around it. -/
theorem enclose_driver (e : DriverFailure) :
    enclose [failure e.error.kind e.error.text] e.fault = (Failure.ofDriver e).fault := rfl

/-- With a cause found in the configuration, it enters as two wrappers around that cause. -/
theorem enclose_configuration (e : Fault) :
    enclose
        [internal (Failure.ofDriver (.configuration e.link e.sources)).message, configuration] e =
      (Failure.ofDriver (.configuration e.link e.sources)).fault := rfl

theorem enclose_decode (e : Fault) :
    enclose [internal (Failure.ofDriver (.decode e.link e.sources)).message, decode] e =
      (Failure.ofDriver (.decode e.link e.sources)).fault := rfl

/-! ## One wrapper -/

theorem chain_wrap (w : Wrapper) (e : Fault) : (w.wrap e).chain = w.link e :: e.chain := by
  cases w <;> rfl

theorem serverError?_link (w : Wrapper) (e : Fault) : (w.link e).serverError? = none := by
  cases w <;> rfl

theorem isKind_link (w : Wrapper) (e : Fault) (kind : Failure.Kind) :
    (w.link e).isKind kind = true ↔ w.kind? = some kind := by
  cases w <;> simp [link, kind?, Cause.isKind]

theorem exists_failure_of_kind (made : w.kind? = some kind) (e : Fault) :
    ∃ g : Failure, g.fault = w.wrap e := by
  cases w with
  | failure | internal | application | canceledDuring => exact ⟨_, rfl⟩
  | foreign | configuration | decode => simp [kind?] at made

/-! ## Any number of wrappers -/

theorem chain_enclose (ws : List Wrapper) (e : Fault) :
    (enclose ws e).chain = links ws e ++ e.chain := by
  induction ws with
  | nil => rfl
  | cons w ws ih => rw [enclose, chain_wrap, ih, links, List.cons_append]

theorem serverErrors_links (ws : List Wrapper) (e : Fault) :
    (links ws e).filterMap Cause.serverError? = [] := by
  induction ws with
  | nil => rfl
  | cons w ws ih => rw [links, List.filterMap_cons_none (serverError?_link w _), ih]

theorem isKind_links (ws : List Wrapper) (e : Fault) (kind : Failure.Kind) :
    (links ws e).any (·.isKind kind) = true ↔ ∃ w ∈ ws, w.kind? = some kind := by
  induction ws with
  | nil => simp [links]
  | cons w ws ih => rw [links, List.any_cons, Bool.or_eq_true, isKind_link, ih]; simp

theorem enclose_append (ws vs : List Wrapper) (e : Fault) :
    enclose (ws ++ vs) e = enclose ws (enclose vs e) := by
  induction ws with
  | nil => rfl
  | cons w ws ih => rw [List.cons_append, enclose, ih, enclose]

/-- The wrappers make a failure if the outermost of them does. -/
theorem exists_failure (outermost : ∀ w ∈ ws.head?, ∃ kind, w.kind? = some kind) (f : Failure) :
    ∃ g : Failure, g.fault = enclose ws f.fault := by
  cases ws with
  | nil => exact ⟨f, rfl⟩
  | cons w ws =>
    obtain ⟨kind, made⟩ := outermost w rfl
    exact exists_failure_of_kind made _

/-- The failure shows all that is inside its wrappers: the server's errors, in their order, the
kinds with those of the wrappers, and the chain behind their links. -/
structure Shows (ws : List Wrapper) (e : Fault) (g : Failure) : Prop where
  serverErrors : g.serverErrors = e.serverErrors
  is_iff : ∀ kind, g.is kind = true ↔ e.is kind = true ∨ ∃ w ∈ ws, w.kind? = some kind
  chain : g.chain = links ws e ++ e.chain

/-- Whatever failure the wrappers make, it shows what is inside. -/
theorem shows_of_enclose {g : Failure} (made : g.fault = enclose ws e) : Shows ws e g := by
  have chain : g.chain = links ws e ++ e.chain := by
    rw [← Failure.chain_fault, made, chain_enclose]
  refine ⟨?_, fun kind => ?_, chain⟩
  · rw [Failure.serverErrors, chain, List.filterMap_append, serverErrors_links, List.nil_append,
      Fault.serverErrors]
  · rw [Failure.is, chain, List.any_append, Bool.or_eq_true, isKind_links, Fault.is, or_comm]

/-- Unless one of them says canceled or not found, the wrappers do not change whether another
attempt is worth it. -/
theorem Shows.retries {g : Failure} (seen : Shows ws f.fault g)
    (canceled : ∀ w ∈ ws, w.kind? ≠ some .canceled)
    (unknown : ∀ w ∈ ws, w.kind? ≠ some .notFound) (rule : ConflictRule) :
    rule.retries g = rule.retries f := by
  have same : ∀ kind, (∀ w ∈ ws, w.kind? ≠ some kind) → g.is kind = f.is kind := by
    intro kind other
    rw [Bool.eq_iff_iff, seen.is_iff kind, Failure.is_fault]
    exact or_iff_left fun ⟨w, mem, found⟩ => other w mem found
  rw [ConflictRule.retries, ConflictRule.retries, seen.serverErrors, same _ canceled,
    same _ unknown, Failure.serverErrors_fault]

/-- Wrapping never hides the category. Around any failure, any sequence of wrappers whose outermost
is a failure makes a failure that shows it; and if none of them is canceled, not found, of the
application or misconfigured, it is worth another attempt as the one inside is. If that one is what
a driver error has become, the result also shows the driver error, and the cause that this one has
found in a configuration or in a value. -/
theorem hides_nothing (f : Failure) (ws : List Wrapper)
    (outermost : ∀ w ∈ ws.head?, ∃ kind, w.kind? = some kind) :
    ∃ g : Failure, g.fault = enclose ws f.fault ∧ Shows ws f.fault g ∧
      ((∀ w ∈ ws, ∀ kind ∈ [.canceled, .notFound, .application, .misconfigured],
          w.kind? ≠ some kind) →
        ConflictRule.postgres.retries g = ConflictRule.postgres.retries f ∧
          ConflictRule.mysql.retries g = ConflictRule.mysql.retries f) ∧
      (∀ d : DriverFailure, f = .ofDriver d →
        Shows (ws ++ [failure d.error.kind d.error.text]) d.fault g) ∧
      ∀ cause : Fault,
        (f = .ofDriver (.configuration cause.link cause.sources) →
          Shows (ws ++ [internal f.message, configuration]) cause g) ∧
        (f = .ofDriver (.decode cause.link cause.sources) →
          Shows (ws ++ [internal f.message, decode]) cause g) := by
  obtain ⟨g, made⟩ := exists_failure outermost f
  have seen := shows_of_enclose made
  refine ⟨g, made, seen, fun spared => ?_, ?_, fun cause => ⟨?_, ?_⟩⟩
  · have retries := seen.retries (fun w mem => spared w mem .canceled (by simp))
      (fun w mem => spared w mem .notFound (by simp))
    exact ⟨retries .postgres, retries .mysql⟩
  · rintro d rfl
    exact shows_of_enclose (by rw [made, enclose_append, enclose_driver])
  · rintro rfl
    exact shows_of_enclose (by rw [made, enclose_append, enclose_configuration])
  · rintro rfl
    exact shows_of_enclose (by rw [made, enclose_append, enclose_decode])

/-- A serialization failure behind a failed commit, reported by a layer that is not of the core and
once more by the core. -/
theorem hides_nothing_layered :
    ∃ g : Failure, g.serverErrors = [.state (some "40001") "restart transaction"] ∧
      g.is .conflict = true ∧ g.is .notFound = false ∧
      g.chain = [.failure .internal "commit failed", .foreign "ledger",
        .failure .conflict "error returned from database: restart transaction",
        .driver (.database (.state (some "40001") "restart transaction")),
        .server (.state (some "40001") "restart transaction")] ∧
      ConflictRule.postgres.retries g = true ∧ ConflictRule.mysql.retries g = false := by
  obtain ⟨g, -, seen, retries, -, -⟩ :=
    hides_nothing (.ofDriver (.database (.state (some "40001") "restart transaction")))
      [.internal "commit failed", .foreign "ledger"]
      (fun w mem => ⟨.internal, by obtain rfl := Option.mem_some.mp mem; rfl⟩)
  obtain ⟨postgres, mysql⟩ := retries (by decide)
  exact ⟨g, seen.serverErrors, (seen.is_iff _).mpr (.inl rfl),
    Bool.eq_false_iff.mpr fun found => absurd ((seen.is_iff _).mp found) (by decide), seen.chain,
    postgres, mysql⟩

end Wrapper

end SessionKeeper
