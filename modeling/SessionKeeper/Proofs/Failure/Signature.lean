import SessionKeeper.Failure.Conflict

/-!
What makes a failure worth another attempt. A rule looks at two things only: whether anything in the
chain was canceled or not found, and which server errors are in it (`ConflictRule.retries_iff`). The
kind of the failure itself is none of them, so a server error that bears the signature shows through
an `application` or `misconfigured` failure as it does through any other
(`ConflictRule.retries_withheld_iff`).

A commit that fails with a driver error is reported as a conflict just when that error is one that
the database is known for, and is worth another attempt just when it is one that it repeats
(`ConflictRule.Native.retries_uncommitted`).

Correspondence: `is_retryable` of a classifier ↔ `ConflictRule.retries`, `driver_errors` ↔
`Failure.serverErrors`. Which errors a database repeats, and which it is known for, is listed once
more by what a server says (`ConflictRule.Repeated`, `ConflictRule.Known`), and the rules are shown
to know these and no others.
-/

namespace SessionKeeper

/-- The failure is of a category that is meant to end a call: it was canceled, or something was not
found, or it is itself an error of the application or a mistake in the program. -/
def Failure.Withheld (f : Failure) : Prop :=
  f.is .canceled = true ∨ f.is .notFound = true ∨ f.kind = .application ∨ f.kind = .misconfigured

namespace ConflictRule

variable {rule : ConflictRule} {e : DriverFailure}

theorem retries_iff (rule : ConflictRule) (f : Failure) :
    rule.retries f = true ↔ f.is .canceled = false ∧ f.is .notFound = false ∧
      ∃ error ∈ f.serverErrors, rule.holds error = true := by
  simp [retries, and_assoc]

/-- Another attempt is withheld from such a failure, unless it is so by its own kind alone and a
server error behind it bears the signature. -/
theorem retries_withheld_iff {f : Failure} (withheld : f.Withheld) :
    rule.retries f = true ↔ f.is .canceled = false ∧ f.is .notFound = false ∧
      (f.kind = .application ∨ f.kind = .misconfigured) ∧
      ∃ error ∈ f.serverErrors, rule.holds error = true := by
  rw [retries_iff]
  constructor
  · rintro ⟨live, known, error⟩
    refine ⟨live, known, ?_, error⟩
    rcases withheld with canceled | unknown | kind
    · simp [live] at canceled
    · simp [known] at unknown
    · exact kind
  · rintro ⟨live, known, -, error⟩
    exact ⟨live, known, error⟩

/-! ## Driver errors -/

/-- The conflicts that make another attempt, by what the server says. -/
inductive Repeated : ConflictRule → DriverError → Prop
  | postgres {code message : String} : code ∈ ["40001", "40P01", "55P03"] →
      Repeated .postgres (.database (.state (some code) message))
  | mysql {code : Option String} {message : String} :
      Repeated .mysql (.database (.numbered 1213 code message))

/-- The conflicts that are known as such, by what the server says. -/
inductive Known : ConflictRule → DriverError → Prop
  | repeated {rule : ConflictRule} {error : DriverError} : rule.Repeated error → Known rule error
  | lockWait {code : Option String} {message : String} :
      Known .mysql (.database (.numbered 1205 code message))

/-- The server errors of the protocol that the rule is about. -/
inductive Speaks : ConflictRule → ServerError → Prop
  | postgres {code : Option String} {message : String} : Speaks .postgres (.state code message)
  | mysql {number : Nat} {code : Option String} {message : String} :
      Speaks .mysql (.numbered number code message)

/-- The driver error is one of the protocol that the rule is about, and the causes behind it are
neither driver errors nor failures. -/
structure Native (rule : ConflictRule) (e : DriverFailure) : Prop where
  speaks : ∀ error, e.error = .database error → rule.Speaks error
  bare : ∀ cause ∈ e.sources, cause.driverError? = none ∧ ∀ kind, cause.isKind kind = false

theorem native_database {error : ServerError} (speaks : rule.Speaks error) :
    rule.Native (.database error) := by
  refine ⟨fun _ same => DriverError.database.inj same ▸ speaks, fun cause mem => ?_⟩
  obtain rfl := List.mem_singleton.mp mem
  exact ⟨rfl, fun _ => rfl⟩

theorem known_postgres_iff {error : DriverError} :
    ConflictRule.postgres.Known error ↔ ConflictRule.postgres.Repeated error :=
  ⟨fun known => by cases known with | repeated repeated => exact repeated, .repeated⟩

theorem repeated_iff {error : ServerError} (speaks : rule.Speaks error) :
    rule.Repeated (.database error) ↔ rule.holds error = true := by
  cases speaks with
  | @postgres code message =>
    constructor
    · rintro ⟨mem⟩
      simp only [List.mem_cons, List.not_mem_nil, or_false] at mem
      rcases mem with rfl | rfl | rfl <;> rfl
    · intro holds
      cases code with
      | none => cases holds
      | some code =>
        refine .postgres ?_
        have mem : code ∈ [serializationFailure, lockNotAvailable, deadlockDetected] := by
          simpa [ConflictRule.holds, ServerError.code, retriesCode] using holds
        simp only [List.mem_cons, List.not_mem_nil, or_false] at mem
        rcases mem with rfl | rfl | rfl <;> decide
  | @mysql number code message =>
    constructor
    · rintro ⟨⟩
      rfl
    · intro holds
      obtain rfl : number = lockDeadlock := by
        simpa [ConflictRule.holds, retriesNumber] using holds
      exact .mysql

theorem known_iff {error : ServerError} (speaks : rule.Speaks error) :
    rule.Known (.database error) ↔ error.isConflict = true := by
  cases speaks with
  | postgres => rw [known_postgres_iff, repeated_iff .postgres]; rfl
  | @mysql number code message =>
    constructor
    · rintro (⟨⟨⟩⟩ | _) <;> rfl
    · intro conflict
      simp only [ServerError.isConflict, Bool.or_eq_true, beq_iff_eq] at conflict
      rcases conflict with rfl | rfl
      · exact .repeated .mysql
      · exact .lockWait

/-- The kind of a driver error is that of a conflict just when it is a known one. -/
theorem Native.kind_iff (native : rule.Native e) :
    e.error.kind = .conflict ↔ rule.Known e.error := by
  cases herror : e.error with
  | database error =>
    rw [known_iff (native.speaks error herror)]
    cases hconflict : error.isConflict <;> simp [DriverError.kind, hconflict]
  | _ =>
    constructor
    · simp [DriverError.kind]
    · rintro (⟨⟨⟩⟩ | _)

theorem Native.is_ofDriver (native : rule.Native e) (kind : Failure.Kind) :
    (Failure.ofDriver e).is kind = (e.error.kind == kind) := by
  have bare : e.sources.any (·.isKind kind) = false :=
    List.any_eq_false.mpr fun cause mem => by simp [(native.bare cause mem).2 kind]
  rw [Failure.is, Failure.chain_ofDriver, List.any_cons, List.any_cons, bare]
  simp [Cause.isKind]

theorem Native.serverErrors_ofDriver (native : rule.Native e) :
    (Failure.ofDriver e).serverErrors = (Cause.driver e.error).serverError?.toList := by
  have bare : e.sources.filterMap Cause.serverError? = [] := by
    refine List.filterMap_eq_nil_iff.mpr fun cause mem => ?_
    have none := (native.bare cause mem).1
    cases cause with
    | driver error => cases none
    | _ => rfl
  rw [Failure.serverErrors, Failure.chain_ofDriver, List.filterMap_cons_none rfl,
    List.filterMap_cons, bare]
  cases (Cause.driver e.error).serverError? <;> rfl

end ConflictRule

/-! ## Commits that fail -/

/-- The failure of an attempt whose commit fails with a driver error. -/
def Failure.uncommitted (e : DriverFailure) : Failure :=
  .wrap (if (ofDriver e).is .conflict then .conflict else .internal) "commit failed" (ofDriver e)

theorem Failure.uncommitted_inj {e e' : DriverFailure} (h : uncommitted e = uncommitted e') :
    e = e' := by
  have causes := congrArg Failure.causes h
  simp only [uncommitted, wrap, chain_fault, chain_ofDriver, List.cons.injEq,
    Cause.driver.injEq] at causes
  obtain ⟨-, error, sources⟩ := causes
  cases e
  cases e'
  cases error
  cases sources
  rfl

namespace ConflictRule.Native

variable {rule : ConflictRule} {e : DriverFailure}

/-- A commit that fails is a conflict if it fails with a known one, and internal otherwise. -/
theorem kind_uncommitted (native : rule.Native e) :
    (rule.Known e.error → (Failure.uncommitted e).kind = .conflict) ∧
      (¬ rule.Known e.error → (Failure.uncommitted e).kind = .internal) := by
  rw [← native.kind_iff, Failure.uncommitted, Failure.wrap, native.is_ofDriver]
  exact ⟨fun known => by simp [known], fun unknown => by simp [unknown]⟩

/-- It is worth another attempt just when it fails with a conflict that is repeated. -/
theorem retries_uncommitted (native : rule.Native e) :
    rule.retries (Failure.uncommitted e) = true ↔ rule.Repeated e.error := by
  simp only [retries_iff, Failure.uncommitted, Failure.is_wrap, Failure.serverErrors_wrap,
    Failure.is_fault, Failure.serverErrors_fault, native.is_ofDriver, native.serverErrors_ofDriver]
  cases herror : e.error with
  | database error =>
    have repeated := repeated_iff (native.speaks error herror)
    rw [repeated]
    constructor
    · rintro ⟨-, -, found, mem, holds⟩
      obtain rfl : found = error := by simpa [Cause.serverError?] using mem
      exact holds
    · intro holds
      have conflict : (DriverError.database error).kind = .conflict :=
        herror ▸ native.kind_iff.mpr (herror ▸ .repeated (repeated.mpr holds))
      exact ⟨by simp [conflict], by simp [conflict], error, by simp [Cause.serverError?], holds⟩
  | _ =>
    constructor
    · rintro ⟨-, -, found, mem, -⟩
      simp [Cause.serverError?] at mem
    · rintro ⟨⟩

end ConflictRule.Native

end SessionKeeper
