import Mathlib.Algebra.GroupWithZero.Nat
import SessionKeeper.Proofs.Duration.Words
import SessionKeeper.Sql.Cockroach

/-!
How long the pauses between attempts and between restarts are. Both are a number of units, and both
are exact up to the longest duration, so a pause is never shorter than one before it, and only where
there is nothing to wait for is there none.

`Duration.GrowsByUnit` says so of a pause, in numbers and in machine words; `pauses_grow_by_unit` is
for the pause of a retry policy and the one of a store that restarts in place.

Correspondence: `backoff` of a retry policy ↔ `RetryPolicy.backoff`, `restart_backoff` of the store
↔ `Store.restartPause`. Sums of pauses are taken with a checked addition (`Duration.total?`), so
that a sum beyond the longest duration is none, and every other one is exact.
-/

namespace SessionKeeper

namespace Duration

/-! ## Nanoseconds -/

theorem eq_of_toNanos_eq {d e : Duration} (same : d.toNanos = e.toNanos) : d = e := by
  have hd := d.nanos_lt
  have he := e.nanos_lt
  simp only [toNanos] at same
  have seconds : d.seconds = e.seconds := by omega
  have nanos : d.nanos = e.nanos := by omega
  cases d
  cases e
  simp only at seconds nanos
  subst seconds nanos
  rfl

theorem isZero_iff {d : Duration} : d.isZero = true ↔ d.toNanos = 0 := by
  rw [isZero, toNanos, Bool.and_eq_true, beq_iff_eq, beq_iff_eq]
  omega

/-! ## Sums -/

/-- The sum of two durations, or nothing if it is longer than any duration. -/
def add? (d e : Duration) : Option Duration :=
  let parts := d.nanos + e.nanos
  let seconds := d.seconds + e.seconds + parts / 1000000000
  if h : seconds < 18446744073709551616 then
    some ⟨seconds, parts % 1000000000, h, Nat.mod_lt _ (by decide)⟩
  else none

/-- The sum of some durations, or nothing if it is longer than any duration. -/
def total? (ds : List Duration) : Option Duration := ds.foldlM add? zero

theorem add?_eq_some_iff {d e sum : Duration} :
    d.add? e = some sum ↔ sum.toNanos = d.toNanos + e.toNanos := by
  by_cases fits : d.seconds + e.seconds + (d.nanos + e.nanos) / 1000000000 < 18446744073709551616
  · rw [add?, dif_pos fits, Option.some.injEq]
    have held : toNanos ⟨_, _, fits, Nat.mod_lt (d.nanos + e.nanos) (by decide)⟩ =
        d.toNanos + e.toNanos := by
      simp only [toNanos]
      omega
    rw [← held]
    exact ⟨fun same => same ▸ rfl, fun same => (eq_of_toNanos_eq same).symm⟩
  · rw [add?, dif_neg fits]
    have longest := sum.toNanos_le_max
    rw [toNanos_max] at longest
    simp only [reduceCtorEq, toNanos, false_iff] at longest ⊢
    omega

theorem foldlM_add?_eq_some_iff {d sum : Duration} {ds : List Duration} :
    ds.foldlM add? d = some sum ↔ sum.toNanos = d.toNanos + (ds.map toNanos).sum := by
  induction ds generalizing d with
  | nil =>
    rw [List.foldlM_nil, List.map_nil, List.sum_nil, Nat.add_zero]
    exact ⟨fun same => by cases same; rfl, fun same => congrArg some (eq_of_toNanos_eq same.symm)⟩
  | cons e ds ih =>
    rw [List.foldlM_cons, List.map_cons, List.sum_cons, ← Nat.add_assoc]
    constructor
    · intro h
      obtain ⟨first, hfirst, rest⟩ := Option.bind_eq_some_iff.mp h
      rw [ih.mp rest, add?_eq_some_iff.mp hfirst]
    · intro whole
      -- What the first two come to is no longer than the whole sum, so it is a duration.
      have held : (ofNanos (d.toNanos + e.toNanos)).toNanos = d.toNanos + e.toNanos := by
        have longest := sum.toNanos_le_max
        rw [toNanos_ofNanos]
        omega
      exact Option.bind_eq_some_iff.mpr
        ⟨_, add?_eq_some_iff.mpr held, ih.mpr (by rw [whole, held])⟩

theorem total?_replicate_eq_some_iff {unit sum : Duration} {n : Nat} :
    total? (List.replicate n unit) = some sum ↔ sum.toNanos = n * unit.toNanos := by
  have start : zero.toNanos = 0 := rfl
  rw [total?, foldlM_add?_eq_some_iff, List.map_replicate, List.sum_replicate_nat, start,
    Nat.zero_add]

/-! ## Multiples -/

theorem toNanos_scale_mono {unit unit' : Duration} {n n' : Nat}
    (longer : unit.toNanos ≤ unit'.toNanos) (later : n ≤ n') :
    (unit.scale n).toNanos ≤ (unit'.scale n').toNanos := by
  have product := Nat.mul_le_mul later longer
  rw [toNanos_scale, toNanos_scale]
  omega

theorem isZero_scale_iff {unit : Duration} {n : Nat} :
    (unit.scale n).isZero = true ↔ n = 0 ∨ unit.isZero = true := by
  rw [isZero_iff, isZero_iff, toNanos_scale, toNanos_max, ← Nat.mul_eq_zero]
  omega

/-- Where the units have a sum, their multiple is the sum. -/
theorem total?_replicate_iff {unit sum : Duration} {n : Nat} :
    total? (List.replicate n unit) = some sum ↔
      n * unit.toNanos ≤ max.toNanos ∧ unit.scale n = sum := by
  rw [total?_replicate_eq_some_iff]
  constructor
  · intro total
    have fits : n * unit.toNanos ≤ max.toNanos := total ▸ sum.toNanos_le_max
    refine ⟨fits, eq_of_toNanos_eq ?_⟩
    rw [toNanos_scale, Nat.min_eq_left fits, total]
  · rintro ⟨fits, rfl⟩
    rw [toNanos_scale, Nat.min_eq_left fits]

/-- A pause is `n` units long, or as long as durations get. -/
structure GrowsByUnit (pause : Duration → Nat → Duration) : Prop where
  toNanos_eq (unit : Duration) (n : Nat) :
    (pause unit n).toNanos = min (n * unit.toNanos) max.toNanos
  /-- Machine words come to the same. -/
  scale_words (unit : Duration) (n : UInt32) : unit.words.scale n = (pause unit n.toNat).words
  unwrapped (unit : Duration) (n : UInt32) : unit.words.Unwrapped n
  nanos_lt (unit : Duration) (n : UInt32) : (unit.words.scale n).nanos.toNat < 1000000000
  mono {unit unit' : Duration} {n n' : Nat} : unit.toNanos ≤ unit'.toNanos → n ≤ n' →
    (pause unit n).toNanos ≤ (pause unit' n').toNanos
  isZero_iff (unit : Duration) (n : Nat) :
    (pause unit n).isZero = true ↔ n = 0 ∨ unit.isZero = true
  /-- The units have a sum exactly where it is no longer than the longest duration, and then it is
  the pause. -/
  total_iff (unit sum : Duration) (n : Nat) : total? (List.replicate n unit) = some sum ↔
    n * unit.toNanos ≤ max.toNanos ∧ pause unit n = sum

theorem scale_growsByUnit : GrowsByUnit scale where
  toNanos_eq := toNanos_scale
  scale_words := scale_words
  unwrapped unit := unit.words.unwrapped
  nanos_lt unit := unit.words.nanos_scale_lt
  mono := toNanos_scale_mono
  isZero_iff _ _ := isZero_scale_iff
  total_iff _ _ _ := total?_replicate_iff

end Duration

/-- The pauses between attempts of a retry policy, and those between restarts in place, grow by
their unit with every number. -/
theorem pauses_grow_by_unit {H : Host} (policy : RetryPolicy) (server : Server H)
    (settings : Cockroach.Settings) :
    Duration.GrowsByUnit (fun unit => RetryPolicy.backoff { policy with unit }) ∧
      Duration.GrowsByUnit fun unit =>
        (Cockroach.store server { settings with pauseUnit := unit }).restartPause :=
  ⟨Duration.scale_growsByUnit, Duration.scale_growsByUnit⟩

end SessionKeeper
