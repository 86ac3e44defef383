import SessionKeeper.Duration

/-!
Durations in machine words. A machine holds a duration in 64 bits of seconds and 32 bits of
nanoseconds, and multiplies the two apart: the nanoseconds in a word of 64 bits, whose whole seconds
are carried over to the product of the seconds. Words wrap, so the product and the carry are tested
for overflow, and the nanoseconds are not: two numbers of 32 bits have a product of 64.

Main statements: no step of the multiplication loses anything to the width of its word
(`Words.unwrapped`), and it agrees with `Duration.scale` on every duration and every multiplier
(`scale_words`).

Correspondence: `checked_mul` of a word ↔ `mulWord?`, `checked_add` ↔ `addWord?`; `saturating_mul`
of a duration ↔ `Words.scale`.
-/

namespace SessionKeeper.Duration

/-! ## Operations that tell of overflow -/

/-- The product of two words, or nothing if it has more than 64 bits. -/
def mulWord? (a b : UInt64) : Option UInt64 :=
  if a.toBitVec.umulOverflow b.toBitVec then none else some (a * b)

/-- The sum of two words, or nothing if it has more than 64 bits. -/
def addWord? (a b : UInt64) : Option UInt64 :=
  if a.toBitVec.uaddOverflow b.toBitVec then none else some (a + b)

/-- A word that wraps, but is given up where it would, holds its number. -/
theorem guarded_eq_some_iff {number : Nat} {word result : UInt64}
    (wraps : word.toNat = number % 18446744073709551616) :
    (if decide (number ≥ 18446744073709551616) then none else some word) = some result ↔
      result.toNat = number := by
  have fits := result.toNat_lt
  by_cases large : number ≥ 18446744073709551616
  · rw [if_pos (decide_eq_true large)]
    simp only [reduceCtorEq, false_iff]
    omega
  · rw [if_neg (by simpa using large), Option.some.injEq, ← UInt64.toNat_inj, wraps]
    omega

theorem mulWord?_eq_some_iff {a b c : UInt64} :
    mulWord? a b = some c ↔ c.toNat = a.toNat * b.toNat :=
  guarded_eq_some_iff (UInt64.toNat_mul a b)

theorem addWord?_eq_some_iff {a b c : UInt64} :
    addWord? a b = some c ↔ c.toNat = a.toNat + b.toNat :=
  guarded_eq_some_iff (UInt64.toNat_add a b)

/-! ## Multiplication in words -/

/-- A duration as a machine holds it. -/
@[ext]
structure Words where
  seconds : UInt64
  nanos : UInt32
  deriving DecidableEq, Repr

/-- The words of a duration, which has no more than fits into them. -/
def words (d : Duration) : Words :=
  ⟨.ofNatLT d.seconds d.seconds_lt,
    .ofNatLT d.nanos (Nat.lt_trans d.nanos_lt (by decide))⟩

namespace Words

/-- The nanoseconds of `n` times `w`, before whole seconds are taken out of them. -/
def parts (w : Words) (n : UInt32) : UInt64 := w.nanos.toUInt64 * n.toUInt64

/-- The whole seconds among them. -/
def carry (w : Words) (n : UInt32) : UInt64 := w.parts n / 1000000000

/-- What is left of them. -/
def rest (w : Words) (n : UInt32) : UInt32 := (w.parts n % 1000000000).toUInt32

/-- The seconds of `n` times `w`, before the carry. -/
def whole? (w : Words) (n : UInt32) : Option UInt64 := mulWord? w.seconds n.toUInt64

/-- The seconds of `n` times `w`. -/
def seconds? (w : Words) (n : UInt32) : Option UInt64 :=
  (w.whole? n).bind fun whole => addWord? whole (w.carry n)

/-- `n` times `w`, or nothing if the seconds overflow. -/
def scale? (w : Words) (n : UInt32) : Option Words :=
  (w.seconds? n).map fun seconds => ⟨seconds, w.rest n⟩

/-- `n` times `w`, or the longest duration. -/
def scale (w : Words) (n : UInt32) : Words := (w.scale? n).getD max.words

/-- Each word on the way to `n` times `w` holds the number that it stands for, and the seconds are
given up only where they have no word. -/
structure Unwrapped (w : Words) (n : UInt32) : Prop where
  parts : (w.parts n).toNat = w.nanos.toNat * n.toNat
  carry : (w.carry n).toNat = w.nanos.toNat * n.toNat / 1000000000
  rest : (w.rest n).toNat = w.nanos.toNat * n.toNat % 1000000000
  whole : ∀ s, w.whole? n = some s ↔ s.toNat = w.seconds.toNat * n.toNat
  seconds : ∀ s, w.seconds? n = some s ↔
    s.toNat = w.seconds.toNat * n.toNat + w.nanos.toNat * n.toNat / 1000000000

variable (w : Words) (n : UInt32)

theorem toNat_parts : (w.parts n).toNat = w.nanos.toNat * n.toNat := by
  have fits : w.nanos.toNat * n.toNat < 2 ^ 32 * 2 ^ 32 :=
    Nat.mul_lt_mul'' w.nanos.toNat_lt n.toNat_lt
  rw [parts, UInt64.toNat_mul, UInt32.toNat_toUInt64, UInt32.toNat_toUInt64]
  exact Nat.mod_eq_of_lt fits

theorem toNat_carry : (w.carry n).toNat = w.nanos.toNat * n.toNat / 1000000000 := by
  rw [carry, UInt64.toNat_div, toNat_parts]
  rfl

theorem toNat_rest : (w.rest n).toNat = w.nanos.toNat * n.toNat % 1000000000 := by
  have small : w.nanos.toNat * n.toNat % 1000000000 < 2 ^ 32 :=
    Nat.lt_trans (Nat.mod_lt _ (by decide)) (by decide)
  rw [rest, UInt64.toNat_toUInt32, UInt64.toNat_mod, toNat_parts]
  exact Nat.mod_eq_of_lt small

theorem rest_lt : (w.rest n).toNat < 1000000000 := by
  rw [toNat_rest]
  exact Nat.mod_lt _ (by decide)

variable {w n}

theorem whole?_eq_some_iff {s : UInt64} :
    w.whole? n = some s ↔ s.toNat = w.seconds.toNat * n.toNat := by
  rw [whole?, mulWord?_eq_some_iff, UInt32.toNat_toUInt64]

theorem seconds?_eq_some_iff {s : UInt64} :
    w.seconds? n = some s ↔
      s.toNat = w.seconds.toNat * n.toNat + w.nanos.toNat * n.toNat / 1000000000 := by
  rw [seconds?, Option.bind_eq_some_iff, ← toNat_carry]
  constructor
  · rintro ⟨whole, hwhole, sum⟩
    rw [addWord?_eq_some_iff.mp sum, whole?_eq_some_iff.mp hwhole]
  · intro sum
    -- The sum fits into a word, so what the carry is added to does as well.
    have fits : w.seconds.toNat * n.toNat < 2 ^ 64 :=
      Nat.lt_of_le_of_lt (sum ▸ Nat.le_add_right _ _) s.toNat_lt
    have held : (UInt64.ofNatLT _ fits).toNat = w.seconds.toNat * n.toNat := UInt64.toNat_ofNatLT
    exact ⟨.ofNatLT _ fits, whole?_eq_some_iff.mpr held,
      addWord?_eq_some_iff.mpr (by rw [held, sum])⟩

theorem nanos_scale_lt (w : Words) (n : UInt32) : (w.scale n).nanos.toNat < 1000000000 := by
  rw [scale, scale?]
  cases w.seconds? n with
  | none => exact (by decide : max.words.nanos.toNat < 1000000000)
  | some seconds => exact w.rest_lt n

/-- The multiplication loses nothing, whatever it multiplies. -/
theorem unwrapped (w : Words) (n : UInt32) : w.Unwrapped n where
  parts := w.toNat_parts n
  carry := w.toNat_carry n
  rest := w.toNat_rest n
  whole _ := whole?_eq_some_iff
  seconds _ := seconds?_eq_some_iff

theorem ext_toNat {w w' : Words} (seconds : w.seconds.toNat = w'.seconds.toNat)
    (nanos : w.nanos.toNat = w'.nanos.toNat) : w = w' :=
  Words.ext (UInt64.toNat_inj.mp seconds) (UInt32.toNat_inj.mp nanos)

end Words

@[simp] theorem toNat_seconds_words (d : Duration) : d.words.seconds.toNat = d.seconds :=
  UInt64.toNat_ofNatLT

@[simp] theorem toNat_nanos_words (d : Duration) : d.words.nanos.toNat = d.nanos :=
  UInt32.toNat_ofNatLT

/-- In words the multiplication gives what it gives in numbers without bounds. -/
theorem scale_words (d : Duration) (n : UInt32) : d.words.scale n = (d.scale n.toNat).words := by
  by_cases fits : d.seconds * n.toNat + d.nanos * n.toNat / 1000000000 < 18446744073709551616
  · have hseconds : d.words.seconds? n = some (.ofNatLT _ fits) := by
      rw [Words.seconds?_eq_some_iff, UInt64.toNat_ofNatLT, toNat_seconds_words, toNat_nanos_words]
    have hrest : (d.words.rest n).toNat = d.nanos * n.toNat % 1000000000 := by
      rw [Words.toNat_rest, toNat_nanos_words]
    rw [Words.scale, Words.scale?, hseconds, Duration.scale, dif_pos fits]
    apply Words.ext_toNat
    · rw [toNat_seconds_words]
      exact UInt64.toNat_ofNatLT
    · rw [toNat_nanos_words]
      exact hrest
  · have given_up : d.words.seconds? n = none := by
      rw [Option.eq_none_iff_forall_ne_some]
      intro s hseconds
      rw [Words.seconds?_eq_some_iff, toNat_seconds_words, toNat_nanos_words] at hseconds
      exact fits (hseconds ▸ s.toNat_lt)
    rw [Words.scale, Words.scale?, given_up, Duration.scale, dif_neg fits]
    rfl

/-- The product of the seconds is the largest word, and the carry of two seconds no longer fits: the
longest duration, where words that wrap would give one second. -/
example : (Words.mk 6148914691236517205 999999999).scale 3 = max.words := by decide

end SessionKeeper.Duration
