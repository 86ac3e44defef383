/-!
Points of wall-clock time, as nanoseconds from 1970-01-01T00:00:00Z, with their civil (proleptic
Gregorian) text in both directions and the form in which a PostgreSQL server receives them.
-/

namespace SessionKeeper

/-- A point of wall-clock time: nanoseconds from the Unix epoch. -/
structure Timestamp where
  nanos : Int
  deriving DecidableEq, Repr

namespace Timestamp

/-- Whole seconds from the epoch, the earlier one between two. -/
def seconds (t : Timestamp) : Int := Int.fdiv t.nanos 1000000000

def ofSeconds (s : Int) : Timestamp := ⟨s * 1000000000⟩

/-- The time `n` nanoseconds later. -/
def after (t : Timestamp) (n : Nat) : Timestamp := ⟨t.nanos + n⟩

/-- Seconds from the Unix epoch to 2000-01-01T00:00:00Z, where PostgreSQL counts from. -/
def serverEpoch : Int := 946684800

/-- The wire form: whole microseconds from 2000-01-01, cut toward that instant. -/
def serverMicros (t : Timestamp) : Int :=
  Int.tdiv (t.nanos - serverEpoch * 1000000000) 1000

/-- The time that the wire form of `t` denotes. -/
def atServer (t : Timestamp) : Timestamp := ⟨(t.serverMicros + serverEpoch * 1000000) * 1000⟩

/-! ## Civil dates -/

/-- The day number (0 is 1970-01-01) of a civil date. Years are counted from March, so that the leap
day ends its year, in eras of 400 years. -/
def dayOfDate (year : Int) (month day : Nat) : Int :=
  let y := if month ≤ 2 then year - 1 else year
  let era := Int.fdiv y 400
  let yearOfEra := y - era * 400
  let monthFromMarch : Int := if 2 < month then month - 3 else month + 9
  let dayOfYear := Int.fdiv (153 * monthFromMarch + 2) 5 + day - 1
  let dayOfEra := yearOfEra * 365 + Int.fdiv yearOfEra 4 - Int.fdiv yearOfEra 100 + dayOfYear
  era * 146097 + dayOfEra - 719468

/-- The civil date of a day number: year, month, day. -/
def dateOfDay (n : Int) : Int × Nat × Nat :=
  let z := n + 719468
  let era := Int.fdiv z 146097
  let dayOfEra := z - era * 146097
  let yearOfEra := Int.fdiv (dayOfEra - Int.fdiv dayOfEra 1460 + Int.fdiv dayOfEra 36524
    - Int.fdiv dayOfEra 146096) 365
  let dayOfYear := dayOfEra - (365 * yearOfEra + Int.fdiv yearOfEra 4 - Int.fdiv yearOfEra 100)
  let monthFromMarch := Int.fdiv (5 * dayOfYear + 2) 153
  let day := dayOfYear - Int.fdiv (153 * monthFromMarch + 2) 5 + 1
  let month := if monthFromMarch < 10 then monthFromMarch + 3 else monthFromMarch - 9
  let year := yearOfEra + era * 400
  (if month ≤ 2 then year + 1 else year, month.toNat, day.toNat)

/-- A number in at least `width` decimal digits. -/
def padded (width n : Nat) : String :=
  let digits := Nat.toDigits 10 n
  String.ofList (List.replicate (width - digits.length) '0' ++ digits)

/-- The text `YYYY-MM-DDTHH:MM:SS.ffffffZ` of the microsecond that `t` lies in. A year that is not
among those of four digits has a sign. -/
def text (t : Timestamp) : String :=
  let micros := Int.fdiv t.nanos 1000
  let seconds := Int.fdiv micros 1000000
  let fraction := (micros - seconds * 1000000).toNat
  let dayNumber := Int.fdiv seconds 86400
  let ofDay := (seconds - dayNumber * 86400).toNat
  let (year, month, day) := dateOfDay dayNumber
  let sign := if year < 0 then "-" else if 9999 < year then "+" else ""
  let date := sign ++ padded 4 year.natAbs ++ "-" ++ padded 2 month ++ "-" ++ padded 2 day
  let minutes := padded 2 (ofDay / 3600) ++ ":" ++ padded 2 (ofDay / 60 % 60)
  let time := minutes ++ ":" ++ padded 2 (ofDay % 60)
  date ++ "T" ++ time ++ "." ++ padded 6 fraction ++ "Z"

/-- The number that a list of decimal digits spells. -/
def digitsValue? (cs : List Char) : Option Nat :=
  if cs.isEmpty then none
  else cs.foldlM (fun n c => if c.isDigit then some (n * 10 + (c.toNat - '0'.toNat)) else none) 0

/-- Seconds by which a zone `Z`, `+HH:MM` or `-HH:MM` is ahead of UTC. -/
def zoneOffset? : List Char → Option Int
  | ['Z'] | ['z'] => some 0
  | [sign, h1, h2, ':', m1, m2] => do
    let hours ← digitsValue? [h1, h2]
    let minutes ← digitsValue? [m1, m2]
    let ahead : Int := hours * 3600 + minutes * 60
    if sign = '+' then some ahead else if sign = '-' then some (-ahead) else none
  | _ => none

/-- Reads `YYYY-MM-DDTHH:MM:SS`, perhaps a fraction of a second (cut to nanoseconds), and a zone. -/
def ofText? (s : String) : Option Timestamp :=
  match s.toList with
  | y1 :: y2 :: y3 :: y4 :: '-' :: o1 :: o2 :: '-' :: d1 :: d2 :: sep :: h1 :: h2 :: ':' :: m1 :: m2
      :: ':' :: s1 :: s2 :: rest => do
    let year ← digitsValue? [y1, y2, y3, y4]
    let month ← digitsValue? [o1, o2]
    let day ← digitsValue? [d1, d2]
    let hour ← digitsValue? [h1, h2]
    let minute ← digitsValue? [m1, m2]
    let second ← digitsValue? [s1, s2]
    if sep ≠ 'T' ∧ sep ≠ 't' ∧ sep ≠ ' ' then none
    else do
      let (fraction, zone) := match rest with
        | '.' :: more => (more.takeWhile Char.isDigit, more.dropWhile Char.isDigit)
        | _ => (['0'], rest)
      let shown := fraction.take 9
      let part ← digitsValue? shown
      let offset ← zoneOffset? zone
      let whole := dayOfDate year month day * 86400 + hour * 3600 + minute * 60 + second - offset
      some ⟨whole * 1000000000 + part * Nat.pow 10 (9 - shown.length)⟩
  | _ => none

end Timestamp

end SessionKeeper
