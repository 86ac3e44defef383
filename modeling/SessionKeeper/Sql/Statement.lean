import SessionKeeper.Failure.Basic
import SessionKeeper.Timestamp

/-!
Statements, the values in them and in rows, and what a server answers.
-/

namespace SessionKeeper

/-- A value of a statement's argument or of a row's column. -/
inductive Datum where
  | null
  | int (n : Int)
  | text (s : String)
  | time (t : Timestamp)
  deriving DecidableEq, Repr

structure Statement where
  text : String
  args : List Datum := []
  deriving DecidableEq, Repr

/-- Rows, and the number of rows that the statement touched. -/
structure Answer where
  rows : List (List Datum) := []
  affected : Nat := 0
  deriving DecidableEq, Repr

/-- What comes back for a statement. -/
abbrev Reply := Except DriverFailure Answer

end SessionKeeper
