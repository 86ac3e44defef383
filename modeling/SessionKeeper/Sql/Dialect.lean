import SessionKeeper.Sql.Statement
import SessionKeeper.Transaction.Event

/-!
The two wire protocols, and how a client of each reads the columns of a row.
-/

namespace SessionKeeper

/-- A wire protocol. -/
inductive Dialect where
  | postgres
  | mysql
  deriving DecidableEq, Repr

namespace Dialect

/-- Transactions of one protocol are found in a context by its channel. -/
def channel : Dialect → Channel
  | .postgres => ⟨0⟩
  | .mysql => ⟨1⟩

/-- The SQL type of whole numbers. -/
def intType : Dialect → String
  | .postgres => "INT8"
  | .mysql => "BIGINT"

/-- The SQL type of texts. -/
def textType : Dialect → String
  | .postgres => "TEXT"
  | .mysql => "VARCHAR"

/-- The SQL type of points of time. -/
def timeType : Dialect → String
  | .postgres => "TIMESTAMPTZ"
  | .mysql => "TIMESTAMP"

/-- The SQL type of a value that is not null. -/
def typeOf? (d : Dialect) : Datum → Option String
  | .null => none
  | .int _ => some d.intType
  | .text _ => some d.textType
  | .time _ => some d.timeType

/-- Why a value cannot be read as one of the wanted type: it is null, or of another type. -/
def mismatch (d : Dialect) (wanted sqlType : String) (value : Datum) : String :=
  match d.typeOf? value with
  | none => "unexpected null; try decoding as an `Option`"
  | some found =>
    let expected := s!"mismatched types; Rust type `{wanted}` (as SQL type `{sqlType}`)"
    s!"{expected} is not compatible with SQL type `{found}`"

/-- Reads a whole number. -/
def readInt (d : Dialect) (column : String) : Datum → Except DriverFailure Int
  | .int n => .ok n
  | value => .error (.column column (d.mismatch "i64" d.intType value))

/-- Reads a text. -/
def readText (d : Dialect) (column : String) : Datum → Except DriverFailure String
  | .text s => .ok s
  | value => .error (.column column (d.mismatch "alloc::string::String" d.textType value))

/-- Reads the first column as a whole number. -/
def readFirst (d : Dialect) (row : List Datum) : Except DriverFailure Int :=
  d.readInt "0" (row.headD .null)

end Dialect

end SessionKeeper
