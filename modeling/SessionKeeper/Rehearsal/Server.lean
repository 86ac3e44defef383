import SessionKeeper.Rehearsal.Stage
import SessionKeeper.Sql.Dialect
import SessionKeeper.Sql.Server
import SessionKeeper.Text.Blank

/-!
A server that answers by rules: a statement takes the next reply of the first rule whose pattern is
in it and that has replies left, or else an empty reply. What columns a statement has is settled by
its text.
-/

namespace SessionKeeper.Rehearsal

/-- Whether `pattern` stands somewhere in a text. -/
def occurs (pattern : List Char) : List Char → Bool
  | [] => pattern.isEmpty
  | c :: cs => pattern.isPrefixOf (c :: cs) || occurs pattern cs

/-- The type of a column. -/
inductive Column where
  | int
  | text
  deriving DecidableEq, Repr

/-- A value as one of a column. -/
def Column.cell : Column → Datum → Datum
  | .int, .int n => .int n
  | .int, _ => .null
  | .text, .text s => .text s
  | .text, .int n => .text (toString n)
  | .text, _ => .null

/-- The columns of a statement. -/
def columns (text : String) : List Column :=
  if text.startsWith "SELECT id, username" then [.int, .text]
  else if text.startsWith "SELECT name" then [.text]
  else if text.startsWith "SELECT" || occurs "RETURNING".toList text.toList then [.int]
  else []

/-- A prepared row as one of the given columns; what is missing is null. -/
def typed : List Column → List Datum → List Datum
  | [], _ => []
  | column :: columns, [] => column.cell .null :: typed columns []
  | column :: columns, value :: values => column.cell value :: typed columns values

/-- The answer to a statement that does not fail. -/
def PreparedReply.answer (r : PreparedReply) (d : Dialect) (text : String) : Answer :=
  let types := columns text
  let rows := if types.isEmpty then [] else r.rows.map (typed types)
  let affected := match d with
    | .postgres => r.affected.getD r.rows.length
    | .mysql => if types.isEmpty then r.affected.getD 0 else 0
  ⟨rows, affected⟩

def PreparedReply.reply (r : PreparedReply) (d : Dialect) (text : String) : Reply :=
  match r.failure with
  | some failure => .error failure
  | none => .ok (r.answer d text)

/-- The next reply for a statement, and the rules without it. -/
def nextReply (text : String) : List Rule → PreparedReply × List Rule
  | [] => ({}, [])
  | rule :: rest =>
    match occurs rule.pattern.toList text.toList, rule.replies with
    | true, reply :: replies => (reply, { rule with replies } :: rest)
    | _, _ =>
      let (reply, rest) := nextReply text rest
      (reply, rule :: rest)

/-- The token that a statement stores, or the one stored before it. -/
def storedBy (stored : Option Datum) (text : String) (args : List Datum) : Option Datum :=
  if text.startsWith "INSERT INTO refresh_tokens" then args.head? else stored

variable {V : Type}

def server (d : Dialect) : Server (host V) where
  respond := fun _ statement (stage : Stage) =>
    let text := Text.collapse statement.text
    let (prepared, rules) := nextReply text stage.rules
    let stage := { stage with rules, stored := storedBy stage.stored text statement.args }
    (⟨prepared.reply d text, .zero, if prepared.cancel then stage.handle else []⟩, stage)

end SessionKeeper.Rehearsal
