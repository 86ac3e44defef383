import Mathlib.Data.List.Nodup
import SessionKeeper.Session.Table

/-!
The table of refresh tokens as a server keeps it, and what the statements on it mean. A row is a
token with its user and the point of time at which it expires; no two rows have the same token. Each
query has an answer and changes the table (`TokenQuery.answer`, `TokenQuery.apply`); a second row
for a token is refused (`TokenQuery.Fits`).

A query is one of the six statements on refresh tokens with its arguments, so what a statement means
is told once, by its query. A server compares points of time as they reach it, in whole
microseconds.
-/

namespace SessionKeeper

/-- A refresh token as the server keeps it. -/
structure TokenRow where
  token : String
  user : Int
  expires : Timestamp
  deriving DecidableEq, Repr

/-- The token had expired before `now`. -/
def TokenRow.expiredBy (row : TokenRow) (now : Timestamp) : Bool :=
  decide (row.expires.nanos < now.atServer.nanos)

/-- The rows of the table, of which the token is the key. -/
structure TokenTable where
  rows : List TokenRow
  unique : (rows.map (·.token)).Nodup
  deriving DecidableEq

namespace TokenTable

variable {t t' : TokenTable} {row other : TokenRow}

@[ext]
theorem ext_rows (h : t.rows = t'.rows) : t = t' := by
  cases t
  cases t'
  cases h
  rfl

/-- The tokens that the server knows. -/
def tokens (t : TokenTable) : List String := t.rows.map (·.token)

theorem mem_tokens {token : String} : token ∈ t.tokens ↔ ∃ row ∈ t.rows, row.token = token :=
  List.mem_map

theorem eq_of_token (mem : row ∈ t.rows) (mem' : other ∈ t.rows) (same : row.token = other.token) :
    row = other := List.inj_on_of_nodup_map t.unique mem mem' same

/-- The rows that a test selects. -/
def selected (t : TokenTable) (selects : TokenRow → Bool) : List TokenRow := t.rows.filter selects

/-- The table without these rows. -/
def removing (t : TokenTable) (selects : TokenRow → Bool) : TokenTable :=
  ⟨t.rows.filter (!selects ·), t.unique.sublist (List.filter_sublist.map _)⟩

theorem mem_removing {selects : TokenRow → Bool} :
    row ∈ (t.removing selects).rows ↔ row ∈ t.rows ∧ selects row = false := by
  simp [removing]

theorem tokens_removing (t : TokenTable) (selects : TokenRow → Bool) :
    (t.removing selects).tokens ⊆ t.tokens :=
  (List.filter_sublist.map _).subset

/-- The table with one row more. -/
def adding (t : TokenTable) (row : TokenRow) (new : row.token ∉ t.tokens) : TokenTable where
  rows := t.rows ++ [row]
  unique := by
    rw [List.map_append, List.nodup_append]
    refine ⟨t.unique, by simp, ?_⟩
    rintro token mem other last rfl
    rw [List.mem_singleton.mp last] at mem
    exact new mem

end TokenTable

namespace TokenQuery

/-- The rows that a query is about. -/
def selects : TokenQuery → TokenRow → Bool
  | .insert _ _ _, _ => false
  | .take token now, row => row.token == token && decide (now.atServer.nanos < row.expires.nanos)
  | .owner token, row | .erase token, row => row.token == token
  | .eraseUser user, row => row.user == user
  | .eraseExpired now, row => row.expiredBy now

/-- The row that a query stores. -/
def stores : TokenQuery → Option TokenRow
  | .insert token user expires => some ⟨token, user, expires.atServer⟩
  | _ => none

/-- Whether the rows that a query is about are removed. -/
def removes : TokenQuery → Bool
  | .insert _ _ _ | .owner _ => false
  | _ => true

/-- Whether the rows that a query is about, or rather their users, are in the answer. -/
def shows : TokenQuery → Bool
  | .take _ _ | .owner _ => true
  | _ => false

/-- Whether the query can be done: no token is stored twice. -/
def Fits (q : TokenQuery) (t : TokenTable) : Prop := ∀ row ∈ q.stores, row.token ∉ t.tokens

instance (q : TokenQuery) (t : TokenTable) : Decidable (q.Fits t) := by
  unfold Fits
  infer_instance

/-- The table once a query is done. -/
def apply (q : TokenQuery) (t : TokenTable) : TokenTable :=
  match q.stores with
  | some row => if new : row.token ∉ t.tokens then t.adding row new else t
  | none => if q.removes then t.removing q.selects else t

/-- What a query is answered with. -/
def answer (q : TokenQuery) (t : TokenTable) : Answer where
  rows := if q.shows then (t.selected q.selects).map fun row => [.int row.user] else []
  affected := q.stores.toList.length + (t.selected q.selects).length

theorem rows_insert {t : TokenTable} {token : String} {user : Int} {expires : Timestamp}
    (fits : (insert token user expires).Fits t) :
    ((insert token user expires).apply t).rows = t.rows ++ [⟨token, user, expires.atServer⟩] := by
  have new : token ∉ t.tokens := fits _ rfl
  simp [apply, stores, new, TokenTable.adding]

end TokenQuery

end SessionKeeper
