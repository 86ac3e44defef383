import SessionKeeper.Session.Table
import SessionKeeper.Transaction.Entry

/-!
The session service. A refresh token is good for one use: rotating it removes it and stores another
in one transaction, so a conflict between two who rotate the same token is tried again, and one of
them is told that the token is unknown.

Correspondence: `create_refresh_token` ↔ `createRefreshToken`, `rotate_refresh_token` ↔ `rotate`,
`revoke_refresh_token` ↔ `revoke`, `revoke_all_for_token` ↔ `revokeAllOf`, `revoke_all_user_tokens`
↔ `revokeUser`, `cleanup_expired_tokens` ↔ `cleanUp`. The bytes of a new token and the time of day
are asked of the surroundings.
-/

namespace SessionKeeper.Session

variable {H : Host}

/-- Bytes as pairs of hexadecimal digits. -/
def hex (bytes : List UInt8) : String :=
  String.ofList (bytes.flatMap fun b =>
    [Nat.digitChar (b.toNat / 16), Nat.digitChar (b.toNat % 16)])

/-- How long a refresh token is good for, in nanoseconds: thirty days. -/
def refreshLifetime : Nat := 30 * 24 * 60 * 60 * 1000000000

/-- The failure of whoever presents a token that is unknown, expired or used. -/
def unknownToken : Failure := .notFound "refresh token"

/-- A new refresh token for a user. -/
def createRefreshToken (db : Database H) (ctx : RequestContext) (user : Int) : Work H String := do
  let token := hex (← Work.lift .entropy)
  let expires := (← Work.lift .wallClock).after refreshLifetime
  RefreshTokens.insert (db.executor ctx) token user expires
  return token

/-- Exchanges a refresh token for another of the same user. -/
def rotate (db : Database H) (ctx : RequestContext) (token : String) : Work H (Int × String) :=
  db.store.readWrite ctx fun ctx => do
    let now ← Work.lift .wallClock
    match ← RefreshTokens.take (db.executor ctx) token now with
    | none => throw unknownToken
    | some user => return (user, ← createRefreshToken db ctx user)

/-- Ends one session. -/
def revoke (db : Database H) (ctx : RequestContext) (token : String) : Work H Unit := do
  let _ ← RefreshTokens.erase (db.executor ctx) token

/-- Ends every session of the owner of a token; gives the owner and the number of sessions. -/
def revokeAllOf (db : Database H) (ctx : RequestContext) (token : String) : Work H (Int × Nat) :=
  db.store.readWrite ctx fun ctx => do
    let e := db.executor ctx
    match ← RefreshTokens.owner? e token with
    | none => throw unknownToken
    | some user => return (user, ← RefreshTokens.eraseUser e user)

/-- Ends every session of a user. -/
def revokeUser (db : Database H) (ctx : RequestContext) (user : Int) : Work H Nat :=
  RefreshTokens.eraseUser (db.executor ctx) user

/-- Removes expired refresh tokens. -/
def cleanUp (db : Database H) (ctx : RequestContext) : Work H Nat := do
  let removed ← RefreshTokens.eraseExpired (db.executor ctx) (← Work.lift .wallClock)
  if 0 < removed then
    Work.lift (.log .info s!"[session] removed {removed} expired refresh tokens")
  return removed

end SessionKeeper.Session
