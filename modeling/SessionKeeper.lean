import SessionKeeper.Main
import SessionKeeper.Program.Lemmas
import SessionKeeper.Rehearsal.Attempts
import SessionKeeper.Rehearsal.Calls
import SessionKeeper.Rehearsal.Journal
import SessionKeeper.Proofs.Http.Conduct
import SessionKeeper.Proofs.Transaction.AllOrNothing
import SessionKeeper.Proofs.Program.Later
import SessionKeeper.Proofs.Retry.Schedule
import SessionKeeper.Proofs.Transaction.Expiry
import SessionKeeper.Proofs.Program.Race
import SessionKeeper.Proofs.Sql.Exchange
import SessionKeeper.Proofs.Sql.RestartProtocol
import SessionKeeper.Proofs.Sql.PostgresWire
import SessionKeeper.Proofs.Session.Rotation
import SessionKeeper.Proofs.Sql.Repetition
import SessionKeeper.Proofs.Sql.Rewinding
import SessionKeeper.Proofs.Http.Refresh
import SessionKeeper.Proofs.Session.SingleUse
import SessionKeeper.Proofs.Context.Status
import SessionKeeper.Proofs.Transaction.ModeSafety
import SessionKeeper.Proofs.Session.TokenSoundness
import SessionKeeper.Proofs.Http.BearerToken
import SessionKeeper.Proofs.Transaction.Outcome
import SessionKeeper.Proofs.Sql.ReadOnly
import SessionKeeper.Proofs.Session.UserLookup
import SessionKeeper.Proofs.Http.Identity
import SessionKeeper.Proofs.Failure.Wrapping
import SessionKeeper.Proofs.Sql.RunBound
import SessionKeeper.Proofs.Sql.Routing
import SessionKeeper.Proofs.Config.Acceptance
import SessionKeeper.Proofs.Context.Attachments
import SessionKeeper.Proofs.Context.Race
import SessionKeeper.Proofs.Sql.Beginning
import SessionKeeper.Proofs.Sql.Characteristics
import SessionKeeper.Proofs.Retry.Backoff
