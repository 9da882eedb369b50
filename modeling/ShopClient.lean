import ShopClient.Main
import ShopClient.Proofs.Session.Journal
import ShopClient.Proofs.Session.Lifecycle
import ShopClient.Proofs.Session.Tasks
import ShopClient.Proofs.Session.Course
import ShopClient.Proofs.Session.Outgoing
import ShopClient.Proofs.Renewal.Turn
import ShopClient.Proofs.Renewal.Order
import ShopClient.Proofs.Renewal.Steps
import ShopClient.Proofs.Renewal.SingleFlight
import ShopClient.Proofs.Renewal.Desk
import ShopClient.Proofs.Renewal.Outcomes
import ShopClient.Proofs.Renewal.Landing
import ShopClient.Proofs.Renewal.Logout
import ShopClient.Proofs.Renewal.Answer
import ShopClient.Proofs.Expiry.Inquiry
import ShopClient.Proofs.Expiry.Gathering
import ShopClient.Proofs.Expiry.Dispersal
import ShopClient.Proofs.Expiry.Episode
import ShopClient.Proofs.Standing.Agreement
import ShopClient.Proofs.Standing.Effect
import ShopClient.Proofs.Standing.LateRenewal
import ShopClient.Proofs.Standing.LateAnswer
import ShopClient.Proofs.Standing.Expired
import ShopClient.Proofs.Standing.Origin
import ShopClient.Proofs.Standing.LateProfile
import ShopClient.Proofs.Standing.Activity
import ShopClient.Proofs.Standing.LoggedOut
import ShopClient.Proofs.Standing.SignIn
import ShopClient.Proofs.Standing.Renewed
import ShopClient.Proofs.Text.Blank
import ShopClient.Proofs.Text.Keys
import ShopClient.Proofs.Text.Utf8
import ShopClient.Proofs.Text.JsonText
import ShopClient.Proofs.Text.JsonNumber
import ShopClient.Proofs.Text.JsonValue
import ShopClient.Proofs.Text.JsonPlaces
import ShopClient.Proofs.Persistence.Rewrite
import ShopClient.Proofs.Persistence.Writes
import ShopClient.Proofs.Persistence.Restored
import ShopClient.Proofs.Persistence.History
import ShopClient.Proofs.Persistence.Reported
import ShopClient.Proofs.Persistence.Intact
import ShopClient.Proofs.Replay.Request
import ShopClient.Proofs.Replay.Deeds
import ShopClient.Proofs.Replay.Course
import ShopClient.Proofs.Replay.Once
import ShopClient.Proofs.Replay.Plain
import ShopClient.Proofs.Replay.Unauthorized
import ShopClient.Proofs.Ledger.Accounts
import ShopClient.Proofs.Ledger.Entering
import ShopClient.Proofs.Ledger.Totals
import ShopClient.Proofs.Ledger.Failures
import ShopClient.Proofs.Ledger.Requests
import ShopClient.Proofs.Ledger.Messages
import ShopClient.Proofs.Renaming.Tokens
import ShopClient.Proofs.Renaming.Runs
import ShopClient.Proofs.Leaving.Without
import ShopClient.Proofs.Leaving.Unseen
import ShopClient.Proofs.Alone.Fetching
import ShopClient.Proofs.Alone.Whole
import ShopClient.Proofs.Envelope.Body
import ShopClient.Proofs.Envelope.RoundTrip
import ShopClient.Proofs.Envelope.Codes
import ShopClient.Proofs.Decoding.Fields
import ShopClient.Proofs.Decoding.Records
import ShopClient.Proofs.Url.Form
import ShopClient.Proofs.Url.Query
import ShopClient.Proofs.Url.WayBack
import ShopClient.Proofs.Configuration.Stated
import ShopClient.Proofs.Configuration.Accepted
import ShopClient.Proofs.CommandLine.Options
import ShopClient.Proofs.CommandLine.Lines
import ShopClient.Proofs.Conversation.Events
import ShopClient.Proofs.Conversation.Yields
import ShopClient.Proofs.Conversation.Over
import ShopClient.Proofs.CommandLine.Lacking
import ShopClient.Proofs.CommandLine.Failing
