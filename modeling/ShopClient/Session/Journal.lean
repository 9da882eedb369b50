import ShopClient.Account.Profile
import ShopClient.Session.Error
import ShopClient.Session.Outgoing

/-!
# Journal of a session

All that a session does to the world outside, in the order in which it happens: what its front end is
told, what is counted, what is sent, and how the operations end that were asked of it.
-/

namespace ShopClient

/-- How a request ended, as the count of requests tells it. -/
inductive RequestResult
  | ok
  | transportError
  | businessError
  | sessionExpired
  | decodeError
  | invalidRequest
  deriving DecidableEq

/-- How a request ended that ended in `e`. -/
def SessionError.requestResult : SessionError → RequestResult
  | .transport .. => .transportError
  | .business .. => .businessError
  | .sessionExpired => .sessionExpired
  | .undecodable _ => .decodeError
  | .invalidRequest _ => .invalidRequest

/-- The label of a result. -/
def RequestResult.label : RequestResult → String
  | ok => "ok"
  | transportError => "transport_error"
  | businessError => "business_error"
  | sessionExpired => "session_expired"
  | decodeError => "decode_error"
  | invalidRequest => "invalid_request"

/-- How a renewal ended. -/
inductive RenewalResult
  | ok
  | failed
  /-- There was no refresh token to renew with. -/
  | noRefreshToken
  /-- The caller that drove the renewal was dropped. -/
  | abandoned
  /-- The session was logged out while the renewal was in flight. -/
  | discarded
  deriving DecidableEq

/-- The label of a result. -/
def RenewalResult.label : RenewalResult → String
  | ok => "ok"
  | failed => "failed"
  | noRefreshToken => "no_refresh_token"
  | abandoned => "abandoned"
  | discarded => "discarded"

/-- What is counted. -/
inductive Counter
  | request (result : RequestResult)
  | renewal (result : RenewalResult)
  /-- A request was sent again with a new credential. -/
  | replay
  | logout
  deriving DecidableEq

/-- The name of a counter with its label. -/
def Counter.name : Counter → String
  | request result => "session_requests_total\x7boutcome=" ++ result.label ++ "\x7d"
  | renewal result => "session_renewals_total\x7boutcome=" ++ result.label ++ "\x7d"
  | replay => "session_replays_total"
  | logout => "session_logouts_total"

/-- What the front end is told. -/
inductive Notice
  /-- A request failed on its way, and the user should see why. -/
  | error (message : String)
  /-- The credentials and the profile are gone. -/
  | loggedOut
  /-- The user has to sign in again. -/
  | loginRequired
  deriving DecidableEq

/-- The number of an operation, in the order in which the operations were started. -/
abbrev TaskId := Nat

/-- What an operation yields. -/
inductive Outcome
  /-- A new access token. -/
  | token (access : String)
  /-- The payload of an answer. -/
  | payload (value : Json.Value)
  /-- The profile, or none, if there was no access token to fetch it with. -/
  | profile (profile : Option Profile)
  /-- Whether the access token was renewed. -/
  | renewed (done : Bool)

/-- What a renewal comes to for those who wait for it: the new access token, or an error. -/
abbrev Granted := Except SessionError String

/-- Who sent a request. -/
inductive Sender
  | task (id : TaskId)
  | renewal
  deriving DecidableEq

/-- One thing that a session did. -/
inductive Entry
  | told (notice : Notice)
  | counted (counter : Counter)
  /-- A renewal was started with this refresh token. -/
  | renewing (refresh : String)
  | sent (sender : Sender) (request : Outgoing)
  /-- An operation asked for a renewal. -/
  | asked (id : TaskId)
  /-- An operation went on with what the renewal came to that it had asked for. -/
  | granted (id : TaskId) (granted : Granted)
  | finished (id : TaskId) (result : Except SessionError Outcome)

/-- What a session did, in order. -/
abbrev Journal := List Entry

namespace Journal

/-- What the front end was told. -/
def notices (j : Journal) : List Notice :=
  j.filterMap fun | .told n => some n | _ => none

/-- What was counted. -/
def counters (j : Journal) : List Counter :=
  j.filterMap fun | .counted c => some c | _ => none

/-- How often `c` was counted. -/
def total (c : Counter) (j : Journal) : Nat := j.counters.count c

/-- The refresh tokens that renewals were started with. -/
def renewals (j : Journal) : List String :=
  j.filterMap fun | .renewing r => some r | _ => none

/-- The requests that were sent. -/
def requests (j : Journal) : List (Sender × Outgoing) :=
  j.filterMap fun | .sent who request => some (who, request) | _ => none

/-- The operations that asked for a renewal. -/
def asked (j : Journal) : List TaskId :=
  j.filterMap fun | .asked id => some id | _ => none

/-- The operations that went on with what a renewal came to, and what that was. -/
def grants (j : Journal) : List (TaskId × Granted) :=
  j.filterMap fun | .granted id granted => some (id, granted) | _ => none

/-- The operations that ended, and how. -/
def results (j : Journal) : List (TaskId × Except SessionError Outcome) :=
  j.filterMap fun | .finished id result => some (id, result) | _ => none

end Journal

end ShopClient
