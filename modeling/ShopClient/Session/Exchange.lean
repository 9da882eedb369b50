import ShopClient.Account.Renewal
import ShopClient.Envelope
import ShopClient.Session.Outgoing

/-!
# Exchanges

How a request on the network ends, and what its sender makes of it.

* `Exchange.received`: what the sender of an ordinary request makes of the exchange: a body, the
  word that the credential was not accepted, or a transport error with the best message there is;
* `Exchange.renewed`: what a renewal makes of it. Only a success with an access token renews.
-/

namespace ShopClient

/-- How a request on the network ends. -/
inductive Exchange
  /-- There was no answer: the shop could not be reached, or the connection was closed. -/
  | unanswered
  /-- The answer took too long. -/
  | timedOut
  | answered (status : Http.Status) (body : Text.Bytes)
  /-- The body of the answer ended before its time. -/
  | cutOff (status : Http.Status)

/-- What a transport error says when there is nothing better to say. -/
def fallbackMessage : String := "service busy, please try again later"

/-- A transport error with what the shop says about it, else with the sender's own text. -/
def transportError (status : Option Http.Status) (body : Text.Bytes) (own : Option String) :
    SessionError :=
  .transport status (((serverMessage? body).or (own.filter (· ≠ ""))).getD fallbackMessage)

/-- The answer of a server to a request of the given method. Some answers have no body. -/
def Exchange.ofAnswer (method : String) (status : Http.Status) (body : Text.Bytes) (whole : Bool) :
    Exchange :=
  if method = "HEAD" ∨ status = 204 ∨ status = 304 then .answered status []
  else if whole then .answered status body
  else .cutOff status

namespace Outgoing

/-- What a sender says whose request got no answer. -/
def unansweredText (o : Outgoing) : String := "error sending request for url (" ++ o.url.print ++ ")"

/-- What a sender says whose answer was cut off. -/
def cutOffText (o : Outgoing) : String := "error decoding response body for url (" ++ o.url.print ++ ")"

/-- What a sender says that waited the given time, in milliseconds. -/
def timedOutText (timeout : Nat) : String :=
  "request timed out after " ++ toString (timeout / 1000) ++ "s"

end Outgoing

/-- What came back to the sender of a request. -/
inductive Received
  | body (body : Text.Bytes)
  /-- The credential was missing or was not accepted. -/
  | unauthorized (body : Text.Bytes)

namespace Exchange

/-- What the sender of the request `o` makes of the exchange, having waited up to `timeout`. -/
def received (o : Outgoing) (timeout : Nat) : Exchange → Except SessionError Received
  | unanswered => .error (transportError none [] (some o.unansweredText))
  | timedOut => .error (transportError none [] (some (Outgoing.timedOutText timeout)))
  | cutOff status => .error (transportError (some status) [] (some o.cutOffText))
  | answered status body =>
    if status = Http.Status.unauthorized then .ok (.unauthorized body)
    else if status.isSuccess then .ok (.body body)
    else .error (transportError (some status) body (some status.message))

end Exchange

/-- What a renewal yields: an access token, and a refresh token if there is a new one. -/
structure Renewed where
  access : String
  refresh : Option String := none
  deriving DecidableEq

namespace Exchange

/-- What a renewal makes of the body of a success. -/
def renewedBy (body : Text.Bytes) : Except RenewalError Renewed := do
  let payload ← (Envelope.ofBytes body).payload.mapError fun e => RenewalError.business e.message
  match RenewalReply.decode payload with
  | .error _ => throw .missingAccessToken
  | .ok reply => match reply.access? with
    | some access => return { access, refresh := reply.refresh? }
    | none => throw .missingAccessToken

/-- What a renewal makes of the exchange, the request `o` having been sent for it. -/
def renewed (o : Outgoing) : Exchange → Except RenewalError Renewed
  | unanswered => .error (.transport o.unansweredText)
  | timedOut => .error (.transport o.unansweredText)
  | cutOff status =>
    if status.isSuccess then .error (.transport ("reading renewal response: " ++ o.cutOffText))
    else .error (.rejected status)
  | answered status body =>
    if status.isSuccess then renewedBy body else .error (.rejected status)

end Exchange

end ShopClient
