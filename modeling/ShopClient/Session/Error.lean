import ShopClient.Http.Status

/-!
# Errors of a session

What a caller is told when a request does not end with a payload:

* `transport`: the request got no answer, or one with a status that is no success;
* `business`: the answer arrived, and its envelope refuses the request;
* `sessionExpired`: the credentials could not be renewed. They are gone by then;
* `undecodable`: the payload is not what the caller asked for;
* `invalidRequest`: the request could not be built.

The failure of a renewal has a type of its own. Callers see `sessionExpired` in its place.
-/

namespace ShopClient

/-- Why a request of a session failed. -/
inductive SessionError
  | transport (status : Option Http.Status) (message : String)
  | business (code : Int64) (message : String)
  | sessionExpired
  | undecodable (reason : String)
  | invalidRequest (reason : String)
  deriving DecidableEq

namespace SessionError

/-- The text of an error. -/
def message : SessionError → String
  | transport _ message => message
  | business _ message => message
  | sessionExpired => "session expired, please sign in again"
  | undecodable reason => "invalid response payload: " ++ reason
  | invalidRequest reason => "invalid request: " ++ reason

/-- The status of the response behind a transport error, if one arrived. -/
def status? : SessionError → Option Http.Status
  | transport status _ => status
  | _ => none

/-- Whether the user has to sign in again. -/
def isExpiry : SessionError → Bool
  | sessionExpired => true
  | _ => false

end SessionError

/-- Why a renewal of the access token failed. -/
inductive RenewalError
  | transport (message : String)
  | rejected (status : Http.Status)
  | business (message : String)
  | missingAccessToken
  deriving DecidableEq

/-- The text of a renewal's failure. -/
def RenewalError.message : RenewalError → String
  | transport message => "renewal request failed: " ++ message
  | rejected status => "renewal endpoint returned " ++ toString status.toNat
  | business message => "renewal refused: " ++ message
  | missingAccessToken => "renewal response carried no access token"

end ShopClient
