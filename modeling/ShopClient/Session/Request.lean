import ShopClient.Http.Header
import ShopClient.Json.Encode
import ShopClient.Session.Settings
import ShopClient.Text.Quoted
import ShopClient.Url.Parser

/-!
# Requests

A request as its caller describes it: everything that is needed to send it, and to send it again with
another credential. A public request needs no session.
-/

namespace ShopClient

/-- Why a request cannot be built. -/
inductive InvalidRequest
  | body (reason : Json.Unencodable)
  | headerName (name : String)
  | headerValue (name : String)
  | url (text : String) (fault : Url.Fault)
  /-- The access token cannot stand in a header field. -/
  | credential
  deriving DecidableEq

/-- The text of the reason. -/
def InvalidRequest.message : InvalidRequest → String
  | body reason => "request body: " ++ reason.message
  | headerName name => "header name " ++ Text.quote name ++ ": invalid HTTP header name"
  | headerValue name => "header value for " ++ name ++ ": failed to parse header value"
  | url text fault => "url " ++ Text.quote text ++ ": " ++ fault.message
  | credential => "access credential: failed to parse header value"

/-- A request to the shop. -/
structure Request where
  method : String := "GET"
  /-- A path below the base address, or an address of its own. -/
  path : String
  query : List (String × String) := []
  body : Option Json.Value := none
  headers : Http.Headers := []
  /-- Whether the request needs no session. -/
  isPublic : Bool := false

namespace Request

/-- A request for what is at `path`. -/
def get (path : String) : Request := { path }

/-- A request that posts a body. -/
def post (path : String) (body : Json.Value) : Request := { method := "POST", path, body := some body }

/-- The request with one more pair in its query. -/
def withQuery (key value : String) (r : Request) : Request :=
  { r with query := r.query ++ [(key, value)] }

/-- The request with a body, if the body could be encoded. -/
def withBody (body : Except Json.Unencodable Json.Value) (r : Request) :
    Except InvalidRequest Request :=
  match body with
  | .ok v => .ok { r with body := some v }
  | .error reason => .error (.body reason)

/-- The request with a header field, in place of one of the same name. -/
def withHeader (name value : String) (r : Request) : Except InvalidRequest Request :=
  match Http.Header.name? name with
  | none => .error (.headerName name)
  | some name =>
    if Http.Header.isValue value then .ok { r with headers := Keyed.insert name value r.headers }
    else .error (.headerValue name)

/-- The request as one that needs no session. -/
def asPublic (r : Request) : Request := { r with isPublic := true }

/-- Whether the path is an address of its own. -/
def isAbsolute (r : Request) : Bool :=
  "http://".toList.isPrefixOf r.path.toList || "https://".toList.isPrefixOf r.path.toList

/-- The text of the address, before the query is added to it. -/
def urlText (base : String) (r : Request) : String :=
  if r.isAbsolute then r.path else Settings.below base r.path

/-- The address of the request. -/
def url (base : String) (r : Request) : Except InvalidRequest Url :=
  match Url.parse (r.urlText base) with
  | .ok u => .ok (u.appendQuery r.query)
  | .error fault => .error (.url (r.urlText base) fault)

end Request

end ShopClient
