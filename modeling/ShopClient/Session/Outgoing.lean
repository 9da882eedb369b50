import ShopClient.Session.Error
import ShopClient.Session.Request
import ShopClient.Text.Base64

/-!
# Outgoing requests

A request as it goes over the network. A name and a password in the address become a header field,
unless the request brings an access token or a field of that name itself.

Only addresses of the web can be sent to, and not those whose host holds one of four characters, or
that are too long.
-/

namespace ShopClient

/-- A request on the network. -/
structure Outgoing where
  method : String
  /-- The address, without a user name and a password. -/
  url : Url
  headers : Http.Headers
  body : Option String

namespace Outgoing

/-- The header field with the credential. -/
def authorization : String := "authorization"

/-- The header field with the number of the request. -/
def requestId : String := "x-request-id"

/-- The header field with the type of the body. -/
def contentType : String := "content-type"

/-- The value of a header field with a user name and a password. -/
def basic (user : String) (password : Option String) : String :=
  "Basic " ++ String.ofList (Text.base64 (Text.Utf8.encode (user ++ ":" ++ password.getD "")))

/-- The address as the network sees it. -/
def target (o : Outgoing) : String := { o.url with fragment := none }.print

/-- No longer address can be sent to. -/
def lengthLimit : Nat := 65534

/-- Whether an address can be sent to. -/
def isSendable (u : Url) : Bool :=
  (u.scheme == "http" || u.scheme == "https") &&
    (match u.host? with
      | some h => h.print.toList.all fun c => !"\"`\x7b\x7d".toList.contains c
      | none => false) &&
    u.print.utf8ByteSize ≤ lengthLimit

/-- What a caller is told when an address cannot be sent to. -/
def builderError (u : Url) : SessionError :=
  .transport none ("builder error for url (" ++ u.print ++ ")")

/-- The header fields, with the name and the password that the address held. -/
def identified (info : Option (String × Option String)) (headers : Http.Headers) : Http.Headers :=
  match info, Keyed.get? authorization headers with
  | some (user, password), none => Keyed.insert authorization (basic user password) headers
  | _, _ => headers

/-- The header fields, with the type of the body. -/
def typed (body : Option Json.Value) (headers : Http.Headers) : Http.Headers :=
  match body, Keyed.get? contentType headers with
  | some _, none => Keyed.insert contentType "application/json" headers
  | _, _ => headers

/-- A request with a body, to an address that may hold a user name and a password. -/
def ofParts (method : String) (url : Url) (headers : Http.Headers) (body : Option Json.Value) :
    Except SessionError Outgoing :=
  let (url, info) := url.takeUserInfo
  if isSendable url then
    .ok { method, url, headers := typed body (identified info headers),
          body := body.map Json.Value.print }
  else .error (builderError url)

/-- The number of a request as a header field shows it. -/
def idText (n : Nat) : String :=
  let digits := Nat.toDigits 16 n
  "req_" ++ String.ofList (List.replicate (32 - digits.length) '0' ++ digits)

/-- The request `r`, with the access token `bearer` if there is one, as the `id`-th request. -/
def ofRequest (base : String) (bearer : Option String) (id : Nat) (r : Request) :
    Except SessionError Outgoing := do
  let url ← (r.url base).mapError fun e => SessionError.invalidRequest e.message
  let headers ← match bearer with
    | none => pure r.headers
    | some token =>
      if Http.Header.isValue (Http.Header.bearer token) then
        pure (Keyed.insert authorization (Http.Header.bearer token) r.headers)
      else throw (.invalidRequest InvalidRequest.credential.message)
  ofParts r.method url (Keyed.insert requestId (idText id) headers) r.body

end Outgoing

end ShopClient
