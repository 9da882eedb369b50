import ShopClient.Text.Quoted

/-!
# Credential pairs

The two tokens of a session: the access token goes with each request, the refresh token is traded
for a new access token when the old one has expired. An empty token is one that is not held.
-/

namespace ShopClient

/-- The tokens of a session. -/
structure CredentialPair where
  access : String := ""
  refresh : String := ""
  deriving DecidableEq

namespace CredentialPair

/-- Whether an access token is held. -/
def hasAccess (p : CredentialPair) : Bool := p.access != ""

/-- Whether a refresh token is held. -/
def hasRefresh (p : CredentialPair) : Bool := p.refresh != ""

/-- Whether no token is held. -/
def isEmpty (p : CredentialPair) : Bool := !p.hasAccess && !p.hasRefresh

/-- A token in a log: whether there is one, and no more. -/
def redacted (token : String) : String :=
  Text.quote (if token = "" then "<empty>" else "[REDACTED]")

/-- The tokens in a log. -/
def shown (p : CredentialPair) : String :=
  "CredentialPair \x7b access: " ++ redacted p.access ++ ", refresh: " ++ redacted p.refresh ++
    " \x7d"

end CredentialPair

end ShopClient
