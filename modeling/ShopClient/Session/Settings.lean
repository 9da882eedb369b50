import ShopClient.Text.Blank

/-!
# Settings of a session

Where the shop is and how long to wait for it, and the places of the account services.
-/

namespace ShopClient

/-- The connection of a session. Times are in milliseconds. -/
structure Settings where
  /-- The address that paths are relative to. -/
  baseUrl : String := "http://localhost:8000/api/v1"
  requestTimeout : Nat := 10000
  /-- How long to wait for a renewal, less than for a request that waits for the renewal. -/
  renewalTimeout : Nat := 5000
  deriving DecidableEq

namespace Settings

/-- The path of signing in. -/
def loginPath : String := "/login"

/-- The path of registering. -/
def registerPath : String := "/register"

/-- The path of renewing the access token. -/
def renewalPath : String := "/refresh"

/-- The path of the profile. -/
def profilePath : String := "/profile"

/-- A path below a base address, with one slash between them. -/
def below (base path : String) : String := Text.trimEnd '/' base ++ "/" ++ Text.trimStart '/' path

end Settings

end ShopClient
