import ShopClient.Url.Form

/-!
# Navigation guard

Whether the user may go on to a place of the front end, or has to sign in first. The sign-in page is
given the place to come back to.
-/

namespace ShopClient

/-- The decision on a navigation. -/
inductive Access
  | proceed
  /-- The user has to sign in, and then comes back to `target`. -/
  | redirectToLogin (target : String)
  deriving DecidableEq

namespace Access

/-- The path of the sign-in page. -/
def loginRoute : String := "/login"

/-- The address of the sign-in page with the way back, if the user has to sign in. -/
def location? : Access → Option String
  | proceed => none
  | redirectToLogin target =>
    some (loginRoute ++ "?" ++ Url.Form.encodePairs [("redirect", target)])

/-- The decision on a navigation to `target`, with a session that is active or not. -/
def check (requiresAuth : Bool) (target : String) (active : Bool) : Access :=
  if !requiresAuth || active then proceed else redirectToLogin target

end Access

end ShopClient
