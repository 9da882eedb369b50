/-!
# Secrets

Texts that never show: what is printed in their place says nothing about them.
-/

namespace ShopClient

/-- A text that does not show. -/
structure Secret where
  /-- The text itself, for the one who needs it. -/
  expose : String

namespace Secret

/-- What shows in place of a secret. -/
def shown (_ : Secret) : String := "[REDACTED]"

/-- Whether there is nothing to hide. -/
def isEmpty (s : Secret) : Bool := s.expose == ""

end Secret

end ShopClient
