import ShopClient.Json.Decode

/-!
# Renewing the access token

What is sent to trade the refresh token for a new access token, and what the shop answers. The
answer may also carry a new refresh token, which then takes the place of the old one.
-/

namespace ShopClient

open Json

/-- The body of a renewal. -/
structure RenewalRequest where
  refresh : String
  deriving DecidableEq

/-- The body of a renewal as a value. -/
def RenewalRequest.toValue (r : RenewalRequest) : Value :=
  .object [("refresh_token", .string r.refresh)]

/-- The answer to a renewal. -/
structure RenewalReply where
  accessToken : Option String := none
  refreshToken : Option String := none
  expiresIn : Option UInt64 := none
  deriving DecidableEq

namespace RenewalReply

/-- How the answer to a renewal is decoded. -/
def record : Record RenewalReply where
  title := "struct RefreshResponse"
  fields := [
    { name := "access_token",
      put := fun v x => do return { x with accessToken := ← Decoder.optional Decoder.string v } },
    { name := "refresh_token",
      put := fun v x => do return { x with refreshToken := ← Decoder.optional Decoder.string v } },
    { name := "expires_in",
      put := fun v x => do return { x with expiresIn := ← Decoder.optional Decoder.uint64 v } }]
  blank := {}

/-- The answer to a renewal that a value stands for. -/
def decode : Decoder RenewalReply := record.decode

/-- A text, or null. -/
private def optionalString : Option String → Value
  | none => .null
  | some s => .string s

/-- The answer to a renewal as a value. -/
def toValue (r : RenewalReply) : Value :=
  .object [("access_token", optionalString r.accessToken),
    ("refresh_token", optionalString r.refreshToken),
    ("expires_in", match r.expiresIn with | none => .null | some n => .int n.toNat)]

/-- The new access token, if the answer carries one that is not empty. -/
def access? (r : RenewalReply) : Option String := r.accessToken.filter (· ≠ "")

/-- The new refresh token, if the answer carries one that is not empty. -/
def refresh? (r : RenewalReply) : Option String := r.refreshToken.filter (· ≠ "")

end RenewalReply

end ShopClient
