import ShopClient.Json.Decode

/-!
# Signing in

What a user sends to sign in or to register, and what the shop answers to a sign-in.
-/

namespace ShopClient

open Json

/-- The name and the password of an account. -/
structure Credentials where
  userName : String
  password : String
  deriving DecidableEq

/-- The body of a sign-in or a registration. -/
def Credentials.toValue (c : Credentials) : Value :=
  .object [("user_name", .string c.userName), ("user_password", .string c.password)]

/-- The credentials in a log: the password never shows. -/
def Credentials.shown (c : Credentials) : String :=
  "Credentials \x7b user_name: " ++ Text.quote c.userName ++
    ", user_password: " ++ Text.quote "[REDACTED]" ++ " \x7d"

/-- The answer to a sign-in. An empty token is one that was not issued. -/
structure SignInReply where
  access : String := ""
  refresh : String := ""
  /-- The life of the access token in seconds, for information only. -/
  expiresIn : UInt64 := 0
  deriving DecidableEq

namespace SignInReply

/-- How the answer to a sign-in is decoded. -/
def record : Record SignInReply where
  title := "struct LoginResponse"
  fields := [
    { name := "access_token", put := fun v x => do return { x with access := ← Decoder.string v } },
    { name := "refresh_token",
      put := fun v x => do return { x with refresh := ← Decoder.string v } },
    { name := "expires_in",
      put := fun v x => do return { x with expiresIn := ← Decoder.uint64 v } }]
  blank := {}

/-- The answer to a sign-in that a value stands for. -/
def decode : Decoder SignInReply := record.decode

/-- The answer to a sign-in as a value. -/
def toValue (r : SignInReply) : Value :=
  .object [("access_token", .string r.access), ("refresh_token", .string r.refresh),
    ("expires_in", .int r.expiresIn.toNat)]

end SignInReply

end ShopClient
