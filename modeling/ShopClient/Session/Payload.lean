import ShopClient.Account.Profile
import ShopClient.Account.SignIn

/-!
# Payloads

What a caller expects the payload of an answer to be. A payload of the expected shape is given back in
the shape's own form: the fields of a record in their order, with the defaults filled in.
-/

namespace ShopClient

open Json

/-- What a payload is expected to be. -/
inductive Shape
  | any
  | string
  | strings
  | uint64
  | unit
  | profile
  | optionalProfile
  | signInReply
  deriving DecidableEq

/-- A payload in the form of its shape. -/
def Shape.decode : Shape → Decoder Value
  | any => Decoder.value
  | string => fun v => (Decoder.string v).map .string
  | strings => fun v => (Decoder.list Decoder.string v).map fun ss => .array (ss.map .string)
  | uint64 => fun v => (Decoder.uint64 v).map fun n => .int n.toNat
  | unit => fun v => (Decoder.unit v).map fun _ => .null
  | profile => fun v => (Profile.decode v).map Profile.toValue
  | optionalProfile => fun v =>
    (Decoder.optional Profile.decode v).map fun p => (p.map Profile.toValue).getD .null
  | signInReply => fun v => (SignInReply.decode v).map SignInReply.toValue

end ShopClient
