import ShopClient.Decimal.Whole
import ShopClient.Json.Parser
import ShopClient.Session.Error
import ShopClient.Text.Blank

/-!
# Response envelopes

The shop wraps most payloads in an object with a code, a message and the data; some answers are bare
payloads. A body is classified once, and callers see the payload alone.

* `Envelope.ofBytes`: every body is an envelope or a bare payload. What is not JSON is a bare text;
* `Envelope.payload`: the payload, unless the code of the envelope refuses the request;
* `serverMessage?`: what the body of a failed response says about the failure.
-/

namespace ShopClient

open Json

/-- The body of a response. -/
inductive Envelope
  | enveloped (code : Int64) (msg : String) (data : Value)
  | raw (value : Value)

namespace Envelope

/-- The codes of success. -/
def successCodes : List Int64 := [0, 200]

/-- What a refusal says that carries no message. -/
def defaultMessage : String := "operation failed"

/-- The code that a value stands for: a whole number, or a text that holds one, with or without
    blanks around it. -/
def code? : Value → Option Int64
  | .number (.int n) => Decimal.int64? n
  | .string s => (Decimal.integer? (Text.trimChars s.toList)).bind Decimal.int64?
  | _ => none

/-- The classification of a value: an object with a code is an envelope. -/
def classify (v : Value) : Envelope :=
  match (v.member? "code").bind code? with
  | some code =>
    enveloped code (((v.member? "msg").bind Value.string?).getD "") ((v.member? "data").getD .null)
  | none => raw v

/-- The classification of a body. A blank one holds nothing, and what is not JSON is a text. -/
def ofBytes (body : Text.Bytes) : Envelope :=
  if body.all Text.isBlankByte then raw .null
  else match parseBytes? body with
    | some v => classify v
    | none => raw (.string (Text.Utf8.decodeLossy body))

/-- Whether the request was carried out. -/
def isSuccess : Envelope → Bool
  | enveloped code _ _ => successCodes.contains code
  | raw _ => true

/-- The payload, or the refusal. -/
def payload : Envelope → Except SessionError Value
  | enveloped code msg data =>
    if successCodes.contains code then .ok data
    else .error (.business code (if msg = "" then defaultMessage else msg))
  | raw v => .ok v

end Envelope

/-- The text of the member `k`, without the blanks around it, if there is anything left of it. -/
def Json.Value.trimmed? (k : String) (v : Value) : Option String :=
  ((v.member? k).bind Value.string?).map Text.trim |>.filter (· ≠ "")

/-- What the body of a failed response says about the failure. -/
def serverMessage? (body : Text.Bytes) : Option String :=
  (parseBytes? body).bind fun v => (v.trimmed? "error").or (v.trimmed? "msg")

end ShopClient
