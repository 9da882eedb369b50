import ShopClient.Json.Printer
import ShopClient.Text.Quoted

/-!
# Values of the wrong shape

Why a value is not what its reader expects, as a cause and as the message that names what was found
and what was expected.
-/

namespace ShopClient.Json

/-- What was found, as far as a message shows it. -/
inductive Found
  | null
  | bool (b : Bool)
  | number (n : Number)
  | string (s : String)
  | sequence
  | map

/-- What a reader finds in a value. -/
def Value.found : Value → Found
  | .null => .null
  | .bool b => .bool b
  | .number n => .number n
  | .string s => .string s
  | .array _ => .sequence
  | .object _ => .map

/-- Why a value is not what its reader expects. -/
inductive Mismatch
  /-- Another kind of value was expected. -/
  | kind (found : Found) (expected : String)
  /-- The number is of the right kind, but out of the range of the type. -/
  | range (n : Number) (expected : String)
  /-- The array has this many items, more than the record has fields. -/
  | length (n : Nat)
  /-- Two members stand for the same field. -/
  | duplicate (field : String)

/-- A number in a message, with the word for its kind. -/
def Number.shown (n : Number) : String :=
  match n with
  | .int _ => "integer `" ++ String.ofList n.chars ++ "`"
  | .real _ => "floating point `" ++ String.ofList n.chars ++ "`"

/-- What was found, in a message. -/
def Found.shown : Found → String
  | .null => "null"
  | .bool true => "boolean `true`"
  | .bool false => "boolean `false`"
  | .number n => n.shown
  | .string s => "string " ++ Text.quote s
  | .sequence => "sequence"
  | .map => "map"

/-- The message for a mismatch. -/
def Mismatch.message : Mismatch → String
  | .kind found expected => "invalid type: " ++ found.shown ++ ", expected " ++ expected
  | .range n expected => "invalid value: " ++ n.shown ++ ", expected " ++ expected
  | .length n => "invalid length " ++ toString n ++ ", expected fewer elements in array"
  | .duplicate field => "duplicate field `" ++ field ++ "`"

end ShopClient.Json
