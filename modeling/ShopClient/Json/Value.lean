import ShopClient.Decimal.Binary64
import ShopClient.Keyed

/-!
# JSON values

A value is a tree of scalars, arrays and objects. Numbers are whole as long as they fit 64 bits,
signed or not, and binary64 otherwise. An object is the list of its members in the order in which
they are written; the objects that a reader builds are in the order of their keys, each key once
(`Keyed.insert`), while an object built from a record keeps the order of the record's fields.
-/

namespace ShopClient.Json

/-- A number: a whole one between `-2 ^ 63` and `2 ^ 64 - 1`, or a binary64 number. -/
inductive Number
  | int (n : Int)
  | real (x : Binary64)
  deriving DecidableEq, Inhabited

/-- A JSON value. -/
inductive Value
  | null
  | bool (b : Bool)
  | number (n : Number)
  | string (s : String)
  | array (items : List Value)
  | object (members : List (String × Value))
  deriving Inhabited, BEq

namespace Value

/-- The member `k` of an object. -/
def member? (k : String) : Value → Option Value
  | .object ms => Keyed.get? k ms
  | _ => none

/-- The text of a string value. -/
def string? : Value → Option String
  | .string s => some s
  | _ => none

/-- An object with its members in the order of their keys. -/
def keyed : Value → Value
  | .object ms => .object (Keyed.ofList ms)
  | v => v

/-- A whole number of at most 64 bits. -/
def int (n : Int) : Value := .number (.int n)

end Value

end ShopClient.Json
