import ShopClient.Json.Printer

/-!
# Encoding maps

A map as an object. The keys of an object are strings, so a key has to be a scalar: strings stand for
themselves, and numbers and truth values for their texts.
-/

namespace ShopClient.Json

/-- Why a map cannot be an object. -/
inductive Unencodable
  | keyNotString
  deriving DecidableEq

/-- The text of the reason. -/
def Unencodable.message : Unencodable → String
  | keyNotString => "key must be a string"

/-- The text of a key. -/
def keyText? : Value → Option String
  | .string s => some s
  | .bool b => some (toString b)
  | .number n => some (String.ofList n.chars)
  | _ => none

/-- One entry as a member. -/
def member? (e : Value × Value) : Except Unencodable (String × Value) :=
  match keyText? e.1 with
  | some k => .ok (k, e.2)
  | none => .error .keyNotString

/-- The object with the given entries, in the order of their keys. -/
def ofEntries? (entries : List (Value × Value)) : Except Unencodable Value :=
  (entries.mapM member?).map fun ms => .object (Keyed.ofList ms)

end ShopClient.Json
