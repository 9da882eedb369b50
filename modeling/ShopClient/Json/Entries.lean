import ShopClient.Json.Parser

/-!
# Text of string maps

A map from strings to strings as the text of a JSON object, indented, with the keys in order.

* `Entries.print`: the text of a map;
* `Entries.parse`: the map of a text. It takes an object whose values are strings; any other value
  is refused where it stands, and the last of several values of a key counts.
-/

namespace ShopClient.Json

open Text (Read)

/-- A map from strings to strings, in the order of its keys. -/
abbrev Entries := Keyed String

namespace Entries

/-- A map as a JSON object. -/
def toValue (entries : Entries) : Value :=
  .object (entries.map fun e => (e.1, .string e.2))

/-- The text of a map. -/
def print (entries : Entries) : String := (toValue entries).pretty

/-- Refuses what comes next, of which `c` is the first character, because `expected` was. A scalar
    is read to the end first, an array or an object is not. -/
def refuse (expected : String) (c : Char) (r : List Char) : Failure :=
  let mismatch (found : Found) (rest : List Char) : Failure :=
    (Fault.mismatch (.kind found expected)).before rest
  let scalar {α : Type} (x : Except Failure (Read α r)) (found : α → Found) : Failure :=
    match x with
    | .ok x => mismatch (found x.value) x.rest
    | .error e => e
  if c == '"' then scalar (string r) .string
  else if c == 'n' then scalar (word "ull".toList r) fun _ => .null
  else if c == 't' then scalar (word "rue".toList r) fun _ => .bool true
  else if c == 'f' then scalar (word "alse".toList r) fun _ => .bool false
  else if c == '[' then mismatch .sequence (c :: r)
  else if c == '{' then mismatch .map (c :: r)
  else if c == '-' || c.isDigit then
    match number (c :: r) with
    | .ok x => mismatch (.number x.value) x.rest
    | .error e => e
  else Fault.noValue.at (c :: r)

/-- A string, or a refusal. -/
def stringValue : Reader String := fun s =>
  match h : skipSpace s with
  | [] => .error (Fault.endInValue.before [])
  | c :: r =>
    if c == '"' then
      (string r).map (·.widen (Nat.le_of_lt (length_lt_of_skipSpace_eq h)))
    else .error (refuse "a string" c r)

/-- The entries of a text, as they are written. -/
def readEntries (s : List Char) : Except Failure (List (String × String)) :=
  match skipSpace s with
  | [] => .error (Fault.endInValue.before [])
  | c :: r => do
    if c == '{' then finish (← object stringValue r) else .error (refuse "a map" c r)

/-- The map that a text stands for. -/
def parse (text : String) : Except Failure Entries :=
  (readEntries text.toList).map Keyed.ofList

end Entries

end ShopClient.Json
