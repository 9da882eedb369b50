import ShopClient.Decimal.Shortest
import ShopClient.Json.Value

/-!
# JSON text

Writing values as text, compact or indented by two blanks a level. Strings escape the quote, the
backslash and the controls below the space, and nothing else; a binary64 number is written as the
shortest decimal that reads back, always with a point or an exponent.
-/

namespace ShopClient.Json

/-- The digit of value `n` in lower-case hexadecimal. -/
def hexDigit (n : Nat) : Char := (Nat.digitChar n)

/-- One character between quotes. -/
def escapeChar (c : Char) : List Char :=
  if c == '"' then ['\\', '"']
  else if c == '\\' then ['\\', '\\']
  else if c == '\x08' then ['\\', 'b']
  else if c == '\x0c' then ['\\', 'f']
  else if c == '\n' then ['\\', 'n']
  else if c == '\r' then ['\\', 'r']
  else if c == '\t' then ['\\', 't']
  else if c.toNat < 0x20 then
    ['\\', 'u', '0', '0', hexDigit (c.toNat / 16), hexDigit (c.toNat % 16)]
  else [c]

/-- A string between quotes. -/
def stringChars (s : String) : List Char :=
  '"' :: s.toList.flatMap escapeChar ++ ['"']

/-- The decimal digits of an integer, with a minus sign if it is negative. -/
def intChars (n : Int) : List Char :=
  if n < 0 then '-' :: Nat.toDigits 10 n.natAbs else Nat.toDigits 10 n.natAbs

/-- The text of a number. -/
def Number.chars : Number → List Char
  | .int n => intChars n
  | .real x => (Decimal.render .json x).toList

mutual

/-- The compact text of a value. -/
def Value.chars : Value → List Char
  | .null => "null".toList
  | .bool true => "true".toList
  | .bool false => "false".toList
  | .number n => n.chars
  | .string s => stringChars s
  | .array vs => '[' :: itemsChars vs ++ [']']
  | .object ms => '{' :: membersChars ms ++ ['}']

/-- The compact texts of `vs`, with commas between. -/
def itemsChars : List Value → List Char
  | [] => []
  | [v] => v.chars
  | v :: vs => v.chars ++ ',' :: itemsChars vs

/-- The compact texts of the members `ms`, with commas between. -/
def membersChars : List (String × Value) → List Char
  | [] => []
  | [(k, v)] => stringChars k ++ ':' :: v.chars
  | (k, v) :: ms => stringChars k ++ ':' :: v.chars ++ ',' :: membersChars ms

end

/-- The compact text of a value. -/
def Value.print (v : Value) : String := String.ofList v.chars

/-- A line break and the blanks before the next line, which is `level` levels deep. -/
def indent (level : Nat) : List Char := '\n' :: List.replicate (2 * level) ' '

mutual

/-- The text of a value with every item and member on a line of its own, `level` levels deep. -/
def Value.prettyChars (level : Nat) : Value → List Char
  | .array [] => ['[', ']']
  | .array (v :: vs) => '[' :: prettyItems (level + 1) (v :: vs) ++ indent level ++ [']']
  | .object [] => ['{', '}']
  | .object (m :: ms) => '{' :: prettyMembers (level + 1) (m :: ms) ++ indent level ++ ['}']
  | .null => "null".toList
  | .bool true => "true".toList
  | .bool false => "false".toList
  | .number n => n.chars
  | .string s => stringChars s

/-- The items `vs`, each on a line of its own. -/
def prettyItems (level : Nat) : List Value → List Char
  | [] => []
  | [v] => indent level ++ v.prettyChars level
  | v :: vs => indent level ++ v.prettyChars level ++ ',' :: prettyItems level vs

/-- The members `ms`, each on a line of its own. -/
def prettyMembers (level : Nat) : List (String × Value) → List Char
  | [] => []
  | [(k, v)] => indent level ++ stringChars k ++ ':' :: ' ' :: v.prettyChars level
  | (k, v) :: ms =>
    indent level ++ stringChars k ++ ':' :: ' ' :: v.prettyChars level ++
      ',' :: prettyMembers level ms

end

/-- The indented text of a value. -/
def Value.pretty (v : Value) : String := String.ofList (v.prettyChars 0)

end ShopClient.Json
