import ShopClient.Text.Hidden

/-!
# Quoted text

How messages show a text that may hold anything: between double quotes, with the quote and the
backslash escaped, short escapes for the commonest controls, and the code point in braces for every
other character that would not be seen (`isHidden`).
-/

namespace ShopClient.Text

/-- The hexadecimal digits of `n`, without leading zeros. -/
def hex (n : Nat) : String :=
  String.ofList (Nat.toDigits 16 n)

/-- One character between quotes. -/
def quoteChar (c : Char) : String :=
  if c == '\x00' then "\\0"
  else if c == '\t' then "\\t"
  else if c == '\n' then "\\n"
  else if c == '\r' then "\\r"
  else if c == '"' then "\\\""
  else if c == '\\' then "\\\\"
  else if isHidden c then "\\u\x7b" ++ hex c.toNat ++ "\x7d"
  else c.toString

/-- The text `s` between quotes. -/
def quote (s : String) : String :=
  "\"" ++ String.join (s.toList.map quoteChar) ++ "\""

end ShopClient.Text
