import ShopClient.Keyed
import ShopClient.Text.Utf8

/-!
# Header fields

The header fields of a request, each under its name in lower case. A name is a token; a value has no
controls but the tab.
-/

namespace ShopClient.Http

/-- Header fields in the order of their names. -/
abbrev Headers := Keyed String

namespace Header

/-- The characters of a token. -/
def isTokenChar (c : Char) : Bool :=
  c.isAlphanum || "!#$%&'*+-.^_`|~".toList.contains c

/-- No name is longer than this. -/
def nameLimit : Nat := 65535

/-- The name that a text stands for, if it is one. -/
def name? (s : String) : Option String :=
  if s.isEmpty || !s.toList.all isTokenChar || nameLimit < s.length then none
  else some (String.ofList (s.toList.map Char.toLower))

/-- Whether a text may be the value of a field. -/
def isValue (s : String) : Bool :=
  s.toList.all fun c => c == '\t' || (0x20 ≤ c.toNat && c.toNat != 0x7F)

/-- The value of the field that carries the access token. -/
def bearer (token : String) : String := "Bearer " ++ token

end Header

end ShopClient.Http
