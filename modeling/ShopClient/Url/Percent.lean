import ShopClient.Text.Digit
import ShopClient.Text.Utf8

/-!
# Percent encoding

Each part of a URL has characters of its own that may not stand for themselves; their UTF-8 bytes
are written as a percent sign and two hexadecimal digits. A percent sign stands for itself, so what
is encoded already stays as it is.
-/

namespace ShopClient.Url

/-- The upper-case hexadecimal digit of value `n`. -/
def upperHex (n : Nat) : Char := (Nat.digitChar n).toUpper

/-- A byte as a percent sign and two hexadecimal digits. -/
def percentByte (b : UInt8) : List Char :=
  ['%', upperHex (b.toNat / 16), upperHex (b.toNat % 16)]

/-! ### Parts of a URL -/

/-- The characters that stand for themselves in no part: controls and what is not ASCII. -/
def isControl (c : Char) : Bool := c.toNat < 0x20 || 0x7F ≤ c.toNat

/-- The characters to encode in a fragment. -/
def inFragmentSet (c : Char) : Bool := isControl c || " \"<>`".toList.contains c

/-- The characters to encode in a query. -/
def inQuerySet (c : Char) : Bool := isControl c || " \"#<>".toList.contains c

/-- The characters to encode in the query of a special URL. -/
def inSpecialQuerySet (c : Char) : Bool := inQuerySet c || c == '\''

/-- The characters to encode in a path. -/
def inPathSet (c : Char) : Bool := inFragmentSet c || "#?\x7b\x7d".toList.contains c

/-- The characters to encode in a user name or a password. -/
def inUserInfoSet (c : Char) : Bool := inPathSet c || "/:;=@[\\]^|".toList.contains c

/-- The characters `cs`, with those in `set` encoded. -/
def percentEncode (set : Char → Bool) (cs : List Char) : String :=
  String.ofList (cs.flatMap fun c =>
    if set c then (Text.Utf8.encodeChar c).flatMap percentByte else [c])

/-! ### Reading -/

/-- The value of a byte that is a hexadecimal digit. -/
def hexDigit? (b : UInt8) : Option Nat := Text.hexValue? (Char.ofNat b.toNat)

/-- The bytes that encoded bytes stand for. A percent sign without two digits is one itself. -/
def percentDecode : Text.Bytes → Text.Bytes
  | [] => []
  | [b] => [b]
  | [b, c] => [b, c]
  | b :: h :: l :: rest =>
    match b == 0x25, hexDigit? h, hexDigit? l with
    | true, some h, some l => .ofNat (h * 16 + l) :: percentDecode rest
    | _, _, _ => b :: percentDecode (h :: l :: rest)

/-- The text that an encoded text stands for, if its bytes are UTF-8. -/
def percentDecode? (s : String) : Option String :=
  Text.Utf8.decode? (percentDecode (Text.Utf8.encode s))

end ShopClient.Url
