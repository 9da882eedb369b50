import ShopClient.Url.Percent

/-!
# Form encoding

Pairs of texts as the query of a URL: letters, digits and four marks stand for themselves, the space
is a plus sign, and every other byte of the UTF-8 encoding is written as a percent sign and two
upper-case hexadecimal digits.

* `Form.encodePairs`: the query of a list of pairs;
* `Form.decodePairs`: the pairs of a query. No query is refused: what is no UTF-8 is replaced.
-/

namespace ShopClient.Url.Form

/-- Whether the byte stands for itself. -/
def isPlain (b : UInt8) : Bool :=
  let c := Char.ofNat b.toNat
  c.isAlphanum || c == '*' || c == '-' || c == '.' || c == '_'

/-- One byte of an encoded text. -/
def encodeByte (b : UInt8) : List Char :=
  if isPlain b then [Char.ofNat b.toNat] else if b == 0x20 then ['+'] else percentByte b

/-- An encoded text. -/
def encode (s : String) : List Char := (Text.Utf8.encode s).flatMap encodeByte

/-- An encoded pair. -/
def encodePair (p : String × String) : List Char := encode p.1 ++ '=' :: encode p.2

/-- Encoded pairs, one after the other. -/
def encodePairs (ps : List (String × String)) : String :=
  String.ofList (List.intercalate ['&'] (ps.map encodePair))

/-- The text that an encoded text stands for. -/
def decode (cs : List Char) : String :=
  let spaced := cs.map fun c => if c == '+' then ' ' else c
  Text.Utf8.decodeLossy (percentDecode (Text.Utf8.encode (String.ofList spaced)))

/-- The pair that an encoded pair stands for. Without an equals sign it is a name alone. -/
def decodePair (cs : List Char) : String × String :=
  (decode (cs.takeWhile (· != '=')), decode ((cs.dropWhile (· != '=')).drop 1))

/-- The pairs that a query stands for. Nothing between two separators is no pair. -/
def decodePairs (query : String) : List (String × String) :=
  ((query.toList.splitOn '&').filter fun cs => !cs.isEmpty).map decodePair

end ShopClient.Url.Form
