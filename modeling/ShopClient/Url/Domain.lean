import ShopClient.Text.Hidden
import ShopClient.Url.Punycode

/-!
# Domain names

A domain name in ASCII: letters in lower case, the spellings of a full stop as one, characters that
do not show left out, and labels that hold anything but ASCII in Punycode, marked by `xn--`.

Most letters of the Latin, Greek, Cyrillic and Armenian scripts are brought to lower case; wide forms of
ASCII characters become ASCII. Marks stay as they are written.

Unicode's mapping of domain names does more. It knows the capitals of all scripts, puts a letter and the
marks after it together, replaces compatibility characters, such as ligatures and circled letters, and
refuses labels in which characters that are written from right to left stand where they must not. A name
with such characters may come out in another form here, or be accepted where the mapping refuses it. On
names in ASCII that are not in Punycode, and on wide forms of these, the two agree.
-/

namespace ShopClient.Url.Domain

/-- The ASCII characters that no domain name holds. -/
def isForbidden (c : Char) : Bool :=
  c.toNat ≤ 0x20 || c.toNat == 0x7F || "%#/:<>?@[\\]^|".toList.contains c

/-- Whether `n` lies between `lo` and `hi`. -/
def between (lo hi n : Nat) : Bool := lo ≤ n && n ≤ hi

/-- The code point of the lower-case letter for the letter at `n`, or `n` itself. -/
def lowerCode (n : Nat) : Nat :=
  if between 0x41 0x5A n then n + 32
  else if between 0xC0 0xDE n && n != 0xD7 then n + 32
  else if n == 0x178 then 0xFF
  else if between 0x100 0x12F n || between 0x132 0x137 n || between 0x14A 0x177 n ||
      between 0x1E00 0x1E95 n || between 0x1EA0 0x1EFF n || between 0x460 0x481 n ||
      between 0x48A 0x4BF n || between 0x4D0 0x52F n then n + (1 - n % 2)
  else if between 0x139 0x148 n || between 0x179 0x17E n || between 0x4C1 0x4CE n then n + n % 2
  else if n == 0x386 then 0x3AC
  else if between 0x388 0x38A n then n + 37
  else if n == 0x38C then 0x3CC
  else if n == 0x38E || n == 0x38F then n + 63
  else if between 0x391 0x3AB n then n + 32
  else if between 0x400 0x40F n then n + 80
  else if between 0x410 0x42F n then n + 32
  else if n == 0x4C0 then 0x4CF
  else if between 0x531 0x556 n then n + 48
  else n

/-- What stands for the character `c` in a domain name. -/
def fold (c : Char) : List Char :=
  let n := c.toNat
  if n == 0xAD || n == 0x200B || n == 0x2060 || n == 0xFEFF || between 0xFE00 0xFE0F n then []
  else if n == 0x3002 || n == 0xFF0E || n == 0xFF61 then ['.']
  else if between 0xFF01 0xFF5E n then [.ofNat (lowerCode (n - 0xFEE0))]
  else if n == 0x1E9E then ['s', 's']
  else [.ofNat (lowerCode n)]

/-- Whether a label holds ASCII characters only. -/
def isAscii (label : List Char) : Bool := label.all (·.toNat < 0x80)

/-- What marks a label in Punycode. -/
def mark : List Char := "xn--".toList

/-- Whether a folded label that is not ASCII may stand in a domain name: it does not begin with a
    mark or another character that does not show. -/
def isLabel (label : List Char) : Bool :=
  match label with
  | c :: _ => !Text.isHidden c && label.flatMap fold == label
  | [] => false

/-- A folded label in ASCII. -/
def labelToAscii? (label : List Char) : Option (List Char) :=
  if isAscii label then
    if mark.isPrefixOf label then
      match Punycode.decode? (label.drop mark.length) with
      | some s => if !isAscii s && isLabel s then some label else none
      | none => none
    else some label
  else if isLabel label then some (mark ++ Punycode.encode label) else none

/-- A domain name in ASCII. For names that hold a decomposed letter, a compatibility character that is
    no wide form of ASCII, a capital that is not folded here, or letters that are written from right to
    left, this is not always what Unicode's mapping gives. -/
def toAscii? (name : String) : Option String :=
  let cs := name.toList.flatMap fold
  if cs.any isForbidden then none
  else ((cs.splitOn '.').mapM labelToAscii?).map fun labels =>
    String.ofList (List.intercalate ['.'] labels)

end ShopClient.Url.Domain
