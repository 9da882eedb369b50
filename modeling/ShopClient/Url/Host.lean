import ShopClient.Url.Domain
import ShopClient.Url.Percent

/-!
# Hosts

The host of a URL: a domain name, or an address of 32 or of 128 bits. The last label of a domain
name tells the two kinds apart that have no brackets: if it is a number, the host has to be an
address, with one to four parts in decimal, octal or hexadecimal.

An address of 128 bits is written in eight groups, of which the first of the longest runs of at
least two zeros is left out.
-/

namespace ShopClient.Url

/-- Why a text is no URL. -/
inductive Fault
  | emptyHost
  | domainName
  | port
  | ipv4
  | ipv6
  | domainCharacter
  | noScheme
  deriving DecidableEq

/-- The text of a fault. -/
def Fault.message : Fault → String
  | emptyHost => "empty host"
  | domainName => "invalid international domain name"
  | port => "invalid port number"
  | ipv4 => "invalid IPv4 address"
  | ipv6 => "invalid IPv6 address"
  | domainCharacter => "invalid domain character"
  | noScheme => "relative URL without a base"

/-- The host of a URL. A host that is not given is an empty name. -/
inductive Host
  | domain (name : String)
  | ipv4 (address : Nat)
  | ipv6 (groups : List Nat)
  deriving DecidableEq

namespace Host

/-! ### Addresses of 32 bits -/

/-- The number that digits of the given base stand for. -/
def number? (base : Nat) (cs : List Char) : Option Nat :=
  cs.foldlM (fun n c => do
    let d ← Text.hexValue? c
    if d < base then some (n * base + d) else none) 0

/-- The number in one part of an address: hexadecimal after `0x`, octal after a zero. -/
def part? : List Char → Option Nat
  | [] => none
  | '0' :: 'x' :: cs => number? 16 cs
  | '0' :: 'X' :: cs => number? 16 cs
  | '0' :: c :: cs => number? 8 (c :: cs)
  | cs => number? 10 cs

/-- The parts of a name, without the empty one after a full stop at the end. -/
def parts (name : List Char) : List (List Char) :=
  let ps := name.splitOn '.'
  if ps.getLast? == some [] then ps.dropLast else ps

/-- Whether the last part of a name is a number, if only by its digits. -/
def endsInNumber (name : List Char) : Bool :=
  match (parts name).getLast? with
  | none => false
  | some last => (!last.isEmpty && last.all Char.isDigit) || (part? last).isSome

/-- The address of which the numbers are the parts. All but the last are one byte. -/
def address? (numbers : List Nat) : Option Nat :=
  match numbers.reverse with
  | [] => none
  | last :: front =>
    if 3 < front.length || front.any (255 < ·) || Nat.pow 256 (4 - front.length) ≤ last then none
    else some (front.reverse.foldr (fun n acc => n * 0x1000000 + acc / 256) 0 + last)

/-- The address of a name whose last part is a number. -/
def ipv4? (name : List Char) : Option Nat :=
  ((parts name).mapM part?).bind address?

/-! ### Addresses of 128 bits -/

/-- A group of one to four hexadecimal digits. -/
def group? (cs : List Char) : Option Nat :=
  if cs.isEmpty || 4 < cs.length then none else number? 16 cs

/-- A byte in decimal, without leading zeros. -/
def byte? (cs : List Char) : Option Nat :=
  if cs.isEmpty || (1 < cs.length && cs.head? == some '0') then none
  else (number? 10 cs).filter (· < 256)

/-- Four bytes in decimal as two groups. -/
def dotted? (cs : List Char) : Option (List Nat) := do
  match ← (cs.splitOn '.').mapM byte? with
  | [a, b, c, d] => some [a * 256 + b, c * 256 + d]
  | _ => none

/-- The groups between colons, of which the last may be four bytes in decimal. -/
def groups? (cs : List Char) : Option (List Nat) :=
  if cs.isEmpty then some []
  else
    let ps := cs.splitOn ':'
    match ps.getLast? with
    | none => none
    | some last => do
      let front ← ps.dropLast.mapM group?
      let back ← if last.contains '.' then dotted? last else (group? last).map ([·])
      some (front ++ back)

/-- The characters before and after the first two colons in a row. -/
def splitGap : List Char → Option (List Char × List Char)
  | ':' :: ':' :: r => some ([], r)
  | c :: r => (splitGap r).map fun x => (c :: x.1, x.2)
  | [] => none

/-- The eight groups of an address. -/
def ipv6? (cs : List Char) : Option (List Nat) :=
  match splitGap cs with
  | none => (groups? cs).filter (·.length == 8)
  | some (l, r) => do
    if l.contains '.' then none
    let front ← groups? l
    let back ← groups? r
    let given := front.length + back.length
    if given < 8 then some (front ++ List.replicate (8 - given) 0 ++ back) else none

/-! ### Hosts -/

/-- The host of a special URL. -/
def ofChars? (cs : List Char) : Except Fault Host :=
  if cs.head? == some '[' then
    if cs.getLast? == some ']' then
      match ipv6? (cs.drop 1).dropLast with
      | some groups => .ok (.ipv6 groups)
      | none => .error .ipv6
    else .error .ipv6
  else
    match (percentDecode? (String.ofList cs)).bind Domain.toAscii? with
    | none => .error .domainName
    | some name =>
      if name = "" then .error .emptyHost
      else if endsInNumber name.toList then
        match ipv4? name.toList with
        | some address => .ok (.ipv4 address)
        | none => .error .ipv4
      else .ok (.domain name)

/-- The characters that the host of a URL that is not special cannot have. -/
def isForbidden (c : Char) : Bool :=
  "\x00\t\n\r #/:<>?@[\\]^|".toList.contains c

/-- The host of a URL that is not special. -/
def ofPlainChars? (cs : List Char) : Except Fault Host :=
  if cs.head? == some '[' then ofChars? cs
  else if cs.any isForbidden then .error .domainCharacter
  else .ok (.domain (percentEncode isControl cs))

/-- The number of zeros at the front of each end of a list. -/
def zeroRuns : List Nat → List Nat
  | [] => []
  | g :: gs =>
    let runs := zeroRuns gs
    (if g = 0 then runs.headD 0 + 1 else 0) :: runs

/-- Groups with colons between. -/
def groupsText (gs : List Nat) : List Char :=
  List.intercalate [':'] (gs.map (Nat.toDigits 16))

/-- The text of an address of 128 bits. -/
def ipv6Text (gs : List Nat) : List Char :=
  let runs := zeroRuns gs
  let longest := runs.foldl max 0
  if longest < 2 then groupsText gs
  else
    let start := runs.idxOf longest
    groupsText (gs.take start) ++ ':' :: ':' :: groupsText (gs.drop (start + longest))

/-- The text of a host. -/
def print : Host → String
  | domain name => name
  | ipv4 a =>
    String.ofList (List.intercalate ['.'] ([a / 0x1000000, a / 0x10000 % 256, a / 256 % 256, a % 256].map
      (Nat.toDigits 10)))
  | ipv6 gs => String.ofList ('[' :: ipv6Text gs ++ [']'])

/-- Whether a host is given. -/
def isGiven (h : Host) : Bool := h != domain ""

end Host

end ShopClient.Url
