import ShopClient.Url.Basic

/-!
# Reading URLs

Reading a text as a URL that stands for itself. Blanks and controls around the text are left out, and
so are tabs and line breaks in it.

The special schemes are those of the web and `file`. Their URLs have a host (that of `file` may be
empty), their paths have at least one segment, and a backslash reads as a slash.

* `Url.parse`: the URL that a text stands for.
-/

namespace ShopClient.Url

/-- The special schemes that need a host, with their usual ports. -/
def usualPorts : List (String × Nat) :=
  [("http", 80), ("https", 443), ("ws", 80), ("wss", 443), ("ftp", 21)]

/-- How the text after the scheme is read. -/
inductive Kind
  | file
  /-- Another special scheme, which has a usual port. -/
  | special (usualPort : Nat)
  | plain
  deriving DecidableEq

/-- The kind of a scheme. -/
def Kind.ofScheme (scheme : String) : Kind :=
  if scheme = "file" then .file
  else match usualPorts.lookup scheme with
    | some p => .special p
    | none => .plain

/-- Whether URLs of this kind are special. -/
def Kind.isSpecial : Kind → Bool
  | .plain => false
  | _ => true

/-- Whether `c` is a slash. -/
def Kind.isSlash (k : Kind) (c : Char) : Bool := c == '/' || (c == '\\' && k.isSpecial)

/-- The characters of a text that count. -/
def significant (text : String) : List Char :=
  let outer (c : Char) : Bool := c.toNat ≤ 0x20
  let cs := (text.toList.dropWhile outer).reverse.dropWhile outer |>.reverse
  cs.filter fun c => c != '\t' && c != '\n' && c != '\r'

/-- Whether `c` may stand in a scheme after its first letter. -/
def isSchemeChar (c : Char) : Bool := c.isAlphanum || c == '+' || c == '-' || c == '.'

/-- The scheme and what comes after its colon. -/
def scheme? (cs : List Char) : Option (String × List Char) :=
  match cs.head?, cs.dropWhile isSchemeChar with
  | some c, ':' :: rest =>
    if c.isAlpha then some (String.ofList ((cs.takeWhile isSchemeChar).map Char.toLower), rest)
    else none
  | _, _ => none

/-! ### Authorities -/

/-- The user name and the password before the last `@` of an authority, and what comes after it. -/
def userInfo (cs : List Char) : Option (List Char) × List Char :=
  if cs.contains '@' then
    (some (cs.reverse.dropWhile (· != '@')).tail.reverse,
      (cs.reverse.takeWhile (· != '@')).reverse)
  else (none, cs)

/-- The characters up to the first colon that is not in brackets. -/
def hostLength : (inBrackets : Bool) → List Char → Nat
  | _, [] => 0
  | inBrackets, c :: cs =>
    if c == ':' && !inBrackets then 0
    else if c == '[' then hostLength true cs + 1
    else if c == ']' then hostLength false cs + 1
    else hostLength inBrackets cs + 1

/-- A port after its colon; the usual one is left out. -/
def readPort (k : Kind) (cs : List Char) : Except Fault (Option Nat) :=
  if !cs.all Char.isDigit then .error .port
  else
    let n := Text.numberIn 10 cs
    if 65535 < n then .error .port
    else if cs.isEmpty || k = .special n then .ok none else .ok (some n)

/-- An authority; `last` says whether nothing comes after it. -/
def readAuthority (k : Kind) (last : Bool) (cs : List Char) : Except Fault Authority := do
  let (info, rest) := userInfo cs
  let info := info.getD []
  let user := percentEncode inUserInfoSet (info.takeWhile (· != ':'))
  let password := percentEncode inUserInfoSet (info.dropWhile (· != ':')).tail
  let length := hostLength false rest
  let hostChars := rest.take length
  if hostChars.isEmpty &&
      (k.isSpecial || length < rest.length || user != "" || password != "" ||
        (cs.head? == some '@' && rest.isEmpty && !last)) then
    throw .emptyHost
  let host ← if k.isSpecial then Host.ofChars? hostChars else Host.ofPlainChars? hostChars
  let port ← match rest.drop length with
    | _ :: digits => readPort k digits
    | [] => pure none
  return { user, password := if password = "" then none else some password, host, port }

/-! ### Paths -/

/-- The ways to write a segment that stays where it is. -/
def isSingleDot (s : List Char) : Bool :=
  s.map Char.toLower == ".".toList || s.map Char.toLower == "%2e".toList

/-- The ways to write a segment that goes one segment back. -/
def isDoubleDot (s : List Char) : Bool :=
  ["..", ".%2e", "%2e.", "%2e%2e"].any (·.toList == s.map Char.toLower)

/-- Whether a segment is the letter of a drive. -/
def isDrive (s : List Char) : Bool :=
  match s with
  | [c, d] => c.isAlpha && (d == ':' || d == '|')
  | _ => false

/-- The segments without the last one; the drive of a `file` URL stays. -/
def shorten (k : Kind) (segments : List String) : List String :=
  match k, segments with
  | .file, [s] => if isDrive s.toList then [s] else []
  | _, _ => segments.dropLast

/-- The segments of a path after the segments `before`. -/
def walk (k : Kind) (before : List String) : List (List Char) → List String
  | [] => before
  | s :: rest =>
    let ending := if rest.isEmpty then [""] else []
    if isDoubleDot s then walk k (shorten k before ++ ending) rest
    else if isSingleDot s then walk k (before ++ ending) rest
    else if k = .file && before.isEmpty && isDrive s then
      walk k [String.ofList [s.headD ' ', ':']] rest
    else walk k (before ++ [percentEncode inPathSet s]) rest

/-- The characters between slashes. -/
def splitSlashes (k : Kind) : List Char → List (List Char)
  | [] => [[]]
  | c :: cs =>
    match k.isSlash c, splitSlashes k cs with
    | true, parts => [] :: parts
    | false, p :: parts => (c :: p) :: parts
    | false, [] => [[c]]

/-- The segments of a path. The path of a `file` URL has no empty segments in front. -/
def segments (k : Kind) (cs : List Char) : List String :=
  let cs := match cs with
    | c :: r => if k.isSlash c then r else cs
    | [] => []
  let found := walk k [] (splitSlashes k cs)
  if k = .file then
    let rest := found.dropWhile (· = "")
    if rest.isEmpty then [""] else rest
  else found

/-- The path of a URL with an authority. Special URLs have at least one segment. -/
def pathAfterAuthority (k : Kind) (cs : List Char) : Path :=
  if cs.isEmpty && !k.isSpecial then .rooted [] else .rooted (segments k cs)

/-! ### URLs -/

/-- A URL of which the part before the query was read, with what comes after that part. -/
def withTail (k : Kind) (scheme : String) (authority : Option Authority) (path : Path)
    (cs : List Char) : Url :=
  let querySet := if k.isSpecial then inSpecialQuerySet else inQuerySet
  let query := match cs.takeWhile (· != '#') with
    | _ :: q => some (percentEncode querySet q)
    | [] => none
  let fragment := match cs.dropWhile (· != '#') with
    | _ :: f => some (percentEncode inFragmentSet f)
    | [] => none
  { scheme, authority, path, query, fragment }

/-- Whether `c` is in the part of a URL before its query. -/
def beforeTail (c : Char) : Bool := c != '?' && c != '#'

/-- A URL with an authority, from its first character on. -/
def withAuthority (k : Kind) (scheme : String) (cs : List Char) : Except Fault Url := do
  let isInside (c : Char) : Bool := beforeTail c && !k.isSlash c
  let rest := cs.dropWhile isInside
  let authority ← readAuthority k rest.isEmpty (cs.takeWhile isInside)
  return withTail k scheme authority (pathAfterAuthority k (rest.takeWhile beforeTail))
    (rest.dropWhile beforeTail)

/-- A `file` URL, from the first character after its colon on. A host that is the letter of a drive
    belongs to the path, and the local host is as good as none. -/
def fileUrl (cs : List Char) : Except Fault Url := do
  let finish (host : Host) (rest : List Char) : Url :=
    withTail .file "file" (some { host }) (.rooted (segments .file (rest.takeWhile beforeTail)))
      (rest.dropWhile beforeTail)
  let isSlash := Kind.file.isSlash
  match cs with
  | a :: b :: r =>
    if isSlash a && isSlash b then
      let isInside (c : Char) : Bool := beforeTail c && !isSlash c
      let hostChars := r.takeWhile isInside
      if hostChars.isEmpty || isDrive hostChars then return finish (.domain "") r
      let host ← Host.ofChars? hostChars
      return finish (if host = .domain "localhost" then .domain "" else host) (r.dropWhile isInside)
    else return finish (.domain "") cs
  | _ => return finish (.domain "") cs

/-- The URL that a text stands for. -/
def parse (text : String) : Except Fault Url :=
  match scheme? (significant text) with
  | none => .error .noScheme
  | some (scheme, rest) =>
    match Kind.ofScheme scheme, rest with
    | .file, _ => fileUrl rest
    | k@(.special _), _ => withAuthority k scheme (rest.dropWhile k.isSlash)
    | .plain, '/' :: '/' :: cs => withAuthority .plain scheme cs
    | .plain, _ =>
      let front := rest.takeWhile beforeTail
      let path := if front.head? == some '/' then .rooted (segments .plain front)
        else Path.bare (percentEncode isControl front)
      .ok (withTail .plain scheme none path (rest.dropWhile beforeTail))

end ShopClient.Url
