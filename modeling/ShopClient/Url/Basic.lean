import ShopClient.Url.Form
import ShopClient.Url.Host

/-!
# URLs

A URL in its parts, each part encoded as it is written. A URL with an authority, or with a path that
starts with a slash, has a path of segments; any other path is one text.

* `Url.print`: the text of a URL;
* `Url.appendQuery`: the URL with more pairs at the end of its query;
* `Url.takeUserInfo`: the URL without its user name and password, and these.
-/

namespace ShopClient

open Url (Host)

/-- Where a URL points to on the network. -/
structure Authority where
  user : String := ""
  password : Option String := none
  host : Host
  port : Option Nat := none
  deriving DecidableEq

/-- The path of a URL. -/
inductive Url.Path
  /-- A text that is no path of segments. -/
  | bare (text : String)
  /-- Segments, each after a slash. -/
  | rooted (segments : List String)
  deriving DecidableEq

/-- A URL. -/
structure Url where
  scheme : String
  authority : Option Authority
  path : Url.Path
  query : Option String := none
  fragment : Option String := none
  deriving DecidableEq

namespace Url

/-- The text of the user name and the password, with the sign after them. -/
def userInfoText (a : Authority) : String :=
  if a.user = "" ∧ a.password = none then ""
  else a.user ++ (match a.password with | some p => ":" ++ p | none => "") ++ "@"

/-- The text of an authority. -/
def authorityText (a : Authority) : String :=
  userInfoText a ++ a.host.print ++
    (match a.port with | some p => ":" ++ toString p | none => "")

/-- The text of a path. -/
def Path.print : Path → String
  | bare text => text
  | rooted segments => String.join (segments.map ("/" ++ ·))

/-- What keeps a path that starts with two slashes apart from an authority. -/
def separator (u : Url) : String :=
  if u.authority.isNone && "//".toList.isPrefixOf u.path.print.toList then "/." else ""

/-- The text of a URL. -/
def print (u : Url) : String :=
  u.scheme ++ ":" ++ (match u.authority with | some a => "//" ++ authorityText a | none => "") ++
    u.separator ++ u.path.print ++ (match u.query with | some q => "?" ++ q | none => "") ++
    (match u.fragment with | some f => "#" ++ f | none => "")

/-- The URL with the pairs `ps` at the end of its query. -/
def appendQuery (ps : List (String × String)) (u : Url) : Url :=
  if ps.isEmpty then u
  else
    let added := Form.encodePairs ps
    match u.query with
    | none => { u with query := some added }
    | some q => { u with query := some (if q = "" then added else q ++ "&" ++ added) }

/-- The host of a URL, if it has one. -/
def host? (u : Url) : Option Host :=
  (u.authority.map Authority.host).filter Host.isGiven

/-- The URL without its user name and password, and these in plain text. A user name of which the
    bytes are not UTF-8 stays in the URL. -/
def takeUserInfo (u : Url) : Url × Option (String × Option String) :=
  match u.authority with
  | none => (u, none)
  | some a =>
    match percentDecode? a.user with
    | none => (u, none)
    | some user =>
      let password := a.password.bind percentDecode?
      if user = "" ∧ password = none then (u, none)
      else ({ u with authority := some { a with user := "", password := none } },
        some (user, password))

end Url

end ShopClient
