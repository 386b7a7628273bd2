import Commissioning.Text.Decimal
import Commissioning.Url.Address

set_option autoImplicit false

/-! # URLs

A URL taken apart, with every part in its encoded form, and the text that puts it together. -/

namespace Commissioning

namespace Url

/-- The host of a URL. -/
inductive Host where
  | domain (name : String)
  | address4 (n : Nat)
  | address6 (groups : List Nat)
  deriving DecidableEq, Repr

/-- The host as it stands in the URL. -/
def Host.text : Host → String
  | domain name => name
  | address4 n => String.ofList (address4Text n)
  | address6 groups => String.ofList ('[' :: address6Text groups ++ [']'])

/-- The part of a URL behind the two slashes. -/
structure Authority where
  username : String := ""
  password : Option String := none
  host : Option Host := none
  /-- The port, unless it is the one of the scheme. -/
  port : Option Nat := none
  deriving DecidableEq, Repr

/-- The user name and the password as they stand before the host. -/
def Authority.userInfo (a : Authority) : String :=
  match a.password with
  | some password => a.username ++ ":" ++ password ++ "@"
  | none => if a.username.isEmpty then "" else a.username ++ "@"

/-- The host and the port. -/
def Authority.hostAndPort (a : Authority) : String :=
  (match a.host with | some host => host.text | none => "")
    ++ (match a.port with | some port => ":" ++ Text.ofNat port | none => "")

end Url

/-- A URL in its parts. -/
structure Url where
  scheme : String
  authority : Option Url.Authority
  path : String
  query : Option String
  fragment : Option String
  deriving DecidableEq, Repr

namespace Url

/-- The scheme and all that follows the path. -/
def ending (u : Url) : String :=
  (match u.query with | some q => "?" ++ q | none => "")
    ++ (match u.fragment with | some f => "#" ++ f | none => "")

/-- The URL with its authority written in a given way. Without an authority, a path that starts
with two slashes is kept apart from one by a dot. -/
def textWith (u : Url) (authority : Authority → String) : String :=
  u.scheme ++ ":"
    ++ (match u.authority with
        | some a => "//" ++ authority a
        | none => if u.path.startsWith "//" then "/." else "")
    ++ u.path ++ u.ending

/-- The text of a URL. -/
def text (u : Url) : String :=
  u.textWith fun a => a.userInfo ++ a.hostAndPort

/-- The text of a URL without user name and password. -/
def textWithoutUser (u : Url) : String :=
  u.textWith Authority.hostAndPort

/-- What a request for the URL names: its path and its query. -/
def target (u : Url) : String :=
  u.path ++ (match u.query with | some q => "?" ++ q | none => "")

/-- The host of a URL. -/
def host? (u : Url) : Option Host :=
  u.authority.bind (·.host)

/-- The port of a URL, unless it is the one of the scheme. -/
def port? (u : Url) : Option Nat :=
  u.authority.bind (·.port)

/-- The user name in a URL. -/
def username (u : Url) : String :=
  match u.authority with
  | some a => a.username
  | none => ""

/-- The password in a URL. -/
def password? (u : Url) : Option String :=
  u.authority.bind (·.password)

/-- Whether requests go over HTTP. -/
def isHttp (u : Url) : Bool :=
  u.scheme == "http" || u.scheme == "https"

/-! ## Schemes -/

/-- The port that a scheme uses by itself. -/
def defaultPort? (scheme : List Char) : Option Nat :=
  match String.ofList scheme with
  | "http" => some 80
  | "ws" => some 80
  | "https" => some 443
  | "wss" => some 443
  | "ftp" => some 21
  | _ => none

/-- The port that requests for a URL go to. -/
def portOrDefault? (u : Url) : Option Nat :=
  u.port? <|> defaultPort? u.scheme.toList

/-- How a URL is read, by its scheme. -/
inductive SchemeKind where
  | file
  /-- A scheme whose URLs always have a host. -/
  | hosted
  | other
  deriving DecidableEq, Repr

/-- The kind of a scheme. -/
def SchemeKind.ofScheme (scheme : List Char) : SchemeKind :=
  if scheme = ['f', 'i', 'l', 'e'] then .file
  else if (defaultPort? scheme).isSome then .hosted
  else .other

/-- Whether a backslash counts as a slash. -/
def SchemeKind.isSpecial : SchemeKind → Bool
  | file => true
  | hosted => true
  | other => false

end Url

end Commissioning
