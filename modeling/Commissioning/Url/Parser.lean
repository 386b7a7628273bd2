import Commissioning.Url.Host
import Commissioning.Url.Path

set_option autoImplicit false

/-! # Reading URLs

Absolute URLs by the rules that browsers follow: blanks and controls around the text are dropped,
tabs and line breaks are dropped everywhere, and what a part may not hold is encoded. -/

namespace Commissioning.Url

/-! ## Scheme -/

/-- Whether a character may stand in a scheme. -/
def isSchemeChar (c : Char) : Bool :=
  c.isAlphanum || c == '+' || c == '-' || c == '.'

/-- The scheme in lower case and the text behind its colon. -/
def readScheme (text : List Char) : Option (List Char × List Char) :=
  let scheme := text.takeWhile isSchemeChar
  match scheme, text.drop scheme.length with
  | first :: _, ':' :: rest =>
    if first.isAlpha then some (scheme.map Char.toLower, rest) else none
  | _, _ => none

/-! ## User, host and port -/

/-- Whether a character ends an authority. -/
def endsAuthority (kind : SchemeKind) (c : Char) : Bool :=
  c == '/' || c == '?' || c == '#' || (c == '\\' && kind.isSpecial)

/-- The user name and the password, encoded; a password is not kept when it is empty. -/
def readUserInfo (text : List Char) : String × Option String :=
  let name := text.takeWhile (· ≠ ':')
  let encode (cs : List Char) : String := String.ofList (percentEncode userInfoSet cs)
  match text.drop name.length with
  | _ :: password@(_ :: _) => (encode name, some (encode password))
  | _ => (encode name, none)

/-- The authority with its user name and password, up to the last at sign in it, and the text
behind that sign. -/
def readUser (kind : SchemeKind) (text : List Char) : Except Fault (Authority × List Char) :=
  let authority := text.takeWhile fun c => !endsAuthority kind c
  if !authority.contains '@' then .ok ({}, text)
  else
    let behind := (authority.reverse.takeWhile (· ≠ '@')).length
    let user := authority.take (authority.length - behind - 1)
    let rest := text.drop (authority.length - behind)
    if user.isEmpty then
      match rest with
      | c :: _ => if endsAuthority kind c then .error .emptyHost else .ok ({}, rest)
      | [] => .ok ({}, rest)
    else
      let (username, password) := readUserInfo user
      .ok ({ username := username, password := password }, rest)

/-- The characters of a host; a colon ends it outside brackets. -/
def hostChars (kind : SchemeKind) (inBrackets : Bool) : List Char → List Char
  | [] => []
  | c :: rest =>
    if c = ':' ∧ !inBrackets then []
    else if endsAuthority kind c then []
    else
      c :: hostChars kind (if c = '[' then true else if c = ']' then false else inBrackets) rest

/-- The port, unless it is the one of the scheme, and the text behind it. -/
def readPort (scheme : List Char) : Nat → Bool → List Char → Except Fault (Option Nat × List Char)
  | port, any, text =>
    let done : Option Nat := if !any || defaultPort? scheme = some port then none else some port
    match text with
    | [] => .ok (done, [])
    | c :: rest =>
      if Text.isDecimal c then
        let port := port * 10 + (c.toNat - 48)
        if 65535 < port then .error .invalidPort else readPort scheme port true rest
      else if ['/', '\\', '?', '#'].contains c then .ok (done, text)
      else .error .invalidPort

/-- The host and the port. -/
def readHostAndPort (kind : SchemeKind) (scheme text : List Char) :
    Except Fault (Option Host × Option Nat × List Char) := do
  let chars := hostChars kind false text
  let rest := text.drop chars.length
  if kind == .hosted && chars.isEmpty then .error .emptyHost
  let host ← if kind.isSpecial then (specialHost chars).map some else opaqueHost chars
  match rest with
  | ':' :: rest =>
    if host.isNone then .error .emptyHost
    let (port, rest) ← readPort scheme 0 false rest
    .ok (host, port, rest)
  | _ => .ok (host, none, rest)

/-! ## Query and fragment -/

/-- The query and the fragment. -/
def readEnding (kind : SchemeKind) (text : List Char) : Option String × Option String :=
  let fragment : List Char → Option String := fun rest =>
    match rest with
    | '#' :: rest => some (String.ofList (percentEncode fragmentSet rest))
    | _ => none
  match text with
  | '?' :: rest =>
    let query := rest.takeWhile (· ≠ '#')
    let set := if kind.isSpecial then specialQuerySet else querySet
    (some (String.ofList (percentEncode set query)), fragment (rest.drop query.length))
  | _ => (none, fragment text)

/-- The URL with the parts read so far and the query and fragment in the rest of the text. -/
def assemble (kind : SchemeKind) (scheme : List Char) (authority : Option Authority)
    (path rest : List Char) : Url :=
  let (query, fragment) := readEnding kind rest
  { scheme := String.ofList scheme, authority := authority, path := String.ofList path,
    query := query, fragment := fragment }

/-! ## Whole URLs -/

/-- The URL from behind the two slashes. -/
def readAuthority (kind : SchemeKind) (scheme text : List Char) : Except Fault Url := do
  let (user, text) ← readUser kind text
  let (host, port, rest) ← readHostAndPort kind scheme text
  if host.isNone && (!user.username.isEmpty || user.password.isSome) then .error .emptyHost
  let (path, _, rest) := readPathStart kind true rest
  .ok (assemble kind scheme (some { user with host := host, port := port }) path rest)

/-- The host of a file URL; `localhost` is none. -/
def fileHost (chars : List Char) : Except Fault (Option Host) :=
  if chars.isEmpty then .ok none
  else do
    let host ← specialHost chars
    .ok (if host = .domain "localhost" then none else some host)

/-- A file URL from behind its scheme. -/
def readFile (text : List Char) : Except Fault Url :=
  let scheme : List Char := ['f', 'i', 'l', 'e']
  let withPath (host : Option Host) (path rest : List Char) : Url :=
    assemble .file scheme (some { host := host }) path rest
  let isSlash : Char → Bool := fun c => c == '/' || c == '\\'
  match text with
  | a :: b :: rest =>
    if isSlash a && isSlash b then do
      let chars := rest.takeWhile fun c => !endsAuthority .file c
      let isDrive := isLooseDrive chars
      let host ← if isDrive then .ok none else fileHost chars
      let rest := if isDrive then rest else rest.drop chars.length
      let (path, keepsHost, rest) := readPathStart .file host.isSome rest
      .ok (withPath (if keepsHost then host else none) path rest)
    else
      let (path, _, rest) := readPath .file false (if isSlash a then [] else ['/']) text
      .ok (withPath none path rest)
  | _ =>
    let (path, _, rest) := readPath .file false (if text.any isSlash then [] else ['/']) text
    .ok (withPath none path rest)

/-- The URL of a scheme that says nothing about hosts, from behind the scheme. -/
def readOther (scheme text : List Char) : Except Fault Url :=
  match text with
  | '/' :: '/' :: rest => readAuthority .other scheme rest
  | '/' :: rest =>
    let (path, _, rest) := readPath .other false ['/'] rest
    .ok (assemble .other scheme none path rest)
  | _ =>
    let path := text.takeWhile fun c => c != '?' && c != '#'
    .ok (assemble .other scheme none (percentEncode isControl path) (text.drop path.length))

/-- The characters of a text that count: no blanks and controls at the ends, and neither tabs nor
line breaks anywhere. -/
def significant (text : String) : List Char :=
  let isEdge (c : Char) : Bool := c.toNat ≤ 0x20
  let inner := (text.toList.dropWhile isEdge).reverse.dropWhile isEdge
  inner.reverse.filter fun c => c != '\t' && c != '\n' && c != '\r'

/-- The URL that a text writes. -/
def parse (text : String) : Except Fault Url :=
  match readScheme (significant text) with
  | none => .error .relative
  | some (scheme, rest) =>
    match SchemeKind.ofScheme scheme with
    | .file => readFile rest
    | .hosted =>
      readAuthority .hosted scheme (rest.dropWhile fun c => c == '/' || c == '\\')
    | .other => readOther scheme rest

end Commissioning.Url
