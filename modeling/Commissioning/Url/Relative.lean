import Commissioning.Url.Parser

set_option autoImplicit false

/-! # Relative references

What a text means where it is found in the answer for a URL over HTTP: a URL of its own, or what is
to be changed in that one. -/

namespace Commissioning.Url

/-- Whether a character separates segments in a URL over HTTP. -/
def isSeparator (c : Char) : Bool :=
  c == '/' || c == '\\'

/-- A URL with another path behind the part of it that stays, and what follows the path. -/
def withPath (base : Url) (path text : List Char) : Url :=
  let (path, _, rest) := readPath .hosted true path text
  assemble .hosted base.scheme.toList base.authority path rest

/-- The URL that a text without a scheme means behind a URL over HTTP. -/
def relative (base : Url) (text : List Char) : Except Fault Url :=
  match text with
  | [] => .ok { base with fragment := none }
  | '#' :: _ => .ok { base with fragment := (readEnding .hosted text).2 }
  | '?' :: _ =>
    .ok (assemble .hosted base.scheme.toList base.authority base.path.toList text)
  | c :: rest =>
    if isSeparator c then
      match c, rest with
      | '/', '/' :: rest => readAuthority .hosted base.scheme.toList rest
      | _, c :: _ =>
        if isSeparator c then
          readAuthority .hosted base.scheme.toList (rest.dropWhile isSeparator)
        else .ok (withPath base ['/'] rest)
      | _, [] => .ok (withPath base ['/'] [])
    else .ok (withPath base (upToSlash base.path.toList) text)

/-- The URL that a text means behind a URL over HTTP. The scheme of that URL with fewer than two
slashes behind it counts as none. -/
def resolve (base : Url) (text : String) : Except Fault Url :=
  match readScheme (significant text) with
  | none => relative base (significant text)
  | some (scheme, rest) =>
    if scheme = base.scheme.toList ∧ (rest.takeWhile isSeparator).length < 2 then
      relative base rest
    else parse text

end Commissioning.Url
