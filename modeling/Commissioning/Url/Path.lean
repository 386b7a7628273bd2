import Commissioning.Url.Basic
import Commissioning.Url.Percent

set_option autoImplicit false

/-! # Paths in URLs

The path of a hierarchical URL, read segment by segment: a segment of one dot is left out and one
of two dots takes the segment before it away. In a file URL a drive letter is never taken away. -/

namespace Commissioning.Url

/-- Whether a segment stands for the directory itself. -/
def isSingleDot (segment : List Char) : Bool :=
  ["." , "%2e", "%2E"].contains (String.ofList segment)

/-- Whether a segment stands for the directory above. -/
def isDoubleDot (segment : List Char) : Bool :=
  ["..", "%2e%2e", "%2e%2E", "%2E%2e", "%2E%2E", "%2e.", "%2E.", ".%2e", ".%2E"].contains
    (String.ofList segment)

/-- Whether a text is a letter and a colon. -/
def isDrive : List Char → Bool
  | [a, ':'] => a.isAlpha
  | _ => false

/-- Whether a text is a letter and a colon or a bar. -/
def isLooseDrive : List Char → Bool
  | [a, b] => a.isAlpha && (b == ':' || b == '|')
  | _ => false

/-- Whether a text that starts with a slash has a drive letter behind it as its first segment. -/
def startsWithDrive : List Char → Bool
  | '/' :: a :: b :: rest =>
    a.isAlpha && (b == ':' || b == '|')
      && (match rest with
          | [] => true
          | c :: _ => ['/', '\\', '?', '#'].contains c)
  | _ => false

/-- The path up to and with its last slash. -/
def upToSlash (path : List Char) : List Char :=
  (path.reverse.dropWhile (· ≠ '/')).reverse

/-- The path behind its last slash. -/
def lastSegment (path : List Char) : List Char :=
  (path.reverse.takeWhile (· ≠ '/')).reverse

/-- The path without its last segment. -/
def shorten (isFile : Bool) (path : List Char) : List Char :=
  if isFile && isDrive (lastSegment path) then path else upToSlash path

/-- The path in front of a segment of two dots. -/
def above (isFile : Bool) (path : List Char) : List Char :=
  let path :=
    if path.getLast? = some '/' then
      let before := path.dropLast
      let slash := upToSlash before
      if slash.isEmpty || startsWithDrive (path.drop (slash.length - 1)) then path else before
    else path
  shorten isFile path

/-- Where the reading of a path stands. -/
structure PathState where
  path : List Char
  /-- Where the current segment starts. -/
  start : Nat
  hasHost : Bool

/-- One more character of the current segment. A drive letter ends before it. -/
def PathState.push (isFile : Bool) (s : PathState) (c : Char) : PathState :=
  let s := if isFile && isDrive (s.path.drop 1) then
      { s with path := s.path ++ ['/'], start := s.start + 1 }
    else s
  { s with path := s.path ++ encodeChar pathSet c }

/-- The current segment ended, by a slash or by the end of the path. -/
def PathState.endSegment (isFile bySlash : Bool) (s : PathState) : PathState :=
  let segment := s.path.drop s.start
  let before := s.path.take s.start
  let slash : List Char := if bySlash then ['/'] else []
  let next : PathState :=
    if isDoubleDot segment then
      let path := above isFile before
      { s with path := if bySlash && path.getLast? ≠ some '/' then path ++ ['/'] else path }
    else if isSingleDot segment then
      { s with path := if before.getLast? ≠ some '/' then before ++ ['/'] else before }
    else if isFile && s.start == 1 && isLooseDrive segment then
      { s with path := before ++ segment.take 1 ++ ':' :: slash, hasHost := false }
    else { s with path := s.path ++ slash }
  { next with start := next.path.length }

/-- The segments of a path up to a query or a fragment. -/
def PathState.segments (kind : SchemeKind) : PathState → List Char → PathState × List Char
  | s, [] => (s.endSegment (kind == .file) false, [])
  | s, c :: rest =>
    let isFile := kind == .file
    if c = '/' ∨ (c = '\\' ∧ kind.isSpecial) then
      segments kind (s.endSegment isFile true) rest
    else if c = '?' ∨ c = '#' then (s.endSegment isFile false, c :: rest)
    else segments kind (s.push isFile c) rest

/-- The path that continues a given one, whether the host in front of it stays, and the rest of
the text. -/
def readPath (kind : SchemeKind) (hasHost : Bool) (path text : List Char) :
    List Char × Bool × List Char :=
  let (s, rest) := PathState.segments kind ⟨path, path.length, hasHost⟩ text
  let path := if kind == .file then '/' :: s.path.dropWhile (· = '/') else s.path
  (path, s.hasHost, rest)

/-- The path behind an authority. -/
def readPathStart (kind : SchemeKind) (hasHost : Bool) (text : List Char) :
    List Char × Bool × List Char :=
  if kind.isSpecial then
    match text with
    | '/' :: rest => readPath kind hasHost ['/'] rest
    | '\\' :: rest => readPath kind hasHost ['/'] rest
    | _ => readPath kind hasHost ['/'] text
  else
    match text with
    | [] => readPath kind hasHost [] []
    | '?' :: _ => ([], hasHost, text)
    | '#' :: _ => ([], hasHost, text)
    | '/' :: _ => readPath kind hasHost [] text
    | _ => readPath kind hasHost ['/'] text

end Commissioning.Url
