import Commissioning.Text.Pieces

set_option autoImplicit false

/-! # File paths

Paths as texts, with slashes between their segments. Empty segments and single dots count for
nothing, except for a dot at the start of a relative path. -/

namespace Commissioning

/-- A file path. -/
structure Path where
  text : String
  deriving DecidableEq, Repr

namespace Path

/-- The segments of a path, empty ones included. -/
def segments (p : Path) : List (List Char) :=
  Text.pieces '/' p.text.toList

/-- Whether a path starts at the root. -/
def isAbsolute (p : Path) : Bool :=
  p.text.toList.head? == some '/'

/-- Whether a segment counts for nothing behind the start of a path. -/
def isIdle (segment : List Char) : Bool :=
  segment.isEmpty || segment == ['.']

/-- The path of another one seen from this one; an absolute path stays what it is. -/
def join (p : Path) (other : String) : Path :=
  if (Path.mk other).isAbsolute || p.text.isEmpty then ⟨other⟩
  else if p.text.toList.getLast? = some '/' then ⟨p.text ++ other⟩
  else ⟨p.text ++ "/" ++ other⟩

/-- The last segment that counts, unless it leads upwards. -/
def fileName? (p : Path) : Option String :=
  match p.segments.reverse.dropWhile isIdle with
  | segment :: _ => if segment = ['.', '.'] then none else some (String.ofList segment)
  | [] => none

/-- The segments without those at the end that count for nothing. The first segment of a relative
path always counts. -/
def trimIdle (isAbsolute : Bool) (segments : List (List Char)) : List (List Char) :=
  match segments with
  | [] => []
  | first :: rest =>
    let rest := (rest.reverse.dropWhile isIdle).reverse
    if rest.isEmpty && !isAbsolute && first.isEmpty then [] else first :: rest

/-- The path above, if there is one: the root and the empty path have none, and what is above a
single name is the empty path. -/
def parent? (p : Path) : Option Path :=
  match trimIdle p.isAbsolute p.segments with
  | [] => none
  | [first] => if first.isEmpty then none else some ⟨""⟩
  | segments =>
    match trimIdle p.isAbsolute segments.dropLast with
    | [[]] => some ⟨"/"⟩
    | above => some ⟨String.ofList (Text.joinPieces '/' above)⟩

/-- The path and all those above it, in at most the given number of steps. -/
def ancestorsWithin : Nat → Path → List Path
  | 0, p => [p]
  | fuel + 1, p =>
    match p.parent? with
    | some above => p :: ancestorsWithin fuel above
    | none => [p]

/-- The path and all those above it. -/
def ancestors (p : Path) : List Path :=
  ancestorsWithin p.segments.length p

end Path

end Commissioning
