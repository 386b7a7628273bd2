import Commissioning.Files.Error
import Commissioning.Files.Path
import Commissioning.Text.Utf8

set_option autoImplicit false

/-! # A file system

Directories and regular files, and the operations on them that the tool uses, with the errors of
a Unix system. A path is walked segment by segment from the root or the working directory; every
segment but the last has to lead to a directory. -/

namespace Commissioning

/-- The names on the way from the root. -/
abbrev Location : Type := List (List Char)

namespace Files

/-- What stands at a location. -/
inductive Entry where
  | directory
  | file (bytes : List UInt8)
  deriving DecidableEq, Repr

end Files

open Files (Entry Error)

/-- Directories and files, and the directory that relative paths start from. The root is always
there. -/
structure FileSystem where
  entries : List (Location × Entry)
  here : Location
  deriving DecidableEq, Repr

namespace FileSystem

/-- What stands at a location. -/
def find? (fs : FileSystem) (loc : Location) : Option Entry :=
  if loc = [] then some .directory else fs.entries.lookup loc

/-- The file system with something new at a location. -/
def set (fs : FileSystem) (loc : Location) (e : Entry) : FileSystem :=
  { fs with entries := (loc, e) :: fs.entries.filter fun x => x.1 != loc }

theorem find?_set_self (fs : FileSystem) (loc : Location) (e : Entry) (h : loc ≠ []) :
    (fs.set loc e).find? loc = some e := by
  simp [find?, set, h]

theorem find?_set_of_ne (fs : FileSystem) (loc other : Location) (e : Entry)
    (h : other ≠ loc) : (fs.set loc e).find? other = fs.find? other := by
  have hb : (other == loc) = false := by simpa using h
  simp only [find?, set, List.lookup_cons, hb]
  split
  · rfl
  · induction fs.entries with
    | nil => rfl
    | cons x rest ih =>
      obtain ⟨k, v⟩ := x
      by_cases hk : k = loc
      · subst hk
        simp only [List.filter_cons, bne_self_eq_false, List.lookup_cons, hb]
        simpa using ih
      · have hne : (k != loc) = true := by simpa using hk
        simp only [List.filter_cons, hne, if_true, List.lookup_cons]
        split
        · rfl
        · exact ih

/-! ## Walking a path -/

/-- The bytes that a name takes. -/
def nameSize (name : List Char) : Nat :=
  (Text.encodeChars name).length

/-- Whether a location holds a directory. -/
def isDirectoryAt (fs : FileSystem) (loc : Location) : Bool :=
  fs.find? loc == some .directory

/-- The location that one segment leads to, which has to be there. -/
def step (fs : FileSystem) (loc : Location) (segment : List Char) : Except Error Location :=
  if !fs.isDirectoryAt loc then .error .notDirectory
  else if Path.isIdle segment then .ok loc
  else if segment = ['.', '.'] then .ok loc.dropLast
  else if 255 < nameSize segment then .error .nameTooLong
  else if (fs.find? (loc ++ [segment])).isSome then .ok (loc ++ [segment])
  else .error .notFound

/-- The location that segments lead to. -/
def walk (fs : FileSystem) (start : Location) (segments : List (List Char)) :
    Except Error Location :=
  segments.foldlM fs.step start

/-- Where a path starts. -/
def startOf (fs : FileSystem) (p : Path) : Location :=
  if p.isAbsolute then [] else fs.here

/-- A path is refused when no system call would take it. -/
def admissible (p : Path) : Except Error Unit :=
  if p.text.toList.contains '\x00' then .error .zeroInName
  else if p.text.isEmpty then .error .notFound
  else if 4096 ≤ nameSize p.text.toList then .error .nameTooLong
  else .ok ()

/-- The location of what a path leads to. -/
def resolve (fs : FileSystem) (p : Path) : Except Error Location := do
  admissible p
  fs.walk (fs.startOf p) p.segments

/-- The directory above the last of some segments, and that segment. -/
def resolveParent (fs : FileSystem) (p : Path) (segments : List (List Char)) :
    Except Error (Location × List Char) := do
  let above ← fs.walk (fs.startOf p) segments.dropLast
  if fs.isDirectoryAt above then .ok (above, segments.getLast?.getD [])
  else .error .notDirectory

/-! ## Reading and writing -/

/-- Whether a path leads to something. -/
def contains (fs : FileSystem) (p : Path) : Bool :=
  (fs.resolve p).isOk

/-- Whether a path leads to a directory. -/
def isDirectory (fs : FileSystem) (p : Path) : Bool :=
  match fs.resolve p with
  | .ok loc => fs.isDirectoryAt loc
  | .error _ => false

/-- The bytes of the file that a path leads to. -/
def read (fs : FileSystem) (p : Path) : Except Error (List UInt8) := do
  let loc ← fs.resolve p
  match fs.find? loc with
  | some (.file bytes) => .ok bytes
  | some .directory => .error .isDirectory
  | none => .error .notFound

/-- The file that a path leads to holds other bytes; it is created if it is not there. -/
def write (fs : FileSystem) (p : Path) (bytes : List UInt8) : Except Error FileSystem := do
  admissible p
  let (above, name) ← fs.resolveParent p p.segments
  if Path.isIdle name || name == ['.', '.'] then .error .isDirectory
  else if 255 < nameSize name then .error .nameTooLong
  else if fs.isDirectoryAt (above ++ [name]) then .error .isDirectory
  else .ok (fs.set (above ++ [name]) (.file bytes))

/-! ## Directories -/

/-- A new directory. -/
def makeDirectory (fs : FileSystem) (p : Path) : Except Error FileSystem := do
  admissible p
  let segments := (p.segments.reverse.dropWhile (·.isEmpty)).reverse
  if segments.isEmpty then .error .alreadyExists
  else do
    let (above, name) ← fs.resolveParent p segments
    if Path.isIdle name || name == ['.', '.'] then .error .alreadyExists
    else if 255 < nameSize name then .error .nameTooLong
    else if (fs.find? (above ++ [name])).isSome then .error .alreadyExists
    else .ok (fs.set (above ++ [name]) .directory)

/-- The nearest of some paths, each above the one before, that is a directory or can become one;
the paths passed over come back with the file system, the highest first. -/
def makeNearest (fs : FileSystem) : List Path → List Path → Except Error (FileSystem × List Path)
  | passed, [] => .ok (fs, passed)
  | passed, p :: above =>
    if p.text.isEmpty || p.parent?.isNone then .ok (fs, passed)
    else
      match fs.makeDirectory p with
      | .ok fs => .ok (fs, passed)
      | .error .notFound => makeNearest fs (p :: passed) above
      | .error .alreadyExists =>
        if fs.isDirectory p then .ok (fs, passed) else .error .alreadyExists
      | .error e => .error e

/-- New directories one after another; one that is there already is left alone. Where a directory
cannot be made, those made before it stay. -/
def makeAll : FileSystem → List Path → FileSystem × Option Error
  | fs, [] => (fs, none)
  | fs, p :: below =>
    match fs.makeDirectory p with
    | .ok fs => makeAll fs below
    | .error .alreadyExists =>
      if fs.isDirectory p then makeAll fs below else (fs, some .alreadyExists)
    | .error e => (fs, some e)

/-- A directory and all those above it that are missing. Where this fails, the directories made
so far stay. -/
def makeDirectories (fs : FileSystem) (p : Path) : FileSystem × Option Error :=
  if p.text.isEmpty || p.parent?.isNone then (fs, none)
  else
    match fs.makeNearest [] p.ancestors with
    | .error e => (fs, some e)
    | .ok (fs, missing) => makeAll fs missing

end FileSystem

end Commissioning
