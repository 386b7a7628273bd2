import Commissioning.Text.Blank
import Commissioning.Text.Hex
import Commissioning.Text.Pieces

set_option autoImplicit false

/-! # Tables of replacements

What stands for some characters, as a table in text form. An entry such as `41-5A>61` replaces a
range of characters by the range that starts at another one, `100-12E/2>101` every second one of a
range, `DF>73.73` a character by several, and `AD>` a character by none. -/

namespace Commissioning.Url

/-- What stands for every character of a range, or for every one at some distance. -/
structure Replacement where
  first : Nat
  last : Nat
  distance : Nat := 1
  /-- What stands for the first character. -/
  target : List Nat
  deriving DecidableEq, Repr

namespace Replacement

/-- The number that hexadecimal digits write; other characters are ignored. -/
def number (digits : List Char) : Nat :=
  (digits.filterMap Text.hexValue).foldl (fun n d => 16 * n + d) 0

/-- The range and the distance of an entry. -/
def range (text : List Char) : Nat × Nat × Nat :=
  match Text.pieces '/' text with
  | [ends] =>
    match Text.pieces '-' ends with
    | [first, last] => (number first, number last, 1)
    | _ => (number ends, number ends, 1)
  | ends :: distance :: _ =>
    match Text.pieces '-' ends with
    | [first, last] => (number first, number last, number distance)
    | _ => (number ends, number ends, 1)
  | [] => (0, 0, 1)

/-- An entry in text form. -/
def ofText? (text : List Char) : Option Replacement :=
  match Text.pieces '>' text with
  | [source, target] =>
    let (first, last, distance) := range source
    some
      { first := first
        last := last
        distance := distance
        target := if target.isEmpty then [] else (Text.pieces '.' target).map number }
  | _ => none

/-- The words of a text between blanks. -/
def words (current : List Char) : List Char → List (List Char)
  | [] => if current.isEmpty then [] else [current.reverse]
  | c :: rest =>
    if Text.isBlank c then
      if current.isEmpty then words [] rest else current.reverse :: words [] rest
    else words (c :: current) rest

/-- A table in text form, with blanks between its entries. -/
def table (text : String) : List Replacement :=
  (words [] text.toList).filterMap ofText?

/-- Whether an entry replaces a character. -/
def replaces (r : Replacement) (n : Nat) : Bool :=
  r.first ≤ n && n ≤ r.last && (n - r.first) % r.distance == 0

/-- What the first entry for a character replaces it by. -/
def find? (table : List Replacement) (c : Char) : Option (List Char) :=
  (List.find? (·.replaces c.toNat) table).map fun r =>
    r.target.map fun n => Char.ofNat (n + (c.toNat - r.first))

end Replacement

end Commissioning.Url
