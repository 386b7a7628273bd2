set_option autoImplicit false

/-! # Pieces of a text

A text cut at every separator, empty pieces included, and put together again. -/

namespace Commissioning.Text

/-- The pieces of a text between the separators; there is always at least one. -/
def pieces (sep : Char) : List Char → List (List Char)
  | [] => [[]]
  | c :: rest =>
    match pieces sep rest with
    | piece :: more => if c = sep then [] :: piece :: more else (c :: piece) :: more
    | [] => [[c]]

/-- The pieces with a separator between any two. -/
def joinPieces (sep : Char) : List (List Char) → List Char
  | [] => []
  | [piece] => piece
  | piece :: more => piece ++ sep :: joinPieces sep more

theorem pieces_ne_nil (sep : Char) (cs : List Char) : pieces sep cs ≠ [] := by
  cases cs with
  | nil => simp [pieces]
  | cons c rest =>
    rw [pieces]
    split
    · split <;> simp
    · simp

end Commissioning.Text
