set_option autoImplicit false

/-! # Sets of code points

A set of code points, given by the ascending list of the places at which membership changes: out at
first, in from the first place on, out from the second one on, and so forth. -/

namespace Commissioning.Text

/-- Whether a code point lies past an odd number of the boundaries. -/
def pastOdd (n : Nat) : List Nat → Bool
  | [] => false
  | a :: rest => if n < a then false else !pastOdd n rest

end Commissioning.Text
