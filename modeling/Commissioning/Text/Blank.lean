set_option autoImplicit false

/-! # Blank characters

A character is blank when it has the Unicode property White_Space; there are twenty-five of
them. Names and tokens typed by a person are compared and stored without the blanks around them,
and a text made of blanks alone counts as empty. -/

namespace Commissioning.Text

/-- The characters with the property White_Space. -/
def isBlank (c : Char) : Bool :=
  let n := c.toNat
  (9 ≤ n && n ≤ 13) || n == 0x20 || n == 0x85 || n == 0xA0 || n == 0x1680
    || (0x2000 ≤ n && n ≤ 0x200A) || n == 0x2028 || n == 0x2029 || n == 0x202F || n == 0x205F
    || n == 0x3000

/-! ## Trimming -/

/-- The characters without the blanks at either end. -/
def trimBlanks (cs : List Char) : List Char :=
  ((cs.dropWhile isBlank).reverse.dropWhile isBlank).reverse

/-- The text without the blanks at either end. -/
def trim (s : String) : String :=
  String.ofList (trimBlanks s.toList)

/-- Whether the text has no character other than blanks. -/
def isBlankText (s : String) : Bool :=
  s.toList.all isBlank

end Commissioning.Text
