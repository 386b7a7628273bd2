set_option autoImplicit false

/-! # Decimal numerals

Natural numbers as decimal digits, with or without a least width, and back. Reading accepts the
ASCII digits only: no sign, no blank, no separator. -/

namespace Commissioning.Text

/-- The ASCII digits `0` to `9`. -/
def isDecimal (c : Char) : Bool :=
  '0' ≤ c && c ≤ '9'

/-- The decimal digits of a number, without leading zeros. -/
def decimal (n : Nat) : List Char :=
  Nat.toDigits 10 n

/-- The decimal digits of a number, with leading zeros up to `width` of them. -/
def decimalPadded (width n : Nat) : List Char :=
  let digits := decimal n
  List.replicate (width - digits.length) '0' ++ digits

/-- The number written by decimal digits. -/
def decimalValue (digits : List Char) : Nat :=
  Nat.ofDigitChars 10 digits 0

/-- The number that a text of decimal digits writes; no other text writes one. -/
def readDecimal (cs : List Char) : Option Nat :=
  if cs.isEmpty || !cs.all isDecimal then none else some (decimalValue cs)

theorem decimalValue_decimal (n : Nat) : decimalValue (decimal n) = n :=
  Nat.ofDigitChars_ten_toDigits

theorem isDecimal_of_mem_decimal (n : Nat) (c : Char) (h : c ∈ decimal n) :
    isDecimal c = true := by
  have := Nat.isDigit_of_mem_toDigits (by decide) (by decide) h
  simpa [Char.isDigit, isDecimal, Char.le_def] using this

theorem decimal_ne_nil (n : Nat) : decimal n ≠ [] :=
  Nat.toDigits_ne_nil

/-- The text of a natural number. -/
def ofNat (n : Nat) : String :=
  String.ofList (decimal n)

/-- The text of an integer: a minus sign before the digits of a negative one. -/
def ofInt : Int → String
  | .ofNat n => ofNat n
  | .negSucc n => "-" ++ ofNat (n + 1)

end Commissioning.Text
