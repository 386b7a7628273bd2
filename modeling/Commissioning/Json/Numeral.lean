import Commissioning.Json.Reader

set_option autoImplicit false

/-! # Numbers in JSON

The form of a number and its value. Integers that fit a word of 64 bits are exact; every other
number is binary64, from as many digits as fit an unsigned word, and is refused when it is past
the largest one. -/

namespace Commissioning.Json

open Reader

/-- Whether a byte is a decimal digit. -/
def isDigit (b : UInt8) : Bool :=
  48 ≤ b && b ≤ 57

/-- The value of a decimal digit. -/
def digitValue (b : UInt8) : Nat :=
  b.toNat - 48

/-- The largest unsigned number of 64 bits. -/
def greatestWord : Nat := Nat.pow 2 64 - 1

/-! ## The parts of a number -/

/-- A number as it stands in the text. -/
structure Numeral where
  negative : Bool
  whole : List UInt8
  fraction : Option (List UInt8)
  /-- The sign of the exponent and its digits. -/
  exponent : Option (Bool × List UInt8)

/-- The digits before the point: a zero stands alone. -/
def wholeDigits : Reader (List UInt8) := do
  match ← next with
  | none => fail (.endOfText .value)
  | some '0' => do
    match ← peek with
    | some c => if c.isDigit then failAhead .invalidNumber else pure [48]
    | none => pure [48]
  | some c =>
    if c.isDigit then do
      let digits ← takeWhile isDigit
      pure (UInt8.ofNat c.toNat :: digits)
    else fail .invalidNumber

/-- The point and the digits behind it, one at least. -/
def fractionDigits : Reader (Option (List UInt8)) := do
  match ← peek with
  | some '.' => do
    advance
    match ← takeWhile isDigit with
    | [] => do
      match ← peek with
      | some _ => failAhead .invalidNumber
      | none => failAhead (.endOfText .value)
    | digits => pure (some digits)
  | _ => pure none

/-- Whether an exponent is negative, from behind its letter. -/
def exponentSign : Reader Bool := do
  match ← peek with
  | some '+' => do
    advance
    pure false
  | some '-' => do
    advance
    pure true
  | _ => pure false

/-- The exponent, with one digit at least. -/
def exponentDigits : Reader (Option (Bool × List UInt8)) := do
  let sign : Reader (Option (Bool × List UInt8)) := do
    advance
    let negative ← exponentSign
    match ← next with
    | none => fail (.endOfText .value)
    | some c =>
      if c.isDigit then do
        let digits ← takeWhile isDigit
        pure (some (negative, UInt8.ofNat c.toNat :: digits))
      else fail .invalidNumber
  match ← peek with
  | some 'e' => sign
  | some 'E' => sign
  | _ => pure none

/-! ## The value of a number -/

/-- The number that digits write behind a number already read, and the digits from the first one
with which it would no longer fit a word. -/
def accumulate (n : Nat) : List UInt8 → Nat × List UInt8
  | [] => (n, [])
  | d :: rest =>
    let m := 10 * n + digitValue d
    if greatestWord < m then (n, d :: rest) else accumulate m rest

/-- A binary64 number with its sign. -/
def signedReal (negative : Bool) (x : Binary64) : Number :=
  .real (if negative then x.neg else x)

/-- A number without fraction and exponent whose digits fit a word. -/
def wholeNumber (negative : Bool) (n : Nat) : Number :=
  if !negative then .integer n
  else if 0 < n ∧ n ≤ Nat.pow 2 63 then .integer (-(n : Int))
  else signedReal true ((Binary64.ofNat? n).getD .zero)

/-- The exponent that digits write; past 31 bits, only the digits up to the one that goes past
them are counted and the number is left out. -/
def exponentValue (digits : List UInt8) : Option Nat × Nat :=
  let values := (List.range digits.length).map fun i =>
    Nat.ofDigitChars 10 ((digits.take (i + 1)).map charOfByte) 0
  match values.findIdx? (Nat.pow 2 31 - 1 < ·) with
  | some i => (none, i + 1)
  | none => (values.getLast?, digits.length)

/-- The number of `significand * 10 ^ e`, refused past the largest binary64 number. -/
def scientific (negative : Bool) (significand : Nat) (e : Int) : Reader Number :=
  match Binary64.ofScientific? significand e with
  | some x => pure (signedReal negative x)
  | none => fail .numberOutOfRange

/-- The value of a number whose parts have just been read. -/
def Numeral.value (n : Numeral) : Reader Number :=
  let (whole, left) := accumulate 0 n.whole
  let fraction := n.fraction.getD []
  let (significand, dropped) := accumulate whole fraction
  let e : Int := (left.length : Int) - (fraction.length - dropped.length : Nat)
  match n.exponent with
  | none =>
    if n.fraction.isNone ∧ left.isEmpty then pure (wholeNumber n.negative whole)
    else scientific n.negative significand e
  | some (negative, digits) =>
    match exponentValue digits with
    | (some x, _) =>
      scientific n.negative significand (if negative then e - (x : Int) else e + (x : Int))
    | (none, seen) =>
      if significand ≠ 0 ∧ !negative then fun rest =>
        fail .numberOutOfRange (digits.drop seen ++ rest)
      else pure (signedReal n.negative .zero)

/-- A number from behind its sign. -/
def number (negative : Bool) : Reader Number := do
  let whole ← wholeDigits
  let fraction ← fractionDigits
  let exponent ← exponentDigits
  Numeral.value ⟨negative, whole, fraction, exponent⟩

/-! ## Numbers passed over -/

/-- Digits passed over, one at least. -/
def skipDigits : Reader Unit := do
  match ← next with
  | some c =>
    if c.isDigit then do
      let _ ← takeWhile isDigit
      pure ()
    else fail .invalidNumber
  | none => fail .invalidNumber

/-- The digits before the point passed over: a zero stands alone. -/
def skipWhole : Reader Unit := do
  match ← peek with
  | some '0' => do
    advance
    match ← peek with
    | some c => if c.isDigit then failAhead .invalidNumber else pure ()
    | none => pure ()
  | _ => skipDigits

/-- The point and the digits behind it passed over. -/
def skipFraction : Reader Unit := do
  match ← peek with
  | some '.' => do
    advance
    match ← takeWhile isDigit with
    | [] => failAhead .invalidNumber
    | _ => pure ()
  | _ => pure ()

/-- The exponent passed over. -/
def skipExponent : Reader Unit := do
  let sign : Reader Unit := do
    advance
    let _ ← exponentSign
    skipDigits
  match ← peek with
  | some 'e' => sign
  | some 'E' => sign
  | _ => pure ()

/-- A number passed over, from behind its sign: its form is checked and its value is not. -/
def skipNumber : Reader Unit := do
  skipWhole
  skipFraction
  skipExponent

end Commissioning.Json
