import Commissioning.Text.Decimal

set_option autoImplicit false

/-! # Binary floating point

Finite numbers of IEEE 754 binary64 in exact arithmetic: rounding a quotient to nearest, products
and quotients, and the shortest decimal text that reads back. -/

namespace Commissioning

/-- A finite binary64 number, `± significand * 2 ^ exponent`. The significand of a normal number
has 53 bits; a zero has significand zero and keeps its sign. -/
structure Binary64 where
  negative : Bool
  significand : Nat
  exponent : Int
  deriving DecidableEq, Repr

namespace Binary64

/-- The smallest exponent; a number with fewer than 53 bits has this one. -/
def leastExponent : Int := -1074

/-- The largest exponent of a finite number. -/
def greatestExponent : Int := 971

/-- Positive zero. -/
def zero : Binary64 := ⟨false, 0, leastExponent⟩

/-- The number with the other sign. -/
def neg (x : Binary64) : Binary64 :=
  { x with negative := !x.negative }

/-- Whether the number is a zero of either sign. -/
def isZero (x : Binary64) : Bool :=
  x.significand == 0

/-! ## Rounding -/

/-- The quotient rounded to the nearest natural number, a half going to the even neighbour. -/
def roundDiv (num den : Nat) : Nat :=
  let q := num / den
  let r := num % den
  if 2 * r < den then q
  else if 2 * r = den then q + q % 2
  else q + 1

/-- `num / den / 2 ^ e` as a quotient of natural numbers. -/
def scaled (num den : Nat) (e : Int) : Nat × Nat :=
  if 0 ≤ e then (num, den * Nat.pow 2 e.toNat) else (num * Nat.pow 2 (-e).toNat, den)

/-- The exponent at which a positive quotient has 53 bits before the point, or the least one. -/
def exponentOf (num den : Nat) : Int :=
  let guess : Int := (Nat.log2 num : Int) - (Nat.log2 den : Int) - 52
  let (n, d) := scaled num den guess
  max (if n / d < Nat.pow 2 52 then guess - 1 else guess) leastExponent

/-- The nonnegative number nearest to `num / den`, unless it is past the largest one. -/
def ofQuotient? (num den : Nat) : Option Binary64 :=
  if num = 0 then some zero
  else
    let e := exponentOf num den
    let (n, d) := scaled num den e
    let m := roundDiv n d
    let (m, e) := if m = Nat.pow 2 53 then (Nat.pow 2 52, e + 1) else (m, e)
    if greatestExponent < e then none else some ⟨false, m, e⟩

/-- The magnitude as a quotient of natural numbers. -/
def quotient (x : Binary64) : Nat × Nat :=
  scaled x.significand 1 (-x.exponent)

/-- The number nearest to a natural number. -/
def ofNat? (n : Nat) : Option Binary64 :=
  ofQuotient? n 1

/-- The product of two magnitudes, rounded. -/
def mul? (x y : Binary64) : Option Binary64 :=
  ofQuotient? (x.quotient.1 * y.quotient.1) (x.quotient.2 * y.quotient.2)

/-- The quotient of two magnitudes, rounded. -/
def div? (x y : Binary64) : Option Binary64 :=
  ofQuotient? (x.quotient.1 * y.quotient.2) (x.quotient.2 * y.quotient.1)

/-- `significand * 10 ^ exponent`, computed as a rounded significand times or divided by rounded
powers of ten of at most 308 digits; none when it is past the largest number. -/
def ofScientific? (significand : Nat) (exponent : Int) : Option Binary64 := do
  let rec go : Nat → Binary64 → Int → Option Binary64
    | 0, _, _ => some zero
    | fuel + 1, x, e =>
      if e.natAbs ≤ 308 then do
        let power ← ofNat? (Nat.pow 10 e.natAbs)
        if 0 ≤ e then x.mul? power else x.div? power
      else if x.isZero then some x
      else if 0 ≤ e then none
      else do
        let power ← ofNat? (Nat.pow 10 308)
        let x ← x.div? power
        go fuel x (e + 308)
  let x ← ofNat? significand
  go 4 x exponent

/-! ## Shortest decimal text -/

/-- Whether `digits * 10 ^ e` lies among the reals that round to a positive number, ends included
when its significand is even. -/
def roundsTo (x : Binary64) (digits : Nat) (e : Int) : Bool :=
  let unit := scaled 1 4 (-x.exponent)
  let below := if x.significand = Nat.pow 2 52 ∧ leastExponent < x.exponent then 1 else 2
  let point := (digits * Nat.pow 10 e.toNat, Nat.pow 10 (-e).toNat)
  let low := (4 * x.significand - below) * unit.1 * point.2
  let high := (4 * x.significand + 2) * unit.1 * point.2
  let here := point.1 * unit.2
  if x.significand % 2 = 0 then low ≤ here && here ≤ high else low < here && here < high

/-- The power of ten of the first decimal digit of a positive quotient. -/
def leadingPower (num den : Nat) : Int :=
  if den ≤ num then ((Text.decimal (num / den)).length : Int) - 1
  else
    let zeros := ((List.range 400).find? fun j => den ≤ num * Nat.pow 10 (j + 1)).getD 0
    Int.negSucc zeros

/-- The nearer of the two points of the grid of `10 ^ e` around a positive number, among those
that round to it. -/
def nearestOnGrid (x : Binary64) (e : Int) : Option Nat :=
  let (n, d) := x.quotient
  let num := n * Nat.pow 10 (-e).toNat
  let den := d * Nat.pow 10 e.toNat
  let low := num / den
  let hits := [roundDiv num den, low, low + 1].filter fun digits => x.roundsTo digits e
  hits.head?

/-- The fewest decimal digits that read back as a positive number, and the power of ten of the
last of them. -/
def shortest (x : Binary64) : Nat × Int :=
  let (n, d) := x.quotient
  let top := leadingPower n d
  let grids := (List.range 17).map fun (i : Nat) => top - (i : Int)
  (grids.findSome? fun e => (x.nearestOnGrid e).map (·, e)).getD (0, 0)

/-- The digits without trailing zeros, with the power of ten of the last one left. -/
def dropZeros : Nat → Nat → Int → Nat × Int
  | 0, digits, e => (digits, e)
  | fuel + 1, digits, e =>
    if digits % 10 = 0 ∧ digits ≠ 0 then dropZeros fuel (digits / 10) (e + 1) else (digits, e)

/-- The text of a number: positional between 1e-5 and 1e16, with a fraction of one digit at least,
and scientific elsewhere, with a signed exponent of two digits at least. -/
def text (x : Binary64) : String :=
  let sign := if x.negative then "-" else ""
  if x.isZero then sign ++ "0.0"
  else
    let (digits, last) := x.shortest
    let (digits, last) := dropZeros 20 digits last
    let cs := Text.decimal digits
    let top := last + (cs.length : Int) - 1
    let body :=
      if -5 ≤ top ∧ top < 16 then
        if 0 ≤ last then cs ++ List.replicate last.toNat '0' ++ ['.', '0']
        else if 0 ≤ top then cs.take (top.toNat + 1) ++ '.' :: cs.drop (top.toNat + 1)
        else '0' :: '.' :: List.replicate (-top - 1).toNat '0' ++ cs
      else
        let mantissa := match cs with
          | [c] => [c]
          | c :: rest => c :: '.' :: rest
          | [] => []
        mantissa ++ 'e' :: (if top < 0 then '-' else '+') :: Text.decimalPadded 2 top.natAbs
    sign ++ String.ofList body

end Binary64

end Commissioning
