import Commissioning.Text.Decimal

set_option autoImplicit false

/-! # Punycode

Labels with characters outside ASCII, written in ASCII: the ASCII characters in front, and behind
a hyphen the others as a run of numbers. Each number says how far to go, through the places of the
label and then through the characters in their order, to the next character to be inserted. The
digits of a number have weights that depend on the numbers before it. -/

namespace Commissioning.Url.Punycode

/-! ## Digits and weights -/

/-- The value of a digit: letters of either case, then decimal digits. -/
def digitValue (c : Char) : Option Nat :=
  if 'a' ≤ c && c ≤ 'z' then some (c.toNat - 97)
  else if 'A' ≤ c && c ≤ 'Z' then some (c.toNat - 65)
  else if Text.isDecimal c then some (c.toNat - 48 + 26)
  else none

/-- The digit of a value below thirty-six. -/
def digit (n : Nat) : Char :=
  Char.ofNat (if n < 26 then n + 97 else n - 26 + 48)

/-- The value from which on a digit is not the last one of its number. -/
def threshold (bias place : Nat) : Nat :=
  min 26 (max 1 (place - bias))

theorem threshold_pos (bias place : Nat) : 0 < threshold bias place := by
  simp only [threshold]
  omega

/-- How often a distance is divided until it is small, and what is left of it. -/
def shrink (distance : Nat) (steps : Nat) : Nat × Nat :=
  if 455 < distance then shrink (distance / 35) (steps + 36) else (distance, steps)
termination_by distance
decreasing_by omega

/-- The bias after a number, by the length of the label with the inserted character. -/
def adapt (distance length : Nat) (isFirst : Bool) : Nat :=
  let distance := if isFirst then distance / 700 else distance / 2
  let (distance, steps) := shrink (distance + distance / length) 0
  steps + 36 * distance / (distance + 38)

/-! ## Decoding -/

/-- How far a label is decoded. -/
structure State where
  label : List Char
  /-- The character to be inserted next, as a number. -/
  character : Nat := 128
  /-- The place at which it is inserted. -/
  place : Nat := 0
  bias : Nat := 72
  /-- The place before the number that is being read. -/
  before : Nat := 0
  weight : Nat := 1
  /-- The position of the next digit in its number, in steps of thirty-six. -/
  position : Nat := 36

/-- The largest number that is counted with. -/
def limit : Nat := Nat.pow 2 32

/-- The character of a number, if there is one. -/
def character? (n : Nat) : Option Char :=
  if n.isValidChar then some (Char.ofNat n) else none

/-- A character is inserted at the place that has been reached. -/
def insert (s : State) : Option State := do
  let size := s.label.length + 1
  let next := s.character + s.place / size
  let place := s.place % size
  let c ← character? next
  pure
    { label := s.label.take place ++ c :: s.label.drop place
      character := next
      place := place + 1
      bias := adapt (s.place - s.before) size (s.before == 0)
      before := place + 1 }

/-- The state after one more digit. -/
def step (s : State) (c : Char) : Option State := do
  let d ← digitValue c
  let place := s.place + d * s.weight
  if limit ≤ place then none
  else
    let t := threshold s.bias s.position
    if d < t then insert { s with place := place }
    else
      let weight := s.weight * (36 - t)
      if limit ≤ weight then none
      else pure { s with place := place, weight := weight, position := s.position + 36 }

/-- The ASCII characters in front of the last hyphen, and the digits behind it. A hyphen at the
very start counts as a digit, and is none. -/
def parts (text : List Char) : List Char × List Char :=
  let digits := (text.reverse.takeWhile (· ≠ '-')).reverse
  match (text.reverse.dropWhile (· ≠ '-')).reverse.dropLast with
  | [] => ([], text)
  | basic => (basic, digits)

/-- The label that a text writes. -/
def decode (text : List Char) : Option (List Char) := do
  let (basic, digits) := parts text
  let s ← digits.foldlM step { label := basic }
  if s.position = 36 then some s.label else none

/-! ## Encoding -/

/-- The digits of a number. -/
def digits (bias position n : Nat) : List Char :=
  let t := threshold bias position
  if n < t then [digit n]
  else digit (t + (n - t) % (36 - t)) :: digits bias (position + 36) ((n - t) / (36 - t))
termination_by n
decreasing_by
  have ht : 0 < threshold bias position := threshold_pos bias position
  exact Nat.lt_of_le_of_lt (Nat.div_le_self _ _) (Nat.sub_lt (by omega) ht)

/-- How far a label is encoded: what is written, how far it is to the next character, how many
characters are written, and the bias. -/
structure Progress where
  written : List Char
  distance : Nat
  count : Nat
  bias : Nat := 72
  isFirst : Bool := true

/-- One character of the label is passed on the way to all characters with some number. -/
def pass (n : Nat) (p : Progress) (c : Char) : Progress :=
  if c.toNat < n then { p with distance := p.distance + 1 }
  else if c.toNat = n then
    { written := p.written ++ digits p.bias 36 p.distance
      distance := 0
      count := p.count + 1
      bias := adapt p.distance (p.count + 1) p.isFirst
      isFirst := false }
  else p

/-- All characters with one number are written; the last number before them is given. -/
def encodeAll (label : List Char) (s : Nat × Progress) (n : Nat) : Nat × Progress :=
  let p := { s.2 with distance := s.2.distance + (n - s.1) * (s.2.count + 1) }
  let p := label.foldl (pass n) p
  (n + 1, { p with distance := p.distance + 1 })

/-- The text that writes a label. -/
def encode (label : List Char) : List Char :=
  let basic := label.filter (·.toNat < 128)
  let others := ((label.filter (128 ≤ ·.toNat)).map Char.toNat).mergeSort.eraseDups
  let start := if basic.isEmpty then [] else basic ++ ['-']
  (others.foldl (encodeAll label)
    (128, { written := start, distance := 0, count := basic.length })).2.written

end Commissioning.Url.Punycode
